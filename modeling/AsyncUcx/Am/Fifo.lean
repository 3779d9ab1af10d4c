import AsyncUcx.Am.Registry

/-!
# AsyncUcx — what a step does to the queues

Every action of the registry does one of three things to the handlers' queues and
the ghost trace (`step_queues`):

* nothing to any queue, logging no arrival and no dequeue;
* the callback appends one message to one queue and logs its arrival;
* a task pops the front of one queue and logs the dequeue.

From this the per-handler FIFO law follows for every run: what was dequeued from a
handler, followed by what is still queued on it, is what arrived on it, in order
(`Inv`, `run_inv`).
-/

namespace AsyncUcx

namespace Event

/-- The handler an arrival or a dequeue names. -/
def handler? : Event → Option Nat
  | .arrive _ h _ _ | .deliver _ h _ => some h
  | .ucp _ => none

/-- The message an arrival at `h` enqueued. -/
def arrivedAt (h : Nat) : Event → Option RawMsg
  | .arrive _ h' m _ => if h' = h then some m else none
  | _ => none

/-- The message a dequeue from `h` took. -/
def deliveredAt (h : Nat) : Event → Option RawMsg
  | .deliver _ h' m => if h' = h then some m else none
  | _ => none

theorem arrivedAt_of_handler? {e : Event} (he : e.handler? = none) (h : Nat) :
    e.arrivedAt h = none := by
  cases e <;> simp_all [handler?, arrivedAt]

theorem deliveredAt_of_handler? {e : Event} (he : e.handler? = none) (h : Nat) :
    e.deliveredAt h = none := by
  cases e <;> simp_all [handler?, deliveredAt]

end Event

namespace Worker

/-- The queue of the handler at address `h`; empty where nothing is allocated. -/
def queueOf (s : Worker) (h : Nat) : List RawMsg := (s.handlers[h]?.map AmHandler.msgs).getD []

def arrivedAt (s : Worker) (h : Nat) : List RawMsg := s.trace.filterMap (Event.arrivedAt h)

def deliveredAt (s : Worker) (h : Nat) : List RawMsg := s.trace.filterMap (Event.deliveredAt h)

/-- The three ways a step can touch the queues and the trace. -/
inductive QueueStep (s s' : Worker) : Prop where
  | quiet (hq : ∀ h, s'.queueOf h = s.queueOf h)
      (hlen : s.handlers.length ≤ s'.handlers.length)
      (es : List Event) (htr : s'.trace = s.trace ++ es) (hes : ∀ e ∈ es, e.handler? = none)
  | enqueue (id : UInt32) (h : Nat) (m : RawMsg) (st : UcsStatus)
      (hh : h < s.handlers.length)
      (hq : ∀ h', s'.queueOf h' = if h' = h then s.queueOf h ++ [m] else s.queueOf h')
      (hlen : s'.handlers.length = s.handlers.length)
      (htr : s'.trace = s.trace ++ [.arrive id h m st])
  | dequeue (id : UInt32) (h : Nat) (m : RawMsg)
      (hh : h < s.handlers.length) (hfront : s.queueOf h = m :: s'.queueOf h)
      (hq : ∀ h', h' ≠ h → s'.queueOf h' = s.queueOf h')
      (hlen : s'.handlers.length = s.handlers.length)
      (htr : s'.trace = s.trace ++ [.deliver id h m])

theorem queueOf_modify (s : Worker) (h : Nat) (f : AmHandler → AmHandler) (h' : Nat) :
    (s.modifyHandler h f).queueOf h' =
      if h = h' then ((s.handlers[h']?).map (fun H => (f H).msgs)).getD [] else s.queueOf h' := by
  unfold queueOf
  split <;> simp_all [List.getElem?_modify, Function.comp_def]

/-- A change of handler `h` that keeps its queue keeps every queue. -/
theorem queueOf_modify_of_msgs {s : Worker} {h : Nat} {f : AmHandler → AmHandler}
    (hf : ∀ H, (f H).msgs = H.msgs) (h' : Nat) :
    (s.modifyHandler h f).queueOf h' = s.queueOf h' := by
  rw [queueOf_modify]
  split <;> simp_all [queueOf, Option.map_map, Function.comp_def]

namespace QueueStep

variable {s s' s'' : Worker}

/-- Only the queues and the trace matter. -/
theorem congr (hs : QueueStep s s') (hh : s''.handlers = s'.handlers) (ht : s''.trace = s'.trace) :
    QueueStep s s'' := by
  have hq : ∀ h, s''.queueOf h = s'.queueOf h := by simp [queueOf, hh]
  cases hs with
  | quiet hq' hlen es htr hes => exact .quiet (by simp [hq, hq']) (hh ▸ hlen) es (ht ▸ htr) hes
  | enqueue id h m st hlt hq' hlen htr =>
    exact .enqueue id h m st hlt (by simp [hq, hq']) (hh ▸ hlen) (ht ▸ htr)
  | dequeue id h m hlt hfront hq' hlen htr =>
    exact .dequeue id h m hlt (by simp [hq, hfront]) (by simp_all) (hh ▸ hlen) (ht ▸ htr)

theorem setPc (hs : QueueStep s s') (t : Nat) (pc : Pc) : QueueStep s (s'.setPc t pc) :=
  hs.congr rfl rfl

theorem wake (hs : QueueStep s s') (t : Nat) : QueueStep s (s'.wake t) := hs.congr rfl rfl

theorem of_eq (hh : s'.handlers = s.handlers) (ht : s'.trace = s.trace) : QueueStep s s' :=
  .quiet (fun _ => by simp [queueOf, hh]) (by simp [hh]) [] (by simp [ht]) (by simp)

theorem refl (s : Worker) : QueueStep s s := of_eq rfl rfl

/-- A step that only logs native calls. -/
theorem of_log_ucp (hh : s'.handlers = s.handlers) (cs : List UcpCall)
    (ht : s'.trace = s.trace ++ cs.map .ucp) : QueueStep s s' :=
  .quiet (fun _ => by simp [queueOf, hh]) (by simp [hh]) _ ht (by simp [Event.handler?])

theorem modify (h : Nat) (f : AmHandler → AmHandler) (hf : ∀ H, (f H).msgs = H.msgs) :
    QueueStep s (s.modifyHandler h f) :=
  .quiet (queueOf_modify_of_msgs hf) (by simp) [] (by simp) (by simp)

/-- The callback's shape: one message appended to the queue at `h`, its arrival logged. -/
theorem push {h : Nat} {H H' : AmHandler} {m : RawMsg} (hH : s.handlers[h]? = some H)
    (hH' : H'.msgs = H.msgs ++ [m]) (id : UInt32) (st : UcsStatus) :
    QueueStep s ((s.modifyHandler h fun _ => H').log [.arrive id h m st]) := by
  have hlt : h < s.handlers.length := (List.getElem?_eq_some_iff.1 hH).1
  refine .enqueue id h m st hlt (fun h' => ?_) (by simp) (by simp)
  by_cases hh : h' = h
  · subst hh
    simp [queueOf, List.getElem?_modify, hH, hH']
  · simp [queueOf, List.getElem?_modify, hh, Ne.symm hh]

/-- A dequeue's shape: the front of the queue at `h` removed, the dequeue logged. -/
theorem pop {h : Nat} {H : AmHandler} {m : RawMsg} {rest : List RawMsg}
    (hH : s.handlers[h]? = some H) (hm : H.msgs = m :: rest) (t : Nat) (pc : Pc) (id : UInt32) :
    QueueStep s (((s.modifyHandler h fun H => { H with msgs := rest }).setPc t pc).log
      [.deliver id h m]) := by
  have hlt : h < s.handlers.length := (List.getElem?_eq_some_iff.1 hH).1
  refine .dequeue id h m hlt ?_ (fun h' hne => ?_) (by simp) (by simp)
  · simp [queueOf, List.getElem?_modify, hH, hm]
  · simp [queueOf, List.getElem?_modify, Ne.symm hne]

end QueueStep

theorem amRegister_queues (s : Worker) (id : UInt32) (st : UcsStatus) :
    QueueStep s (s.amRegister id st) := by
  unfold amRegister
  split_ifs
  · exact .refl s
  · refine .quiet (fun h => ?_) (by simp) [] (by simp) (by simp)
    rcases lt_trichotomy h s.handlers.length with hlt | rfl | hgt
    · simp [queueOf, List.getElem?_append_left hlt]
    · simp [queueOf, AmHandler.new]
    · rw [queueOf, queueOf, List.getElem?_eq_none (by simp; omega),
        List.getElem?_eq_none (by omega)]
  · exact .refl s

theorem amUnregister_queues (s : Worker) (id : UInt32) : QueueStep s (s.amUnregister id) := by
  unfold amUnregister
  split
  · exact .refl s
  · exact (QueueStep.modify _ AmHandler.unregister fun _ => rfl).congr rfl rfl

theorem notifyOne_msgs (H : AmHandler) : H.notifyOne.1.msgs = H.msgs := by
  unfold AmHandler.notifyOne
  split <;> rfl

theorem callback_msgs (fl : RecvAttr) (H : AmHandler) (header : List UInt8) (data : Slice)
    (reply : Nat) (attr : UInt64) :
    (H.callback fl header data reply attr).1.msgs =
      H.msgs ++ [RawMsg.fromRaw fl H.id header data reply attr] :=
  notifyOne_msgs _

theorem arrive_queues (fl : RecvAttr) (s : Worker) (id : UInt32) (header : List UInt8)
    (data : Slice) (replyEp : Nat) (attr : UInt64) :
    QueueStep s (s.arrive fl id header data replyEp attr) := by
  unfold arrive
  split
  · exact .refl s
  · split
    · exact .refl s
    · rename_i h H hH
      have hp := QueueStep.push hH (callback_msgs fl H header data replyEp attr) id
        (amRecvStatus fl attr)
      dsimp only
      split
      · exact hp.wake _
      · exact hp

theorem stepTask_queues (s : Worker) (t : Nat) : QueueStep s (s.stepTask t) := by
  unfold stepTask
  repeat' split
  all_goals first
    | exact .of_eq rfl rfl
    | exact QueueStep.pop ‹_› ‹_› _ _ _
    | exact (QueueStep.modify _ _ (by intro; rfl)).setPc _ _

theorem callTask_queues (fl : RecvAttr) (sf : SendFlags) (s : Worker) (t : Nat) (c : MsgCall) :
    QueueStep s (s.callTask fl sf t c) := by
  unfold callTask
  split
  · dsimp only
    split
    · exact .of_log_ucp rfl _ rfl
    · exact .of_log_ucp rfl _ rfl
  · exact .refl s

theorem dropTask_queues (s : Worker) (t : Nat) : QueueStep s (s.dropTask t) := by
  unfold dropTask
  split
  · exact .of_log_ucp rfl _ rfl
  · exact .refl s

/-- What any action does to the queues and the trace. -/
theorem step_queues (fl : RecvAttr) (sf : SendFlags) (s : Worker) (a : Action) :
    QueueStep s (s.step fl sf a) := by
  cases a with
  | register id => exact amRegister_queues s id .ok
  | registerRefused id code => exact amRegister_queues s id (.err code)
  | unregister id => exact amUnregister_queues s id
  | arrive id header data replyEp attr => exact arrive_queues fl s id header data replyEp attr
  | spawn id => exact .of_eq rfl rfl
  | step t => exact stepTask_queues s t
  | call t c => exact callTask_queues fl sf s t c
  | drop t => exact dropTask_queues s t

/-- What holds in every reachable state: the trace names allocated handlers only, and
what was dequeued from a handler, followed by what is still queued on it, is what
arrived on it, in order. -/
structure Inv (s : Worker) : Prop where
  trace_lt : ∀ e ∈ s.trace, ∀ h, e.handler? = some h → h < s.handlers.length
  fifo : ∀ h, s.deliveredAt h ++ s.queueOf h = s.arrivedAt h

theorem init_inv : Inv init :=
  ⟨by simp [init], fun h => by simp [init, deliveredAt, arrivedAt, queueOf]⟩

/-- A step that only appends to the trace, and only events on allocated handlers, keeps
the trace naming allocated handlers only. -/
theorem Inv.trace_lt_append {s s' : Worker} (hi : Inv s) {es : List Event}
    (htr : s'.trace = s.trace ++ es) (hlen : s.handlers.length ≤ s'.handlers.length)
    (hes : ∀ e ∈ es, ∀ h, e.handler? = some h → h < s'.handlers.length) :
    ∀ e ∈ s'.trace, ∀ h, e.handler? = some h → h < s'.handlers.length := by
  intro e he h heh
  rcases List.mem_append.1 (htr ▸ he) with he | he
  · exact lt_of_lt_of_le (hi.trace_lt e he h heh) hlen
  · exact hes e he h heh

theorem QueueStep.inv {s s' : Worker} (hs : QueueStep s s') (hi : Inv s) : Inv s' := by
  cases hs with
  | quiet hq hlen es htr hes =>
    refine ⟨hi.trace_lt_append htr hlen fun e he h heh => by simp [hes e he] at heh,
      fun h => ?_⟩
    have ha : es.filterMap (Event.arrivedAt h) = [] :=
      List.filterMap_eq_nil_iff.2 fun e he => Event.arrivedAt_of_handler? (hes e he) h
    have hd : es.filterMap (Event.deliveredAt h) = [] :=
      List.filterMap_eq_nil_iff.2 fun e he => Event.deliveredAt_of_handler? (hes e he) h
    simp only [deliveredAt, arrivedAt, htr, List.filterMap_append, ha, hd, hq, List.append_nil]
    exact hi.fifo h
  | enqueue id h m st hh hq hlen htr =>
    refine ⟨hi.trace_lt_append htr hlen.ge (by simp_all [Event.handler?]), fun h' => ?_⟩
    have := hi.fifo h'
    by_cases hh' : h' = h
    · subst hh'
      simp_all [deliveredAt, arrivedAt, Event.arrivedAt, Event.deliveredAt, ← List.append_assoc]
    · simp_all [deliveredAt, arrivedAt, Event.arrivedAt, Event.deliveredAt, Ne.symm hh']
  | dequeue id h m hh hfront hq hlen htr =>
    refine ⟨hi.trace_lt_append htr hlen.ge (by simp_all [Event.handler?]), fun h' => ?_⟩
    have := hi.fifo h'
    by_cases hh' : h' = h
    · subst hh'
      simp_all [deliveredAt, arrivedAt, Event.arrivedAt, Event.deliveredAt]
    · simp_all [deliveredAt, arrivedAt, Event.arrivedAt, Event.deliveredAt, Ne.symm hh']

theorem step_inv (fl : RecvAttr) (sf : SendFlags) {s : Worker} (hi : Inv s) (a : Action) :
    Inv (s.step fl sf a) :=
  (step_queues fl sf s a).inv hi

theorem run_inv (fl : RecvAttr) (sf : SendFlags) {s : Worker} (hi : Inv s) (as : List Action) :
    Inv (s.run fl sf as) :=
  run_invariant Inv (fun _ a _ hi => step_inv fl sf hi a) (fun _ _ => trivial) hi

/-- **Per-handler FIFO**, over every run, `am_unregister` included: what was dequeued
from a handler, followed by what is still queued on it, is what arrived on it, in
arrival order. -/
theorem handler_fifo (fl : RecvAttr) (sf : SendFlags) (as : List Action) (h : Nat) :
    let s : Worker := init.run fl sf as
    s.deliveredAt h ++ s.queueOf h = s.arrivedAt h :=
  (run_inv fl sf init_inv as).fifo h

end Worker

end AsyncUcx
