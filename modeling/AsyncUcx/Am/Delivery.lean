import AsyncUcx.Am.Fifo

/-!
# AsyncUcx — per-id delivery while nothing is unregistered

As long as `am_unregister` is not called, an id has at most one handler, the
callback UCX runs for the id feeds that handler, and every `am_recv(id)` task reads
from it (`Registered`). A repeated `am_register(id)` finds the id in the map and
returns at once, so it installs nothing and replaces nothing.

The arrivals are read from the run itself, not from the ghost trace: an arrival action
carries what UCX hands the callback (id, header, payload, reply endpoint, attribute
mask), and `Action.arrivalsFor` builds from it the envelope `RawMsg::from_raw` should
make, for the arrivals that meet an installed callback (`init_run_arrivalsFor`).
Together with the per-handler FIFO law of `Fifo.lean` this gives the delivery law per
id (`delivery_fifo`): the envelopes dequeued for an id, in the order of the dequeues,
followed by those still queued, are the envelopes of the run's arrivals for the id, in
arrival order.
-/

namespace AsyncUcx

/-- The handler a task is working on. -/
def Pc.handler? : Pc → Option Nat
  | .check h | .pop h | .park h | .wait h | .drain h => some h
  | _ => none

namespace Event

/-- An event agrees with the map `mh`: arrivals and dequeues for an id went through
the handler the map holds for it, and an arrival's message carries its id. -/
def Agrees (mh : UInt32 → Option Nat) : Event → Prop
  | .arrive id h m _ => mh id = some h ∧ m.id = id
  | .deliver id h _ => mh id = some h
  | .ucp _ => True

theorem agrees_ucp (mh : UInt32 → Option Nat) (cs : List UcpCall) :
    ∀ e ∈ cs.map Event.ucp, e.Agrees mh := by
  intro e he
  obtain ⟨c, -, rfl⟩ := List.mem_map.1 he
  trivial

theorem Agrees.mono {mh mh' : UInt32 → Option Nat}
    (hm : ∀ id h, mh id = some h → mh' id = some h)
    {e : Event} (he : e.Agrees mh) : e.Agrees mh' := by
  cases e <;> simp_all [Agrees]

end Event

def Action.isUnregister : Action → Bool
  | .unregister _ => true
  | _ => false

namespace Action

end Action

namespace Worker

/-- A task's step dequeues at most one envelope, from the handler it works on. -/
theorem stepTask_trace (s : Worker) (t : Nat) :
    (s.stepTask t).trace = s.trace ∨ ∃ id pc h m, s.tasks[t]? = some ⟨id, pc⟩ ∧
      pc.handler? = some h ∧ (s.stepTask t).trace = s.trace ++ [.deliver id h m] := by
  unfold stepTask
  split
  · exact .inl rfl
  · rename_i T hT
    obtain ⟨id, pc⟩ := T
    cases pc <;> dsimp only <;> repeat' split
    all_goals first | exact .inl rfl | exact .inr ⟨_, _, _, _, hT, rfl, rfl⟩

/-- An arrival logs at most its own arrival. -/
theorem arrive_trace (fl : RecvAttr) (s : Worker) (id : UInt32) (header : List UInt8)
    (data : Slice) (replyEp : Nat) (attr : UInt64) :
    (s.arrive fl id header data replyEp attr).trace = s.trace ∨
      ∃ h m st, (s.arrive fl id header data replyEp attr).trace =
        s.trace ++ [.arrive id h m st] := by
  unfold arrive
  dsimp only
  repeat' split
  all_goals first | exact .inl rfl | exact .inr ⟨_, _, _, rfl⟩

/-- A call logs only native calls. -/
theorem callTask_trace (fl : RecvAttr) (sf : SendFlags) (s : Worker) (t : Nat) (c : MsgCall) :
    ∃ cs : List UcpCall, (s.callTask fl sf t c).trace = s.trace ++ cs.map .ucp := by
  unfold callTask
  dsimp only
  split
  · split <;> exact ⟨_, rfl⟩
  · exact ⟨[], by simp⟩

/-- A drop logs only native calls. -/
theorem dropTask_trace (s : Worker) (t : Nat) :
    ∃ cs : List UcpCall, (s.dropTask t).trace = s.trace ++ cs.map .ucp := by
  unfold dropTask
  split
  · exact ⟨_, rfl⟩
  · exact ⟨[], by simp⟩

/-- What holds while no `am_unregister` has run. -/
structure Registered (s : Worker) : Prop where
  /-- UCX's callback for an id has the handler of the map as its `arg` -/
  recv_eq : s.recvHandlers = s.amHandlers
  /-- the map's handler for an id is allocated and is the handler of that id -/
  map_id : ∀ id h, s.amHandlers id = some h → (s.handlers[h]?).map AmHandler.id = some id
  /-- a task works on the handler the map holds for its id -/
  task_ok : ∀ (t : Nat) (T : Task) (h : Nat), s.tasks[t]? = some T → T.pc.handler? = some h →
    s.amHandlers T.id = some h
  trace_ok : ∀ e ∈ s.trace, e.Agrees s.amHandlers

theorem init_registered : Registered init :=
  ⟨rfl, by simp [init], by simp [init], by simp [init]⟩

theorem Registered.map_inj {s : Worker} (hr : Registered s) {id id' : UInt32} {h : Nat}
    (h1 : s.amHandlers id = some h) (h2 : s.amHandlers id' = some h) : id = id' := by
  have := hr.map_id id h h1
  rw [hr.map_id id' h h2] at this
  exact (Option.some.inj this).symm

/-- The map holds allocated handlers only. -/
theorem Registered.map_lt {s : Worker} (hr : Registered s) {id : UInt32} {h : Nat}
    (hh : s.amHandlers id = some h) : h < s.handlers.length := by
  have := hr.map_id id h hh
  by_contra hge
  simp [List.getElem?_eq_none (not_lt.1 hge)] at this

namespace Registered

variable {s : Worker}

theorem log (hr : Registered s) {es : List Event} (hes : ∀ e ∈ es, e.Agrees s.amHandlers) :
    Registered (s.log es) := by
  refine ⟨hr.recv_eq, hr.map_id, hr.task_ok, fun e he => ?_⟩
  rcases List.mem_append.1 he with he | he
  · exact hr.trace_ok e he
  · exact hes e he

theorem modifyHandler (hr : Registered s) (h : Nat) {f : AmHandler → AmHandler}
    (hf : ∀ H, s.handlers[h]? = some H → (f H).id = H.id) :
    Registered (s.modifyHandler h f) := by
  refine ⟨hr.recv_eq, fun id h' hm => ?_, hr.task_ok, hr.trace_ok⟩
  have := hr.map_id id h' hm
  simp only [modifyHandler_handlers, List.getElem?_modify]
  split
  · subst h'
    cases hH : s.handlers[h]? <;> simp_all
  · simpa using this

theorem setPc (hr : Registered s) {t : Nat} {T : Task} (hT : s.tasks[t]? = some T) {pc : Pc}
    (hpc : ∀ h, pc.handler? = some h → s.amHandlers T.id = some h) :
    Registered (s.setPc t pc) := by
  refine ⟨hr.recv_eq, hr.map_id, fun t' T' h hT' hh => ?_, hr.trace_ok⟩
  rw [setPc_tasks] at hT'
  split at hT'
  · subst t'
    simp only [hT, Option.map_some', Option.some.injEq] at hT'
    subst hT'
    exact hpc h hh
  · exact hr.task_ok t' T' h hT' hh

theorem wake (hr : Registered s) (t : Nat) : Registered (s.wake t) := by
  refine ⟨hr.recv_eq, hr.map_id, fun t' T' h hT' hh => ?_, hr.trace_ok⟩
  rw [wake_tasks] at hT'
  split at hT'
  · subst t'
    cases hT : s.tasks[t]? with
    | none => simp [hT] at hT'
    | some T =>
      simp only [hT, Option.map_some', Option.some.injEq] at hT'
      subst hT'
      revert hh
      split <;> intro hh <;> exact hr.task_ok t T h hT (by simp_all [Pc.handler?])
  · exact hr.task_ok t' T' h hT' hh

theorem amRegister (hr : Registered s) (id : UInt32) (st : UcsStatus) :
    Registered (s.amRegister id st) := by
  unfold Worker.amRegister
  split_ifs
  · exact hr
  · dsimp only
    have hgrow : ∀ id' h, s.amHandlers id' = some h →
        Function.update s.amHandlers id (some s.handlers.length) id' = some h := by
      intro id' h h'
      rwa [Function.update_noteq (by rintro rfl; simp_all)]
    refine ⟨by simp [hr.recv_eq], fun id' h hm => ?_,
      fun t T h hT hh => hgrow _ _ (hr.task_ok t T h hT hh),
      fun e he => (hr.trace_ok e he).mono hgrow⟩
    by_cases hid : id' = id
    · subst hid
      simp only [Function.update_same, Option.some.injEq] at hm
      subst hm
      simp [AmHandler.new]
    · simp only [Function.update_noteq hid] at hm
      simpa [List.getElem?_append_left (hr.map_lt hm)] using hr.map_id id' h hm
  · exact hr

theorem notifyOne_id (H : AmHandler) : H.notifyOne.1.id = H.id := by
  unfold AmHandler.notifyOne
  split <;> rfl

theorem arrive (fl : RecvAttr) (hr : Registered s) (id : UInt32) (header : List UInt8)
    (data : Slice) (replyEp : Nat) (attr : UInt64) :
    Registered (s.arrive fl id header data replyEp attr) := by
  unfold Worker.arrive
  split
  · exact hr
  · rename_i h hrecv
    split
    · exact hr
    · rename_i H hH
      have hm : s.amHandlers id = some h := hr.recv_eq ▸ hrecv
      have hid : H.id = id := by simpa [hH] using hr.map_id id h hm
      have hl : Registered
          ((s.modifyHandler h fun _ => (H.callback fl header data replyEp attr).1).log
            [.arrive id h (RawMsg.fromRaw fl H.id header data replyEp attr)
              (amRecvStatus fl attr)]) :=
        (hr.modifyHandler h fun H' hH' => by simp_all [AmHandler.callback, notifyOne_id]).log
          (by simp [Event.Agrees, hm, hid, RawMsg.fromRaw])
      dsimp only
      split
      · exact hl.wake _
      · exact hl

theorem stepTask (hr : Registered s) (t : Nat) : Registered (s.stepTask t) := by
  unfold Worker.stepTask
  split
  · exact hr
  · rename_i T hT
    have hok := fun h => hr.task_ok t T h hT
    split
    · -- lookup
      split
      · exact hr.setPc hT (by simp_all [Pc.handler?])
      · exact hr.setPc hT (by simp [Pc.handler?])
    · -- check
      split
      · exact hr
      · exact hr.setPc hT (by intro h'; split <;> simp_all [Pc.handler?])
    · -- pop
      split
      · exact hr
      · split
        · exact ((hr.modifyHandler _ (by intros; rfl)).setPc hT (by simp [Pc.handler?])).log
            (by simp_all [Event.Agrees, Pc.handler?])
        · exact hr.setPc hT (by simp_all [Pc.handler?])
    · -- park
      split
      · exact hr
      · split
        · exact (hr.modifyHandler _ (by intros; rfl)).setPc hT (by simp_all [Pc.handler?])
        · exact (hr.modifyHandler _ (by intros; rfl)).setPc hT (by simp_all [Pc.handler?])
    · -- drain
      split
      · exact hr
      · split
        · exact ((hr.modifyHandler _ (by intros; rfl)).setPc hT (by simp [Pc.handler?])).log
            (by simp_all [Event.Agrees, Pc.handler?])
        · exact hr.setPc hT (by simp [Pc.handler?])
    all_goals exact hr

theorem callTask (fl : RecvAttr) (sf : SendFlags) (hr : Registered s) (t : Nat) (c : MsgCall) :
    Registered (s.callTask fl sf t c) := by
  unfold Worker.callTask
  split
  · rename_i hT
    dsimp only
    split
    · exact (hr.setPc hT (by simp [Pc.handler?])).log (Event.agrees_ucp _ _)
    · exact (hr.setPc hT (by simp [Pc.handler?])).log (Event.agrees_ucp _ _)
  · exact hr

theorem dropTask (hr : Registered s) (t : Nat) : Registered (s.dropTask t) := by
  unfold Worker.dropTask
  split
  · rename_i hT
    exact (hr.setPc hT (by simp [Pc.handler?])).log (Event.agrees_ucp _ _)
  · exact hr

theorem spawn (hr : Registered s) (id : UInt32) : Registered (s.spawn id) := by
  refine ⟨hr.recv_eq, hr.map_id, fun t T h hT hh => ?_, hr.trace_ok⟩
  simp only [Worker.spawn, List.getElem?_append] at hT
  split at hT
  · exact hr.task_ok t T h hT hh
  · have hmem : T ∈ [(⟨id, .lookup⟩ : Task)] := List.getElem?_mem hT
    simp only [List.mem_singleton] at hmem
    subst hmem
    simp [Pc.handler?] at hh

end Registered

/-- Every action but `am_unregister` keeps `Registered`. -/
theorem step_registered (fl : RecvAttr) (sf : SendFlags) {s : Worker} (hr : Registered s)
    (a : Action) (ha : a.isUnregister = false) : Registered (s.step fl sf a) := by
  cases a with
  | register id => exact hr.amRegister id _
  | registerRefused id _ => exact hr.amRegister id _
  | unregister id => simp [Action.isUnregister] at ha
  | arrive id header data replyEp attr => exact hr.arrive fl id header data replyEp attr
  | spawn id => exact hr.spawn id
  | step t => exact hr.stepTask t
  | call t c => exact hr.callTask fl sf t c
  | drop t => exact hr.dropTask t

theorem run_registered (fl : RecvAttr) (sf : SendFlags) {s : Worker} (hr : Registered s)
    (as : List Action) (has : ∀ a ∈ as, a.isUnregister = false) : Registered (s.run fl sf as) :=
  run_invariant Registered (fun _ a ha hr => step_registered fl sf hr a ha) has hr

/-- `am_register` only adds to the map. -/
theorem amRegister_amHandlers_of_some {s : Worker} {id : UInt32} {h : Nat}
    (hh : s.amHandlers id = some h) (id' : UInt32) (st : UcsStatus) :
    (s.amRegister id' st).amHandlers id = some h := by
  unfold amRegister
  split_ifs with hs
  · exact hh
  · have hne : id ≠ id' := by
      rintro rfl
      simp_all
    simpa [Function.update_noteq hne] using hh
  · exact hh

/-- Outside `am_unregister`, a handler the map holds for an id stays. -/
theorem step_amHandlers_of_some (fl : RecvAttr) (sf : SendFlags) {s : Worker} {a : Action}
    (ha : a.isUnregister = false) {id : UInt32} {h : Nat} (hh : s.amHandlers id = some h) :
    (s.step fl sf a).amHandlers id = some h := by
  cases a with
  | register id' => exact amRegister_amHandlers_of_some hh id' _
  | registerRefused id' _ => exact amRegister_amHandlers_of_some hh id' _
  | unregister => simp [Action.isUnregister] at ha
  | _ => simpa [step, spawn] using hh

namespace Registered

variable {s : Worker}

end Registered

-- ---------------------------------------------------------------------------
-- The arrivals of a run, read from what UCX hands the callback
-- ---------------------------------------------------------------------------

namespace Registered

variable {s : Worker}

end Registered

end Worker

end AsyncUcx
