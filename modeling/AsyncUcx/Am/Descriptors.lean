import AsyncUcx.Am.Unregister

/-!
# AsyncUcx — where the transport's descriptors are

When the callback returns `UCS_INPROGRESS`, UCX leaves the payload's descriptor with the
application until `ucp_am_recv_data_nbx` or `ucp_am_data_release` hands it back. A
descriptor held by an envelope that arrived can be in three places: handed back (a
native call in the trace), owned by a task's handle, or in an envelope on a handler's
queue.

* `amRecvStatus_inProgress_iff` — for a non-empty payload the callback returns
  `UCS_INPROGRESS` exactly when the envelope holds a descriptor.
* `run_accounted` — in every reachable state the descriptors of the arrived envelopes
  are, counted with multiplicity, the handed-back ones, the owned ones and the queued
  ones: none is lost and none handed back twice.
* `Registered.queued_mapped` — while nothing is unregistered, every queued envelope is
  on the handler the map holds for its id, so `am_recv` of that id can reach it.
* `descriptor_stranded` — an unregistration can leave a deferred descriptor on a handler
  no `am_recv` reaches, and an empty payload with the `DATA` flag is deferred while no
  envelope holds its descriptor.
-/

namespace AsyncUcx

/-- With `h` the index of `a` in `l`: applying `f` at `h` trades `g a` for `g (f a)`. -/
theorem count_flatMap_modify {α : Type} (g : α → List Nat) (f : α → α) {l : List α}
    {n : Nat} {a : α} (ha : l[n]? = some a) (d : Nat) :
    ((l.modify f n).flatMap g).count d + (g a).count d =
      (l.flatMap g).count d + (g (f a)).count d := by
  obtain ⟨l₁, b, l₂, rfl, rfl, hmod⟩ :=
    List.exists_of_modify f (List.getElem?_eq_some_iff.1 ha).1
  simp only [List.getElem?_append_right (le_refl _), Nat.sub_self, List.getElem?_cons_zero,
    Option.some.injEq] at ha
  subst ha
  simp only [hmod, List.flatMap_append, List.flatMap_cons, List.count_append]
  omega

theorem flatMap_modify_of_eq {α β : Type} {g : α → List β} {f : α → α}
    (hf : ∀ a, g (f a) = g a) (l : List α) (n : Nat) :
    (l.modify f n).flatMap g = l.flatMap g := by
  induction l generalizing n with
  | nil => cases n <;> rfl
  | cons a l ih => cases n <;> simp [List.modify_zero_cons, List.modify_succ_cons, hf, ih]

/-- The descriptor a handle at this `pc` owns. -/
def Pc.held : Pc → List Nat
  | .done (some m) => m.msg.desc.toList
  | _ => []

theorem Pc.held_done (m : AmMsg) : (Pc.done (some m)).held = m.msg.desc.toList := rfl

theorem Pc.held_dropped : Pc.dropped.held = [] := rfl

namespace Event

/-- The descriptor the envelope of an arrival holds. -/
def heldDescs : Event → List Nat
  | .arrive _ _ m _ => m.desc.toList
  | _ => []

/-- The descriptor a native call hands back to UCX. -/
def returnedDescs : Event → List Nat
  | .ucp c => [c.desc]
  | _ => []

theorem returnedDescs_ucp (cs : List UcpCall) :
    (cs.map Event.ucp).flatMap returnedDescs = cs.map UcpCall.desc := by
  induction cs with
  | nil => rfl
  | cons c cs ih => exact congrArg (c.desc :: ·) ih

theorem heldDescs_ucp (cs : List UcpCall) : (cs.map Event.ucp).flatMap heldDescs = [] := by
  induction cs with
  | nil => rfl
  | cons c cs ih => exact ih

end Event

namespace Worker

def arrivedDescs (s : Worker) : List Nat := s.trace.flatMap Event.heldDescs

def returnedDescs (s : Worker) : List Nat := s.trace.flatMap Event.returnedDescs

def ownedDescs (s : Worker) : List Nat := s.tasks.flatMap fun T => T.pc.held

def queuedDescs (s : Worker) : List Nat :=
  s.handlers.flatMap fun H => H.msgs.flatMap fun m => m.desc.toList

/-- Every descriptor an arrived envelope held is handed back, owned or queued, and as
often as it arrived. -/
def Accounted (s : Worker) : Prop :=
  ∀ d, s.arrivedDescs.count d =
    s.returnedDescs.count d + s.ownedDescs.count d + s.queuedDescs.count d

theorem init_accounted : Accounted init := fun _ => rfl

@[simp] theorem arrivedDescs_log (s : Worker) (es : List Event) :
    (s.log es).arrivedDescs = s.arrivedDescs ++ es.flatMap Event.heldDescs :=
  List.flatMap_append _ _ _
@[simp] theorem returnedDescs_log (s : Worker) (es : List Event) :
    (s.log es).returnedDescs = s.returnedDescs ++ es.flatMap Event.returnedDescs :=
  List.flatMap_append _ _ _
@[simp] theorem ownedDescs_log (s : Worker) (es : List Event) :
    (s.log es).ownedDescs = s.ownedDescs := rfl
@[simp] theorem queuedDescs_log (s : Worker) (es : List Event) :
    (s.log es).queuedDescs = s.queuedDescs := rfl
@[simp] theorem arrivedDescs_setPc (s : Worker) (t : Nat) (pc : Pc) :
    (s.setPc t pc).arrivedDescs = s.arrivedDescs := rfl
@[simp] theorem returnedDescs_setPc (s : Worker) (t : Nat) (pc : Pc) :
    (s.setPc t pc).returnedDescs = s.returnedDescs := rfl
@[simp] theorem queuedDescs_setPc (s : Worker) (t : Nat) (pc : Pc) :
    (s.setPc t pc).queuedDescs = s.queuedDescs := rfl
@[simp] theorem arrivedDescs_modifyHandler (s : Worker) (h : Nat) (f : AmHandler → AmHandler) :
    (s.modifyHandler h f).arrivedDescs = s.arrivedDescs := rfl
@[simp] theorem returnedDescs_modifyHandler (s : Worker) (h : Nat) (f : AmHandler → AmHandler) :
    (s.modifyHandler h f).returnedDescs = s.returnedDescs := rfl
@[simp] theorem ownedDescs_modifyHandler (s : Worker) (h : Nat) (f : AmHandler → AmHandler) :
    (s.modifyHandler h f).ownedDescs = s.ownedDescs := rfl

/-- Moving task `t` to `pc` trades the descriptor its old `pc` owned for the one `pc`
owns. -/
theorem ownedDescs_setPc {s : Worker} {t : Nat} {T : Task} (hT : s.tasks[t]? = some T) (pc : Pc)
    (d : Nat) :
    (s.setPc t pc).ownedDescs.count d + T.pc.held.count d =
      s.ownedDescs.count d + pc.held.count d :=
  count_flatMap_modify (fun T : Task => T.pc.held) (fun T : Task => { T with pc }) hT d

/-- Changing handler `h` trades the descriptors of its old queue for those of its new one. -/
theorem queuedDescs_modifyHandler {s : Worker} {h : Nat} {H : AmHandler}
    (hH : s.handlers[h]? = some H) (f : AmHandler → AmHandler) (d : Nat) :
    (s.modifyHandler h f).queuedDescs.count d + (H.msgs.flatMap fun m => m.desc.toList).count d =
      s.queuedDescs.count d + ((f H).msgs.flatMap fun m => m.desc.toList).count d :=
  count_flatMap_modify _ f hH d

theorem ownedDescs_wake (s : Worker) (t : Nat) : (s.wake t).ownedDescs = s.ownedDescs :=
  flatMap_modify_of_eq (fun T => by split <;> simp_all [Pc.held]) _ _

namespace Accounted

variable {s : Worker}

theorem setPc (hacc : Accounted s) {t : Nat} {id : UInt32} {pc : Pc}
    (hT : s.tasks[t]? = some ⟨id, pc⟩) (hpc : pc.held = []) (pc' : Pc) (hpc' : pc'.held = []) :
    Accounted (s.setPc t pc') := by
  intro d
  have ho := ownedDescs_setPc hT pc' d
  have := hacc d
  simp only [hpc, hpc', List.count_nil] at ho
  simp only [arrivedDescs_setPc, returnedDescs_setPc, queuedDescs_setPc]
  omega

/-- A change of a handler that keeps its queue. -/
theorem modifyHandler (hacc : Accounted s) (h : Nat) {f : AmHandler → AmHandler}
    (hf : ∀ H, (f H).msgs = H.msgs) : Accounted (s.modifyHandler h f) := by
  have hq : (s.handlers.modify f h).flatMap (fun H => H.msgs.flatMap fun m => m.desc.toList) =
      s.handlers.flatMap (fun H => H.msgs.flatMap fun m => m.desc.toList) :=
    flatMap_modify_of_eq (fun H => by rw [hf]) _ _
  intro d
  simpa [queuedDescs, hq] using hacc d

theorem wake (hacc : Accounted s) (t : Nat) : Accounted (s.wake t) := by
  intro d
  rw [ownedDescs_wake]
  exact hacc d

/-- A dequeue moves the front envelope's descriptor from the queue to the task's handle. -/
theorem pop (hacc : Accounted s) {h : Nat} {H : AmHandler} {m : RawMsg} {rest : List RawMsg}
    (hH : s.handlers[h]? = some H) (hm : H.msgs = m :: rest) {t : Nat} {id : UInt32} {pc : Pc}
    (hT : s.tasks[t]? = some ⟨id, pc⟩) (hpc : pc.held = []) (id' : UInt32) :
    Accounted (((s.modifyHandler h fun H => { H with msgs := rest }).setPc t
      (.done (some ⟨m⟩))).log [.deliver id' h m]) := by
  intro d
  have hq := queuedDescs_modifyHandler hH (fun H => { H with msgs := rest }) d
  have ho := @ownedDescs_setPc (s.modifyHandler h fun H => { H with msgs := rest }) t
    ⟨id, pc⟩ hT
    (.done (some ⟨m⟩)) d
  have := hacc d
  simp only [hm, hpc, Pc.held_done, List.flatMap_cons, List.count_append, List.count_nil,
    ownedDescs_modifyHandler] at hq ho
  simp [Event.heldDescs, Event.returnedDescs]
  omega

/-- The callback's shape: the arriving envelope, with its descriptor, appended to the
queue at `h`, and its arrival logged. -/
theorem push (hacc : Accounted s) {h : Nat} {H H' : AmHandler} {m : RawMsg}
    (hH : s.handlers[h]? = some H) (hH' : H'.msgs = H.msgs ++ [m]) (id : UInt32)
    (st : UcsStatus) : Accounted ((s.modifyHandler h fun _ => H').log [.arrive id h m st]) := by
  intro d
  have hq := queuedDescs_modifyHandler hH (fun _ => H') d
  have := hacc d
  simp only [hH', List.flatMap_append, List.flatMap_cons, List.flatMap_nil, List.count_append,
    List.append_nil] at hq
  simp [Event.heldDescs, Event.returnedDescs]
  omega

theorem arrive (fl : RecvAttr) (hacc : Accounted s) (id : UInt32) (header : List UInt8)
    (data : Slice) (replyEp : Nat) (attr : UInt64) :
    Accounted (s.arrive fl id header data replyEp attr) := by
  unfold Worker.arrive
  split
  · exact hacc
  · split
    · exact hacc
    · rename_i h H hH
      have hp := hacc.push hH (callback_msgs fl H header data replyEp attr) id
        (amRecvStatus fl attr)
      dsimp only
      split
      · exact hp.wake _
      · exact hp

theorem stepTask (hacc : Accounted s) (t : Nat) : Accounted (s.stepTask t) := by
  unfold Worker.stepTask
  split
  · exact hacc
  · rename_i T hT
    obtain ⟨id, pc⟩ := T
    cases pc with
    | lookup =>
      dsimp only
      split <;> exact hacc.setPc hT rfl _ rfl
    | check h =>
      dsimp only
      split
      · exact hacc
      · split <;> exact hacc.setPc hT rfl _ rfl
    | pop h | drain h =>
      dsimp only
      split
      · exact hacc
      · split
        · exact hacc.pop ‹_› ‹_› hT rfl _
        · exact hacc.setPc hT rfl _ rfl
    | park h =>
      dsimp only
      split
      · exact hacc
      · split <;> exact (hacc.modifyHandler _ (by intro; rfl)).setPc hT rfl _ rfl
    | wait | done | dropped => exact hacc

/-- A task gives up the handle it owns: the native calls it logs hand back what the
handle held, but for what its next `pc` still owns. -/
theorem handOver (hacc : Accounted s) {t : Nat} {id : UInt32} {m : AmMsg}
    (hT : s.tasks[t]? = some ⟨id, .done (some m)⟩) (pc : Pc) (cs : List UcpCall)
    (hcs : cs.map UcpCall.desc ++ pc.held = m.msg.desc.toList) :
    Accounted ((s.setPc t pc).log (cs.map .ucp)) := by
  intro d
  have ho := ownedDescs_setPc hT pc d
  have hc := congrArg (List.count d) hcs
  have := hacc d
  simp only [List.count_append, Pc.held_done] at hc ho
  simp [Event.returnedDescs_ucp, Event.heldDescs_ucp]
  omega

theorem callTask (fl : RecvAttr) (sf : SendFlags) (hacc : Accounted s) (t : Nat) (c : MsgCall) :
    Accounted (s.callTask fl sf t c) := by
  unfold Worker.callTask
  split
  · rename_i m hT
    have hc := MsgCall.run_calls fl sf m c
    dsimp only
    split
    · exact hacc.handOver hT _ _ hc
    · exact hacc.handOver hT .dropped _ (by simp [← hc, AmMsg.drop_calls, Pc.held_dropped])
  · exact hacc

theorem dropTask (hacc : Accounted s) (t : Nat) : Accounted (s.dropTask t) := by
  unfold Worker.dropTask
  split
  · exact hacc.handOver ‹_› .dropped _ (by simp [AmMsg.drop_calls, Pc.held_dropped])
  · exact hacc

theorem amRegister (hacc : Accounted s) (id : UInt32) (st : UcsStatus) :
    Accounted (s.amRegister id st) := by
  unfold Worker.amRegister
  split_ifs
  · exact hacc
  · intro d
    simpa [arrivedDescs, returnedDescs, ownedDescs, queuedDescs, AmHandler.new] using hacc d
  · exact hacc

theorem amUnregister (hacc : Accounted s) (id : UInt32) : Accounted (s.amUnregister id) := by
  unfold Worker.amUnregister
  split
  · exact hacc
  · exact hacc.modifyHandler _ fun _ => rfl

theorem spawn (hacc : Accounted s) (id : UInt32) : Accounted (s.spawn id) := by
  intro d
  simpa [arrivedDescs, returnedDescs, ownedDescs, queuedDescs, Worker.spawn, Pc.held] using hacc d

end Accounted

theorem step_accounted (fl : RecvAttr) (sf : SendFlags) {s : Worker} (hacc : Accounted s)
    (a : Action) : Accounted (s.step fl sf a) := by
  cases a with
  | register id => exact hacc.amRegister id _
  | registerRefused id _ => exact hacc.amRegister id _
  | unregister id => exact hacc.amUnregister id
  | arrive id header data replyEp attr => exact hacc.arrive fl id header data replyEp attr
  | spawn id => exact hacc.spawn id
  | step t => exact hacc.stepTask t
  | call t c => exact hacc.callTask fl sf t c
  | drop t => exact hacc.dropTask t

theorem run_accounted (fl : RecvAttr) (sf : SendFlags) {s : Worker} (hacc : Accounted s)
    (as : List Action) : Accounted (s.run fl sf as) :=
  run_invariant Accounted (fun _ a _ hacc => step_accounted fl sf hacc a) (fun _ _ => trivial) hacc

theorem step_arrivedDescs (fl : RecvAttr) (sf : SendFlags) (s : Worker) {a : Action}
    (ha : a.isArrive = false) : (s.step fl sf a).arrivedDescs = s.arrivedDescs := by
  cases a with
  | arrive => simp [Action.isArrive] at ha
  | step t =>
    rcases stepTask_trace s t with he | ⟨_, _, _, _, _, _, he⟩ <;>
      simp [step, arrivedDescs, he, Event.heldDescs]
  | call t c =>
    obtain ⟨cs, he⟩ := callTask_trace fl sf s t c
    simp [step, arrivedDescs, he, Event.heldDescs_ucp]
  | drop t =>
    obtain ⟨cs, he⟩ := dropTask_trace s t
    simp [step, arrivedDescs, he, Event.heldDescs_ucp]
  | _ => simp [step, arrivedDescs, spawn]

theorem run_arrivedDescs (fl : RecvAttr) (sf : SendFlags) (s : Worker) {bs : List Action}
    (hbs : ∀ b ∈ bs, b.isArrive = false) : (s.run fl sf bs).arrivedDescs = s.arrivedDescs :=
  run_invariant (fun s' => s'.arrivedDescs = s.arrivedDescs)
    (fun s' _ ha h => (step_arrivedDescs fl sf s' ha).trans h) hbs rfl

theorem queuedDescs_pos {s : Worker} {h : Nat} {m : RawMsg} {l : List RawMsg}
    (hq : s.queueOf h = m :: l) {d : Nat} (hd : m.desc = some d) : 0 < s.queuedDescs.count d := by
  unfold queueOf at hq
  cases hH : s.handlers[h]? with
  | none => simp [hH] at hq
  | some H =>
    simp only [hH, Option.map_some', Option.getD_some] at hq
    refine List.count_pos_iff.2 (List.mem_flatMap.2 ⟨H, List.getElem?_mem hH, ?_⟩)
    exact List.mem_flatMap.2 ⟨m, by simp [hq], by simp [hd]⟩

/-- While nothing is unregistered, an envelope queued on a handler arrived there through
the callback of its id, and the map still holds that handler for the id. -/
theorem Registered.queued_mapped {s : Worker} (hr : Registered s) (hi : Inv s) {h : Nat}
    {H : AmHandler} (hH : s.handlers[h]? = some H) {m : RawMsg} (hm : m ∈ H.msgs) :
    s.amHandlers m.id = some h := by
  have hq : m ∈ s.arrivedAt h := by
    rw [← hi.fifo h]
    exact List.mem_append_right _ (by simpa [queueOf, hH] using hm)
  obtain ⟨e, he, hem⟩ := List.mem_filterMap.1 hq
  have ha := hr.trace_ok e he
  cases e with
  | arrive id h' m' st =>
    simp only [Event.arrivedAt] at hem
    split at hem
    · cases hem
      obtain ⟨h1, h2⟩ := ha
      rw [h2, h1]
      simp_all
    · cases hem
  | _ => simp [Event.arrivedAt] at hem

end Worker

/-- For a non-empty payload the callback returns `UCS_INPROGRESS` exactly when the
envelope it builds holds the descriptor. -/
theorem amRecvStatus_inProgress_iff (fl : RecvAttr) (id : UInt32) (header : List UInt8)
    {data : Slice} (hd : data.bytes ≠ []) (replyEp : Nat) (attr : UInt64) :
    amRecvStatus fl attr = .inProgress ↔
      (RawMsg.fromRaw fl id header data replyEp attr).desc.isSome := by
  have hl : data.bytes.length ≠ 0 := by simpa using hd
  simp only [amRecvStatus, ne_eq, and_or_ne_zero_iff, RawMsg.fromRaw, RawMsg.desc,
    AmData.fromRaw, hl]
  by_cases h1 : attr &&& fl.flagData = 0 <;> by_cases h2 : attr &&& fl.flagRndv = 0 <;>
    simp [h1, h2, AmData.desc]

namespace Worker

/-- **Descriptors.** For a non-empty payload the callback defers the descriptor exactly
when the envelope it enqueues holds it; in every reachable state the descriptors the
arrived envelopes held are, with multiplicity, those handed back to UCX, those owned by
handles and those in queued envelopes; and while no `am_unregister` has run, every
queued envelope is on the handler the map holds for its id. -/
theorem descriptors_accounted (fl : RecvAttr) (sf : SendFlags) (as : List Action) :
    let s : Worker := init.run fl sf as
    (∀ (id : UInt32) (header : List UInt8) (data : Slice) (replyEp : Nat) (attr : UInt64),
      data.bytes ≠ [] → (amRecvStatus fl attr = .inProgress ↔
        (RawMsg.fromRaw fl id header data replyEp attr).desc.isSome)) ∧
    s.arrivedDescs.Perm (s.returnedDescs ++ s.ownedDescs ++ s.queuedDescs) ∧
    ((∀ a ∈ as, a.isUnregister = false) → ∀ (h : Nat) (H : AmHandler),
      s.handlers[h]? = some H → ∀ m ∈ H.msgs, s.amHandlers m.id = some h) := by
  intro s
  have hacc : Accounted s := run_accounted fl sf init_accounted as
  refine ⟨fun id header _ replyEp attr hd =>
      amRecvStatus_inProgress_iff fl id header hd replyEp attr,
    List.perm_iff_count.2 fun d => ?_, fun has h H hH m hm => ?_⟩
  · simpa [List.count_append, Nat.add_assoc] using hacc d
  · exact (run_registered fl sf init_registered as has).queued_mapped
      (run_inv fl sf init_inv as) hH hm

/-- Two runs against "no descriptor is stranded". In the first, an envelope holding
descriptor 5 (the `DATA` flag is set, so the callback returned `UCS_INPROGRESS`) is
queued on handler 0 when id 0 is unregistered: in every continuation it stays queued on
a handler from which nothing is ever dequeued, and descriptor 5 is handed back fewer
times than envelopes held it. In the second the payload is empty: the callback returns
`UCS_INPROGRESS` while the envelope holds no descriptor, and in every continuation
without arrivals descriptor 5 is never handed back. -/
theorem descriptor_stranded :
    let m : RawMsg := RawMsg.fromRaw RecvAttr.ucx 0 [] ⟨5, [1]⟩ 0 65536
    let s : Worker := init.run RecvAttr.ucx SendFlags.ucx
      [.register 0, .arrive 0 [] ⟨5, [1]⟩ 0 65536, .unregister 0]
    let m' : RawMsg := RawMsg.fromRaw RecvAttr.ucx 0 [] ⟨5, []⟩ 0 65536
    let s' : Worker := init.run RecvAttr.ucx SendFlags.ucx [.register 0, .arrive 0 [] ⟨5, []⟩ 0 65536]
    s.trace = [.arrive 0 0 m .inProgress] ∧ m.desc = some 5 ∧ s.queueOf 0 = [m] ∧
    (∀ bs : List Action, (s.run RecvAttr.ucx SendFlags.ucx bs).deliveredAt 0 = [] ∧
      (∃ l, (s.run RecvAttr.ucx SendFlags.ucx bs).queueOf 0 = m :: l) ∧
      (s.run RecvAttr.ucx SendFlags.ucx bs).returnedDescs.count 5 <
        (s.run RecvAttr.ucx SendFlags.ucx bs).arrivedDescs.count 5) ∧
    s'.trace = [.arrive 0 0 m' .inProgress] ∧ m'.desc = none ∧
    ∀ bs : List Action, (∀ b ∈ bs, b.isArrive = false) →
      5 ∉ (s'.run RecvAttr.ucx SendFlags.ucx bs).returnedDescs := by
  intro m s m' s'
  have hu : Unreachable 0 ((init.run RecvAttr.ucx SendFlags.ucx
      [.register 0, .arrive 0 [] ⟨5, [1]⟩ 0 65536]).amUnregister 0) :=
    (run_registered _ _ init_registered _ (by decide)).unreachable_of_no_tasks
      (by decide) (by decide)
  replace hu : Unreachable 0 s := hu
  have hi : Inv s := run_inv _ _ init_inv _
  refine ⟨by decide, by decide, by decide, fun bs => ?_, by decide, by decide, fun bs hbs => ?_⟩
  · obtain ⟨l, hq⟩ := hu.run_queueOf hi bs
    have hq' : (s.run RecvAttr.ucx SendFlags.ucx bs).queueOf 0 = m :: l := by
      rw [hq, show s.queueOf 0 = [m] by decide]
      rfl
    have hacc : Accounted (s.run RecvAttr.ucx SendFlags.ucx bs) :=
      run_accounted _ _ (run_accounted _ _ init_accounted _) bs
    have h5 := hacc 5
    have hpos := queuedDescs_pos hq' (by decide : m.desc = some 5)
    exact ⟨(hu.run bs).2.trans (by decide), ⟨l, hq'⟩, by omega⟩
  · have hacc : Accounted (s'.run RecvAttr.ucx SendFlags.ucx bs) :=
      run_accounted _ _ (run_accounted _ _ init_accounted _) bs
    have h5 := hacc 5
    rw [run_arrivedDescs _ _ _ hbs, show s'.arrivedDescs = [] by decide, List.count_nil] at h5
    exact List.count_eq_zero.1 (by omega)

end Worker

end AsyncUcx
