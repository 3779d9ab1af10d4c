import AsyncUcx.Am.Tasks

/-!
# AsyncUcx — what a consumer of a registered id gets

`wait_msg` returns `None` only from the `pop_front` after its loop, which it reaches
only once the handler's `unregistered` flag is set, and `am_recv` returns `None`
without calling `wait_msg` only when the map has no entry for the id. Only
`am_unregister` sets a flag. So while nothing is unregistered, a consumer of a
registered id never gets `None`: it takes an envelope, or waits for one.

* `Flagless`, `NoDrain` — in every run without `am_unregister` no flag is set and no
  task is at the `pop_front` after the loop (`run_flagless`).
* `registered_never_none` — once an id is registered, and while nothing is
  unregistered, no `am_recv` of the id returns `None`, whether it started before or
  after the registration.
* `recv_queued_envelope` — an `am_recv` of a registered id whose handler holds an
  envelope returns the front one in three steps of its own, without suspending, and
  takes it off the queue.
-/

namespace AsyncUcx

theorem AmHandler.callback_unregistered (fl : RecvAttr) (H : AmHandler) (header : List UInt8)
    (data : Slice) (reply : Nat) (attr : UInt64) :
    (H.callback fl header data reply attr).1.unregistered = H.unregistered := by
  unfold AmHandler.callback AmHandler.notifyOne
  split <;> rfl

namespace Worker

-- ---------------------------------------------------------------------------
-- Only `am_unregister` sets a flag
-- ---------------------------------------------------------------------------

/-- No handler has its `unregistered` flag set. -/
def Flagless (s : Worker) : Prop := ∀ H ∈ s.handlers, H.unregistered = false

namespace Flagless

variable {s : Worker}

theorem modifyHandler (hf : Flagless s) (h : Nat) {f : AmHandler → AmHandler}
    (hfl : ∀ H, s.handlers[h]? = some H → (f H).unregistered = H.unregistered) :
    Flagless (s.modifyHandler h f) := by
  intro H' hH'
  obtain ⟨i, hi⟩ := List.mem_iff_getElem?.1 hH'
  cases hH : s.handlers[i]? with
  | none => simp [List.getElem?_modify, hH] at hi
  | some H =>
    simp only [modifyHandler_handlers, List.getElem?_modify, hH, Option.map_eq_map,
      Option.map_some', Option.some.injEq] at hi
    subst hi
    split
    · subst i
      rw [hfl H hH]
      exact hf H (List.getElem?_mem hH)
    · exact hf H (List.getElem?_mem hH)

theorem amRegister (hf : Flagless s) (id : UInt32) (st : UcsStatus) :
    Flagless (s.amRegister id st) := by
  unfold Worker.amRegister
  split_ifs
  · exact hf
  · intro H hH
    rcases List.mem_append.1 hH with hH | hH
    · exact hf H hH
    · rw [List.mem_singleton.1 hH]
      rfl
  · exact hf

theorem arrive (fl : RecvAttr) (hf : Flagless s) (id : UInt32) (header : List UInt8)
    (data : Slice) (replyEp : Nat) (attr : UInt64) :
    Flagless (s.arrive fl id header data replyEp attr) := by
  unfold Worker.arrive
  split
  · exact hf
  · split
    · exact hf
    · rename_i h _ _ H hH
      have hm : Flagless (s.modifyHandler h fun _ => (H.callback fl header data replyEp attr).1) :=
        hf.modifyHandler h fun H' hH' => by
          rw [hH] at hH'
          cases hH'
          exact AmHandler.callback_unregistered fl H header data replyEp attr
      dsimp only
      split <;> exact hm

theorem stepTask (hf : Flagless s) (t : Nat) : Flagless (s.stepTask t) := by
  unfold Worker.stepTask
  repeat' split
  all_goals first | exact hf | exact hf.modifyHandler _ fun _ _ => rfl

theorem callTask (fl : RecvAttr) (sf : SendFlags) (hf : Flagless s) (t : Nat) (c : MsgCall) :
    Flagless (s.callTask fl sf t c) := by
  unfold Worker.callTask
  split
  · dsimp only
    split <;> exact hf
  · exact hf

theorem dropTask (hf : Flagless s) (t : Nat) : Flagless (s.dropTask t) := by
  unfold Worker.dropTask
  split <;> exact hf

theorem step (fl : RecvAttr) (sf : SendFlags) (hf : Flagless s) {a : Action}
    (ha : a.isUnregister = false) : Flagless (s.step fl sf a) := by
  cases a with
  | register id => exact hf.amRegister id _
  | registerRefused id _ => exact hf.amRegister id _
  | unregister => simp [Action.isUnregister] at ha
  | arrive id header data replyEp attr => exact hf.arrive fl id header data replyEp attr
  | spawn => exact hf
  | step t => exact hf.stepTask t
  | call t c => exact hf.callTask fl sf t c
  | drop t => exact hf.dropTask t

end Flagless

-- ---------------------------------------------------------------------------
-- `None` comes from the look-up or from the drain
-- ---------------------------------------------------------------------------

/-- A step reaches the `pop_front` after the loop only from the flag check of a handler
whose flag is set. -/
theorem nextPc_drain {s : Worker} {id : UInt32} {pc : Pc} {h : Nat}
    (hd : s.nextPc id pc = .drain h) :
    pc = .drain h ∨ pc = .check h ∧ ∃ H, s.handlers[h]? = some H ∧ H.unregistered = true := by
  cases pc <;> simp only [nextPc] at hd <;> (repeat' split at hd) <;> (try cases hd) <;> simp_all

/-- A step returns `None` only from the look-up of an id the map does not hold, or from
the `pop_front` after the loop. -/
theorem nextPc_done_none {s : Worker} {id : UInt32} {pc : Pc}
    (hd : s.nextPc id pc = .done none) :
    pc = .done none ∨ (pc = .lookup ∧ s.amHandlers id = none) ∨ ∃ h, pc = .drain h := by
  cases pc <;> simp only [nextPc] at hd <;> (repeat' split at hd) <;> (try cases hd) <;> simp_all

/-- No task is at the `pop_front` after the loop. -/
def NoDrain (s : Worker) : Prop :=
  ∀ (t : Nat) (id : UInt32) (pc : Pc), s.tasks[t]? = some ⟨id, pc⟩ → ∀ h, pc ≠ .drain h

/-- No task of id `id` has returned `None`. -/
def NoNone (id : UInt32) (s : Worker) : Prop :=
  ∀ (t : Nat) (pc : Pc), s.tasks[t]? = some ⟨id, pc⟩ → pc ≠ .done none

theorem step_noDrain (fl : RecvAttr) (sf : SendFlags) {s : Worker} (hf : Flagless s)
    (hd : NoDrain s) (a : Action) : NoDrain (s.step fl sf a) := by
  intro t id pc' hT' h hpc
  rcases step_task_cases fl sf s a hT' with rfl | ⟨pc, hT, hmv⟩
  · cases hpc
  · cases hmv with
    | stay => exact hd t id _ hT h hpc
    | step =>
      rcases nextPc_drain hpc with rfl | ⟨rfl, H, hH, hfl⟩
      · exact hd t id _ hT h rfl
      · simp [hf H (List.getElem?_mem hH)] at hfl
    | wake => cases hpc
    | handle _ _ _ _ hpc' => rcases hpc' with rfl | ⟨_, rfl⟩ <;> cases hpc

theorem step_noNone (fl : RecvAttr) (sf : SendFlags) {s : Worker} {id : UInt32} {h : Nat}
    (hd : NoDrain s) (hh : s.amHandlers id = some h) (hn : NoNone id s) (a : Action) :
    NoNone id (s.step fl sf a) := by
  intro t pc' hT' hpc
  rcases step_task_cases fl sf s a hT' with rfl | ⟨pc, hT, hmv⟩
  · cases hpc
  · cases hmv with
    | stay => exact hn t _ hT hpc
    | step =>
      rcases nextPc_done_none hpc with rfl | ⟨rfl, hnone⟩ | ⟨h', rfl⟩
      · exact hn t _ hT rfl
      · simp [hh] at hnone
      · exact hd t id _ hT h' rfl
    | wake => cases hpc
    | handle _ _ _ _ hpc' => rcases hpc' with rfl | ⟨_, rfl⟩ <;> cases hpc

theorem run_flagless (fl : RecvAttr) (sf : SendFlags) {as : List Action}
    (has : ∀ a ∈ as, a.isUnregister = false) :
    Flagless (init.run fl sf as) ∧ NoDrain (init.run fl sf as) :=
  run_invariant (fun s => Flagless s ∧ NoDrain s)
    (fun _ a ha hs => ⟨hs.1.step fl sf ha, step_noDrain fl sf hs.1 hs.2 a⟩) has
    ⟨fun _ h => by simp [init] at h, fun _ _ _ h => by simp [init] at h⟩

-- ---------------------------------------------------------------------------
-- A registered id
-- ---------------------------------------------------------------------------

/-- Seen from an id the map holds at `h`, while nothing is unregistered. -/
structure Serving (id : UInt32) (h : Nat) (s : Worker) : Prop where
  flagless : Flagless s
  no_drain : NoDrain s
  mapped : s.amHandlers id = some h
  no_none : NoNone id s

theorem Serving.step (fl : RecvAttr) (sf : SendFlags) {id : UInt32} {h : Nat} {s : Worker}
    (hs : Serving id h s) {a : Action} (ha : a.isUnregister = false) :
    Serving id h (s.step fl sf a) :=
  ⟨hs.flagless.step fl sf ha, step_noDrain fl sf hs.flagless hs.no_drain a,
    step_amHandlers_of_some fl sf ha hs.mapped, step_noNone fl sf hs.no_drain hs.mapped hs.no_none a⟩

theorem stepTask_of_lookup {s : Worker} {t : Nat} {id : UInt32} {h : Nat}
    (hT : s.tasks[t]? = some ⟨id, .lookup⟩) (hh : s.amHandlers id = some h) :
    s.stepTask t = s.setPc t (.check h) := by
  simp [stepTask, hT, hh]

theorem stepTask_of_check {s : Worker} {t : Nat} {id : UInt32} {h : Nat} {H : AmHandler}
    (hT : s.tasks[t]? = some ⟨id, .check h⟩) (hH : s.handlers[h]? = some H)
    (hfl : H.unregistered = false) : s.stepTask t = s.setPc t (.pop h) := by
  simp [stepTask, hT, hH, hfl]

theorem stepTask_of_pop {s : Worker} {t : Nat} {id : UInt32} {h : Nat} {H : AmHandler}
    {m : RawMsg} {rest : List RawMsg} (hT : s.tasks[t]? = some ⟨id, .pop h⟩)
    (hH : s.handlers[h]? = some H) (hm : H.msgs = m :: rest) :
    s.stepTask t = ((s.modifyHandler h fun H => { H with msgs := rest }).setPc t
      (.done (some ⟨m⟩))).log [.deliver id h m] := by
  simp [stepTask, hT, hH, hm]

/-- **`am_recv` on a non-empty queue.** In a state reached without `am_unregister`, an
`am_recv` of a registered id whose handler holds envelopes returns the front one after
three steps of its own (the look-up, the flag check, the `pop_front`), never
suspending, and leaves the rest of the queue. -/
theorem recv_queued_envelope (fl : RecvAttr) (sf : SendFlags) (as : List Action)
    (hno : ∀ a ∈ as, a.isUnregister = false) {id : UInt32} {h : Nat} {m : RawMsg}
    {rest : List RawMsg} (hh : (init.run fl sf as).amHandlers id = some h)
    (hq : (init.run fl sf as).queueOf h = m :: rest) :
    let s : Worker := init.run fl sf as
    let s' : Worker := s.run fl sf
      [.spawn id, .step s.tasks.length, .step s.tasks.length, .step s.tasks.length]
    s'.tasks[s.tasks.length]? = some ⟨id, .done (some ⟨m⟩)⟩ ∧ s'.queueOf h = rest ∧
      s'.trace = s.trace ++ [.deliver id h m] := by
  intro s s'
  obtain ⟨H, hH, hm⟩ : ∃ H, s.handlers[h]? = some H ∧ H.msgs = m :: rest := by
    unfold queueOf at hq
    cases hH : s.handlers[h]? with
    | none => simp [hH] at hq
    | some H => exact ⟨H, rfl, by simpa [hH] using hq⟩
  have hfl := (run_flagless fl sf hno).1 H (List.getElem?_mem hH)
  have h₁ : (s.spawn id).tasks[s.tasks.length]? = some ⟨id, .lookup⟩ := by simp [spawn]
  have h₂ := setPc_task h₁ (.check h)
  have h₃ := setPc_task h₂ (.pop h)
  have hs' : s' = (((((s.spawn id).setPc s.tasks.length (.check h)).setPc s.tasks.length
      (.pop h)).modifyHandler h fun H => { H with msgs := rest }).setPc s.tasks.length
        (.done (some ⟨m⟩))).log [.deliver id h m] := by
    have hrun : s' = (((s.spawn id).stepTask s.tasks.length).stepTask s.tasks.length).stepTask
        s.tasks.length := by
      simp only [s', run, List.foldl_cons, List.foldl_nil, step]
    rw [hrun, stepTask_of_lookup h₁ hh, stepTask_of_check h₂ hH hfl, stepTask_of_pop h₃ hH hm]
  rw [hs']
  refine ⟨setPc_task h₃ _, ?_, rfl⟩
  simp [queueOf_modify, queueOf, hH, spawn]

/-- Two envelopes queued on id 0: a new consumer takes the first, the second stays. -/
theorem recv_queued_envelope_first_of_two :
    let as : List Action :=
      [.register 0, .arrive 0 [1] ⟨0, [1]⟩ 0 0, .arrive 0 [2] ⟨0, [2]⟩ 0 0]
    let m : RawMsg := RawMsg.fromRaw RecvAttr.ucx 0 [1] ⟨0, [1]⟩ 0 0
    let rest : List RawMsg := [RawMsg.fromRaw RecvAttr.ucx 0 [2] ⟨0, [2]⟩ 0 0]
    let s : Worker := init.run RecvAttr.ucx SendFlags.ucx as
    let s' : Worker := s.run RecvAttr.ucx SendFlags.ucx
      [.spawn 0, .step s.tasks.length, .step s.tasks.length, .step s.tasks.length]
    (∀ a ∈ as, a.isUnregister = false) ∧ s.amHandlers 0 = some 0 ∧ s.queueOf 0 = m :: rest ∧
    s'.tasks[s.tasks.length]? = some ⟨0, .done (some ⟨m⟩)⟩ ∧ s'.queueOf 0 = rest ∧
      s'.trace = s.trace ++ [.deliver 0 0 m] :=
  ⟨by decide, by decide, by decide,
    recv_queued_envelope _ _ _ (by decide) (by decide) (by decide)⟩

end Worker

end AsyncUcx
