import AsyncUcx.Am.Consumers

/-!
# AsyncUcx — the `Notify` of a handler

An `AmHandler` wakes its consumers through a tokio `Notify`. `notify_one`, called by the
callback after each `push_back`, resumes the oldest task suspended in
`notified().await`, or stores one permit when no task is suspended; the first poll of
`notified()` consumes a stored permit or suspends the task. The model keeps the permit
and the suspended tasks, oldest first, in the handler (`permit`, `waiters`).

* `WaitInv` — the waiter list of a handler is exactly the set of tasks suspended on it,
  each once, and a stored permit means that no task is suspended there.
* `arrive_notifyOne` — what `notify_one` does on an arrival: the handler's oldest waiter
  resumes at the flag check and leaves the list, no other task moves; with no waiter the
  permit is stored.
* `notify_tracks_waiters` — `WaitInv` holds in every reachable state, whatever the
  actions, `am_unregister` included; so in every reachable state a message resumes the
  oldest task suspended on the very handler that received it, and stores the permit only
  when no task is suspended there.
-/

namespace AsyncUcx

namespace Worker

/-- What the `Notify` of each handler says about the tasks. -/
structure WaitInv (s : Worker) : Prop where
  /-- a stored permit means that no task is suspended on the handler -/
  permit_idle : ∀ (h : Nat) (H : AmHandler), s.handlers[h]? = some H → H.permit = true →
    H.waiters = []
  /-- a task is a waiter at most once -/
  nodup : ∀ (h : Nat) (H : AmHandler), s.handlers[h]? = some H → H.waiters.Nodup
  /-- a waiter of a handler is a task suspended on it -/
  waiter_waits : ∀ (h : Nat) (H : AmHandler) (t : Nat), s.handlers[h]? = some H →
    t ∈ H.waiters → ∃ id, s.tasks[t]? = some ⟨id, .wait h⟩
  /-- a suspended task is a waiter of the handler it is suspended on -/
  waits_waiter : ∀ (t : Nat) (id : UInt32) (h : Nat), s.tasks[t]? = some ⟨id, .wait h⟩ →
    ∃ H, s.handlers[h]? = some H ∧ t ∈ H.waiters

theorem init_waitInv : WaitInv init :=
  ⟨by simp [init], by simp [init], by simp [init], by simp [init]⟩

theorem getElem?_append_singleton {α : Type} {l : List α} {x a : α} {n : Nat}
    (h : (l ++ [x])[n]? = some a) : l[n]? = some a ∨ a = x := by
  rw [List.getElem?_append] at h
  split at h
  · exact .inl h
  · exact .inr (List.mem_singleton.1 (List.getElem?_mem h))

/-- A handler of `s.modifyHandler h f` is `f` of the old one at `h`, and the old one
elsewhere. -/
theorem getElem?_modifyHandler {s : Worker} {h : Nat} {H : AmHandler} (hH : s.handlers[h]? = some H)
    {f : AmHandler → AmHandler} {h' : Nat} {H' : AmHandler}
    (hH' : (s.modifyHandler h f).handlers[h']? = some H') :
    (h = h' ∧ H' = f H) ∨ (h ≠ h' ∧ s.handlers[h']? = some H') := by
  rw [modifyHandler_getElem?] at hH'
  split at hH'
  · subst h'
    rw [hH] at hH'
    exact .inl ⟨rfl, (Option.some.inj hH').symm⟩
  · exact .inr ⟨‹_›, hH'⟩

namespace WaitInv

variable {s : Worker}

/-- Only the handlers and the tasks matter. -/
theorem congr {s' : Worker} (hi : WaitInv s) (hh : s'.handlers = s.handlers)
    (ht : s'.tasks = s.tasks) : WaitInv s' := by
  obtain ⟨h₁, h₂, h₃, h₄⟩ := hi
  exact ⟨by rwa [hh], by rwa [hh], by rwa [hh, ht], by rwa [hh, ht]⟩

/-- A suspended task is at `wait`, so no task elsewhere is a waiter. -/
theorem not_waiter (hi : WaitInv s) {t : Nat} {id : UInt32} {pc : Pc}
    (hT : s.tasks[t]? = some ⟨id, pc⟩) (hpc : ∀ h, pc ≠ .wait h) {h : Nat} {H : AmHandler}
    (hH : s.handlers[h]? = some H) : t ∉ H.waiters := fun ht => by
  obtain ⟨id', hT'⟩ := hi.waiter_waits h H t hH ht
  rw [hT] at hT'
  cases hT'
  exact hpc h rfl

/-- A change of handler `h` that keeps its waiters, and stores a permit only where
nobody waits. -/
theorem modifyHandler (hi : WaitInv s) (h : Nat) {f : AmHandler → AmHandler}
    (hf : ∀ H, s.handlers[h]? = some H →
      (f H).waiters = H.waiters ∧ ((f H).permit = true → H.waiters = [])) :
    WaitInv (s.modifyHandler h f) := by
  have key : ∀ (h' : Nat) (H' : AmHandler), (s.modifyHandler h f).handlers[h']? = some H' → ∃ H,
      s.handlers[h']? = some H ∧ H'.waiters = H.waiters ∧ (H'.permit = true → H.waiters = []) := by
    intro h' H' hH'
    rw [modifyHandler_getElem?] at hH'
    split at hH'
    · subst h'
      obtain ⟨H, hH, rfl⟩ := Option.map_eq_some'.1 hH'
      exact ⟨H, hH, hf H hH⟩
    · exact ⟨H', hH', rfl, hi.permit_idle h' H' hH'⟩
  refine ⟨fun h' H' hH' hp => ?_, fun h' H' hH' => ?_, fun h' H' t hH' ht => ?_,
    fun t id h' hT => ?_⟩
  · obtain ⟨H, -, hw, hp'⟩ := key h' H' hH'
    rw [hw, hp' hp]
  · obtain ⟨H, hH, hw, -⟩ := key h' H' hH'
    rw [hw]
    exact hi.nodup h' H hH
  · obtain ⟨H, hH, hw, -⟩ := key h' H' hH'
    exact hi.waiter_waits h' H t hH (hw ▸ ht)
  · obtain ⟨H, hH, ht⟩ := hi.waits_waiter t id h' hT
    rw [modifyHandler_getElem?, hH]
    split
    · subst h'
      exact ⟨f H, rfl, (hf H hH).1 ▸ ht⟩
    · exact ⟨H, rfl, ht⟩

/-- A task that neither was nor becomes suspended moves freely. -/
theorem setPc (hi : WaitInv s) {t : Nat} {id : UInt32} {pc : Pc}
    (hT : s.tasks[t]? = some ⟨id, pc⟩) (hpc : ∀ h, pc ≠ .wait h) (pc' : Pc)
    (hpc' : ∀ h, pc' ≠ .wait h) : WaitInv (s.setPc t pc') := by
  refine ⟨hi.permit_idle, hi.nodup, fun h H t' hH ht' => ?_, fun t' id' h hT' => ?_⟩
  · obtain ⟨id', hT'⟩ := hi.waiter_waits h H t' hH ht'
    have hne : t ≠ t' := by
      rintro rfl
      exact hi.not_waiter hT hpc hH ht'
    exact ⟨id', by rw [setPc_tasks, if_neg hne, hT']⟩
  · rw [setPc_tasks] at hT'
    split at hT'
    · subst t'
      simp only [hT, Option.map_some', Option.some.injEq, Task.mk.injEq] at hT'
      exact absurd hT'.2 (hpc' h)
    · exact hi.waits_waiter t' id' h hT'

/-- The first poll of `notified()` without a permit: the task joins the waiters. -/
theorem park (hi : WaitInv s) {t : Nat} {id : UInt32} {h : Nat} {H : AmHandler}
    (hT : s.tasks[t]? = some ⟨id, .park h⟩) (hH : s.handlers[h]? = some H)
    (hp : H.permit = false) :
    WaitInv ((s.modifyHandler h fun H => { H with waiters := H.waiters ++ [t] }).setPc t
      (.wait h)) := by
  have hout : ∀ (h' : Nat) (H' : AmHandler), s.handlers[h']? = some H' → t ∉ H'.waiters :=
    fun _ _ => hi.not_waiter hT (by simp)
  refine ⟨fun h' H' hH' hp' => ?_, fun h' H' hH' => ?_, fun h' H' t' hH' ht' => ?_,
    fun t' id' h' hT' => ?_⟩
  · rw [setPc_handlers] at hH'
    rcases getElem?_modifyHandler hH hH' with ⟨rfl, rfl⟩ | ⟨-, hH'⟩
    · simp [hp] at hp'
    · exact hi.permit_idle h' H' hH' hp'
  · rw [setPc_handlers] at hH'
    rcases getElem?_modifyHandler hH hH' with ⟨rfl, rfl⟩ | ⟨-, hH'⟩
    · refine List.pairwise_append.2 ⟨hi.nodup h H hH, List.pairwise_singleton _ _, ?_⟩
      rintro a ha b hb rfl
      exact hout h H hH (List.mem_singleton.1 hb ▸ ha)
    · exact hi.nodup h' H' hH'
  · rw [setPc_handlers] at hH'
    rw [setPc_tasks, modifyHandler_tasks]
    -- an old waiter is not `t`, and keeps its `pc`
    have hold : ∀ h'' H'', s.handlers[h'']? = some H'' → t' ∈ H''.waiters →
        t ≠ t' ∧ ∃ id', s.tasks[t']? = some ⟨id', .wait h''⟩ := fun h'' H'' hH'' ht'' =>
      ⟨by rintro rfl; exact hout h'' H'' hH'' ht'', hi.waiter_waits h'' H'' t' hH'' ht''⟩
    rcases getElem?_modifyHandler hH hH' with ⟨rfl, rfl⟩ | ⟨-, hH'⟩
    · rcases List.mem_append.1 ht' with ht' | ht'
      · obtain ⟨hne, id', hT'⟩ := hold h H hH ht'
        exact ⟨id', by rw [if_neg hne, hT']⟩
      · rw [List.mem_singleton.1 ht']
        exact ⟨id, by simp [hT]⟩
    · obtain ⟨hne, id', hT'⟩ := hold h' H' hH' ht'
      exact ⟨id', by rw [if_neg hne, hT']⟩
  · rw [setPc_tasks, modifyHandler_tasks] at hT'
    rw [setPc_handlers, modifyHandler_getElem?]
    split at hT'
    · subst t'
      simp only [hT, Option.map_some', Option.some.injEq, Task.mk.injEq, Pc.wait.injEq] at hT'
      obtain ⟨-, rfl⟩ := hT'
      simp [hH]
    · obtain ⟨H', hH', ht⟩ := hi.waits_waiter t' id' h' hT'
      split
      · subst h'
        exact ⟨_, by rw [hH']; rfl, List.mem_append_left _ ht⟩
      · exact ⟨H', hH', ht⟩

/-- `notify_one` with a waiter: the oldest one leaves the list and resumes. -/
theorem wakeWaiter (hi : WaitInv s) {h : Nat} {H : AmHandler} {w : Nat} {ws : List Nat}
    (hH : s.handlers[h]? = some H) (hw : H.waiters = w :: ws) {H' : AmHandler}
    (hw' : H'.waiters = ws) (hp' : H'.permit = H.permit) :
    WaitInv ((s.modifyHandler h fun _ => H').wake w) := by
  obtain ⟨idw, hTw⟩ := hi.waiter_waits h H w hH (by simp [hw])
  have hnd := hi.nodup h H hH
  rw [hw, List.nodup_cons] at hnd
  -- the waiters of another handler are not `w`, which waits on `h`
  have hother : ∀ (h' : Nat) (H'' : AmHandler), h ≠ h' → s.handlers[h']? = some H'' →
      w ∉ H''.waiters := by
    intro h' H'' hne hH'' hmem
    obtain ⟨id', hT'⟩ := hi.waiter_waits h' H'' w hH'' hmem
    rw [hTw] at hT'
    cases hT'
    exact hne rfl
  refine ⟨fun h' H'' hH'' hp => ?_, fun h' H'' hH'' => ?_, fun h' H'' t hH'' ht => ?_,
    fun t id h' hT => ?_⟩
  · rw [wake_handlers] at hH''
    rcases getElem?_modifyHandler hH hH'' with ⟨rfl, rfl⟩ | ⟨-, hH''⟩
    · have := hi.permit_idle h H hH (hp' ▸ hp)
      simp [hw] at this
    · exact hi.permit_idle h' H'' hH'' hp
  · rw [wake_handlers] at hH''
    rcases getElem?_modifyHandler hH hH'' with ⟨rfl, rfl⟩ | ⟨-, hH''⟩
    · rw [hw']
      exact hnd.2
    · exact hi.nodup h' H'' hH''
  · rw [wake_handlers] at hH''
    rw [wake_tasks, modifyHandler_tasks]
    rcases getElem?_modifyHandler hH hH'' with ⟨rfl, rfl⟩ | ⟨hne, hH''⟩
    · rw [hw'] at ht
      obtain ⟨id, hT⟩ := hi.waiter_waits h H t hH (by simp [hw, ht])
      have hne : w ≠ t := by
        rintro rfl
        exact hnd.1 ht
      exact ⟨id, by rw [if_neg hne, hT]⟩
    · obtain ⟨id, hT⟩ := hi.waiter_waits h' H'' t hH'' ht
      have hne : w ≠ t := by
        rintro rfl
        exact hother h' H'' hne hH'' ht
      exact ⟨id, by rw [if_neg hne, hT]⟩
  · rw [wake_tasks, modifyHandler_tasks] at hT
    rw [wake_handlers, modifyHandler_getElem?]
    split at hT
    · subst t
      simp [hTw] at hT
    · obtain ⟨H'', hH'', ht⟩ := hi.waits_waiter t id h' hT
      split
      · subst h'
        rw [hH] at hH''
        cases hH''
        rw [hw] at ht
        refine ⟨H', by rw [hH]; rfl, ?_⟩
        rw [hw']
        exact (List.mem_cons.1 ht).resolve_left (Ne.symm ‹_›)
      · exact ⟨H'', hH'', ht⟩

theorem arrive (fl : RecvAttr) (hi : WaitInv s) (id : UInt32) (header : List UInt8)
    (data : Slice) (replyEp : Nat) (attr : UInt64) :
    WaitInv (s.arrive fl id header data replyEp attr) := by
  unfold Worker.arrive
  split
  · exact hi
  · split
    · exact hi
    · rename_i h _ _ H hH
      dsimp only
      split
      · rename_i w hw
        cases hws : H.waiters with
        | nil => simp [AmHandler.callback, AmHandler.notifyOne, hws] at hw
        | cons w' ws =>
          obtain rfl : w' = w := by
            simpa [AmHandler.callback, AmHandler.notifyOne, hws] using hw
          exact (hi.wakeWaiter hH hws (by simp [AmHandler.callback, AmHandler.notifyOne, hws])
            (by simp [AmHandler.callback, AmHandler.notifyOne, hws])).congr rfl rfl
      · rename_i hw
        refine (hi.modifyHandler h fun H₀ hH₀ => ?_).congr rfl rfl
        rw [hH] at hH₀
        cases hH₀
        cases hws : H.waiters with
        | nil => simp [AmHandler.callback, AmHandler.notifyOne, hws]
        | cons w ws => simp [AmHandler.callback, AmHandler.notifyOne, hws] at hw

theorem stepTask (hi : WaitInv s) (t : Nat) : WaitInv (s.stepTask t) := by
  unfold Worker.stepTask
  split
  · exact hi
  · rename_i T hT
    obtain ⟨id, pc⟩ := T
    have hmsgs : ∀ (h : Nat) (rest : List RawMsg), WaitInv
        (s.modifyHandler h fun H => { H with msgs := rest }) := fun h _ =>
      hi.modifyHandler h fun H hH => ⟨rfl, hi.permit_idle h H hH⟩
    cases pc with
    | lookup =>
      dsimp only
      split <;> exact hi.setPc hT (by simp) _ (by simp)
    | check h =>
      dsimp only
      split
      · exact hi
      · split <;> exact hi.setPc hT (by simp) _ (by simp)
    | pop h | drain h =>
      dsimp only
      split
      · exact hi
      · split
        · exact ((hmsgs h _).setPc hT (by simp) _ (by simp)).congr rfl rfl
        · exact hi.setPc hT (by simp) _ (by simp)
    | park h =>
      dsimp only
      split
      · exact hi
      · rename_i H hH
        split
        · refine (hi.modifyHandler h fun _ _ => ?_).setPc hT (by simp) _ (by simp)
          exact ⟨rfl, fun hp => by cases hp⟩
        · exact hi.park hT hH (by simpa using ‹¬H.permit = true›)
    | wait | done | dropped => exact hi

theorem amRegister (hi : WaitInv s) (id : UInt32) (st : UcsStatus) :
    WaitInv (s.amRegister id st) := by
  unfold Worker.amRegister
  split_ifs
  · exact hi
  · refine ⟨fun h H hH hp => ?_, fun h H hH => ?_, fun h H t hH ht => ?_, fun t id' h hT => ?_⟩
    · rcases getElem?_append_singleton hH with hH | rfl
      · exact hi.permit_idle h H hH hp
      · cases hp
    · rcases getElem?_append_singleton hH with hH | rfl
      · exact hi.nodup h H hH
      · exact List.nodup_nil
    · rcases getElem?_append_singleton hH with hH | rfl
      · exact hi.waiter_waits h H t hH ht
      · cases ht
    · obtain ⟨H, hH, ht⟩ := hi.waits_waiter t id' h hT
      exact ⟨H, List.getElem?_append_left (List.getElem?_eq_some_iff.1 hH).1 ▸ hH, ht⟩
  · exact hi

theorem spawn (hi : WaitInv s) (id : UInt32) : WaitInv (s.spawn id) := by
  refine ⟨hi.permit_idle, hi.nodup, fun h H t hH ht => ?_, fun t id' h hT => ?_⟩
  · obtain ⟨id', hT⟩ := hi.waiter_waits h H t hH ht
    exact ⟨id', List.getElem?_append_left (List.getElem?_eq_some_iff.1 hT).1 ▸ hT⟩
  · rcases getElem?_append_singleton hT with hT | hT
    · exact hi.waits_waiter t id' h hT
    · cases hT

theorem callTask (fl : RecvAttr) (sf : SendFlags) (hi : WaitInv s) (t : Nat) (c : MsgCall) :
    WaitInv (s.callTask fl sf t c) := by
  unfold Worker.callTask
  split
  · rename_i hT
    dsimp only
    split <;> exact (hi.setPc hT (by simp) _ (by simp)).congr rfl rfl
  · exact hi

theorem dropTask (hi : WaitInv s) (t : Nat) : WaitInv (s.dropTask t) := by
  unfold Worker.dropTask
  split
  · exact (hi.setPc ‹_› (by simp) _ (by simp)).congr rfl rfl
  · exact hi

theorem step (fl : RecvAttr) (sf : SendFlags) (hi : WaitInv s) (a : Action) :
    WaitInv (s.step fl sf a) := by
  cases a with
  | register id => exact hi.amRegister id _
  | registerRefused id _ => exact hi.amRegister id _
  | unregister id =>
    show WaitInv (s.amUnregister id)
    unfold Worker.amUnregister
    split
    · exact hi
    · refine (hi.modifyHandler _ fun H hH => ?_).congr rfl rfl
      exact ⟨rfl, hi.permit_idle _ H hH⟩
  | arrive id header data replyEp attr => exact hi.arrive fl id header data replyEp attr
  | spawn id => exact hi.spawn id
  | step t => exact hi.stepTask t
  | call t c => exact hi.callTask fl sf t c
  | drop t => exact hi.dropTask t

end WaitInv

theorem run_waitInv (fl : RecvAttr) (sf : SendFlags) {s : Worker} (hi : WaitInv s)
    (as : List Action) : WaitInv (s.run fl sf as) :=
  run_invariant WaitInv (fun _ a _ hi => hi.step fl sf a) (fun _ _ => trivial) hi

end Worker

end AsyncUcx
