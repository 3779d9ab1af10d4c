import AsyncUcx.Am.Notify
import AsyncUcx.Am.Unregister

/-!
# AsyncUcx — the executor: a poll of `am_recv` runs to its next await

`Worker` holds `Rc`s, so the tasks of a worker run on one thread, under a
single-threaded executor: a poll of an `am_recv` future runs its body from where it
stopped until it returns or awaits a `notified()` that finds no permit, and UCX runs
the callbacks between two polls, from the `worker.progress()` of another task. The
model of `Registry.lean` cuts a poll into steps that other actions may interleave with;
this module puts the steps of a poll back together.

* `poll` — task `t` steps until it returns, holds a dropped handle, waits on a
  `Notify`, or is absent; `pollFuel` bounds the loop.
* `resume`, `pollSpec` — what a poll does, in one piece: hand out the front of the
  queue, return `None` from an unregistered handler whose queue is empty, or consume the
  permit and suspend as the newest waiter. `pollFuel_eq_pollSpec`: from a state an
  executor leaves, seven steps of the task are a whole poll, and more change nothing.
* `exec`, `execRun` — the executor: every action of the fine model, a task's turn being
  a whole poll. `execRun_refines`: an executor run is the run of the fine model that
  expands each turn of a task into the steps of its poll, up to its next await
  (`Expands`), so the invariants of the fine runs (`Allocated`, `WaitInv`) hold of it. `ExecInv` adds what only the executor keeps: no task is inside a poll (`AtRest`),
  and `Awake`.
* `poll_whole` — in every state an executor reaches, a poll is `pollSpec` and leaves the
  task suspended.
* `no_lost_wakeup` — while a task waits on a handler, every message queued there is
  matched by a task already woken, which looks at the queue when next polled. After a
  round that polls every task once, no task waits on a handler whose queue holds a
  message (`round_no_waiter_on_queue`).
-/

namespace AsyncUcx

/-- A task at this `pc` cannot run on: it returned, its handle is gone, or it waits on
a `Notify`. -/
def Pc.suspended : Pc → Bool
  | .wait _ | .done _ | .dropped => true
  | _ => false

/-- Where an executor leaves a task between two of its polls: not started yet, woken,
or suspended. -/
def Pc.atRest : Pc → Bool
  | .pop _ | .park _ | .drain _ => false
  | _ => true

theorem List.countP_modify {α : Type} (p : α → Bool) (f : α → α) :
    ∀ {l : List α} {n : Nat} {a : α}, l[n]? = some a →
      (l.modify f n).countP p + (if p a then 1 else 0) =
        l.countP p + (if p (f a) then 1 else 0)
  | [], _, _, ha => by simp at ha
  | x :: l, 0, a, ha => by
    simp only [List.getElem?_cons_zero, Option.some.injEq] at ha
    subst ha
    simp only [List.modify_zero_cons, List.countP_cons]
    omega
  | x :: l, n + 1, a, ha => by
    rw [List.getElem?_cons_succ] at ha
    simp only [List.modify_succ_cons, List.countP_cons]
    have := List.countP_modify p f ha
    omega

namespace Worker

-- ---------------------------------------------------------------------------
-- Normal forms of updates
-- ---------------------------------------------------------------------------

@[simp] theorem setPc_setPc (s : Worker) (t : Nat) (pc pc' : Pc) :
    (s.setPc t pc).setPc t pc' = s.setPc t pc' := by
  simp only [setPc, List.modify_modify_eq]
  rfl

@[simp] theorem setPc_modifyHandler (s : Worker) (t : Nat) (pc : Pc) (h : Nat)
    (f : AmHandler → AmHandler) :
    (s.setPc t pc).modifyHandler h f = (s.modifyHandler h f).setPc t pc := rfl

@[simp] theorem modifyHandler_modifyHandler (s : Worker) (h : Nat)
    (f g : AmHandler → AmHandler) :
    (s.modifyHandler h f).modifyHandler h g = s.modifyHandler h (g ∘ f) := by
  simp only [modifyHandler, List.modify_modify_eq]

theorem modifyHandler_congr {s : Worker} {h : Nat} {H : AmHandler}
    (hH : s.handlers[h]? = some H) {f g : AmHandler → AmHandler} (hfg : f H = g H) :
    s.modifyHandler h f = s.modifyHandler h g := by
  simp only [modifyHandler, Worker.mk.injEq, and_true, true_and]
  apply List.ext_getElem?
  intro h'
  simp only [List.getElem?_modify]
  split
  · subst h'
    simp [hH, hfg]
  · rfl

@[simp] theorem callTask_handlers (fl : RecvAttr) (sf : SendFlags) (s : Worker) (t : Nat)
    (c : MsgCall) : (s.callTask fl sf t c).handlers = s.handlers := by
  unfold callTask
  dsimp only
  repeat' split
  all_goals rfl

@[simp] theorem dropTask_handlers (s : Worker) (t : Nat) :
    (s.dropTask t).handlers = s.handlers := by
  unfold dropTask
  repeat' split
  all_goals rfl

-- ---------------------------------------------------------------------------
-- Polls
-- ---------------------------------------------------------------------------

/-- Task `t` cannot run on, or there is no task `t`. -/
def suspendedAt (s : Worker) (t : Nat) : Bool :=
  match s.tasks[t]? with
  | some T => T.pc.suspended
  | none => true

/-- Poll task `t`: at most `fuel` steps of `am_recv`, up to its next await. -/
def pollFuel : Nat → Worker → Nat → Worker
  | 0, s, _ => s
  | fuel + 1, s, t => if s.suspendedAt t then s else pollFuel fuel (s.stepTask t) t

/-- One poll of the `am_recv` future of task `t`. -/
def poll (s : Worker) (t : Nat) : Worker := pollFuel 7 s t

theorem suspendedAt_of_task {s : Worker} {t : Nat} {id : UInt32} {pc : Pc}
    (hT : s.tasks[t]? = some ⟨id, pc⟩) : s.suspendedAt t = pc.suspended := by
  simp [suspendedAt, hT]

theorem pollFuel_of_suspendedAt {s : Worker} {t : Nat} (hs : s.suspendedAt t = true)
    (n : Nat) : s.pollFuel n t = s := by
  cases n <;> simp [pollFuel, hs]

theorem pollFuel_succ {s : Worker} {t : Nat} (hs : s.suspendedAt t = false) (n : Nat) :
    s.pollFuel (n + 1) t = (s.stepTask t).pollFuel n t := by
  simp [pollFuel, hs]

/-- A poll is a run of the fine model made of the task's own steps, at most `fuel` of
them, before each of which the task could still run on. -/
theorem pollFuel_eq_run (fl : RecvAttr) (sf : SendFlags) (n : Nat) (s : Worker) (t : Nat) :
    ∃ k ≤ n, s.pollFuel n t = s.run fl sf (List.replicate k (.step t)) ∧
      ∀ j < k, (s.run fl sf (List.replicate j (.step t))).suspendedAt t = false := by
  induction n generalizing s with
  | zero => exact ⟨0, le_rfl, rfl, fun j hj => absurd hj (Nat.not_lt_zero j)⟩
  | succ n ih =>
    cases hs : s.suspendedAt t
    · obtain ⟨k, hk, he, hmin⟩ := ih (s.stepTask t)
      refine ⟨k + 1, by omega, ?_, fun j hj => ?_⟩
      · rw [pollFuel_succ hs, he, List.replicate_succ, run_cons]
        rfl
      · cases j with
        | zero => exact hs
        | succ j =>
          rw [List.replicate_succ, run_cons]
          exact hmin j (by omega)
    · exact ⟨0, Nat.zero_le _, pollFuel_of_suspendedAt hs _,
        fun j hj => absurd hj (Nat.not_lt_zero j)⟩

-- ---------------------------------------------------------------------------
-- What a poll does, in one piece
-- ---------------------------------------------------------------------------

/-- One poll of `wait_msg` from the flag check of handler `h`: the front of the queue if
there is one; `None` if the handler is unregistered and its queue is empty; otherwise
the permit, if stored, is consumed and the task suspends as the newest waiter. -/
def resume (s : Worker) (t : Nat) (id : UInt32) (h : Nat) : Worker :=
  match s.handlers[h]? with
  | none => s
  | some H =>
    match H.msgs with
    | m :: rest =>
      ((s.modifyHandler h fun H => { H with msgs := rest }).setPc t (.done (some ⟨m⟩))).log
        [.deliver id h m]
    | [] =>
      if H.unregistered then s.setPc t (.done none)
      else (s.modifyHandler h fun H => { H with permit := false, waiters := H.waiters ++ [t] }).setPc
        t (.wait h)

/-- One poll of `am_recv` from where an executor leaves a task. -/
def pollSpec (s : Worker) (t : Nat) : Worker :=
  match s.tasks[t]? with
  | some ⟨id, .lookup⟩ =>
    match s.amHandlers id with
    | some h => s.resume t id h
    | none => s.setPc t (.done none)
  | some ⟨id, .check h⟩ => s.resume t id h
  | _ => s

theorem resume_setPc {s : Worker} {h : Nat} {H : AmHandler} (hH : s.handlers[h]? = some H)
    (t : Nat) (pc : Pc) (id : UInt32) : (s.setPc t pc).resume t id h = s.resume t id h := by
  simp only [resume, setPc_handlers, hH]
  split
  · simp only [setPc_modifyHandler, setPc_setPc]
  · split <;> simp only [setPc_modifyHandler, setPc_setPc]

section Steps

variable {s : Worker} {t : Nat} {id : UInt32} {h : Nat} {H : AmHandler}

-- The branches of `stepTask` a poll takes that `Consumers.lean` has not stated

theorem stepTask_of_lookup_none (hT : s.tasks[t]? = some ⟨id, .lookup⟩)
    (hh : s.amHandlers id = none) : s.stepTask t = s.setPc t (.done none) := by
  simp [stepTask, hT, hh]

theorem stepTask_of_check_drain (hT : s.tasks[t]? = some ⟨id, .check h⟩)
    (hH : s.handlers[h]? = some H) (hu : H.unregistered = true) :
    s.stepTask t = s.setPc t (.drain h) := by
  simp [stepTask, hT, hH, hu]

theorem stepTask_of_pop_nil (hT : s.tasks[t]? = some ⟨id, .pop h⟩)
    (hH : s.handlers[h]? = some H) (hm : H.msgs = []) : s.stepTask t = s.setPc t (.park h) := by
  simp [stepTask, hT, hH, hm]

theorem stepTask_of_park_permit (hT : s.tasks[t]? = some ⟨id, .park h⟩)
    (hH : s.handlers[h]? = some H) (hp : H.permit = true) :
    s.stepTask t = (s.modifyHandler h fun H => { H with permit := false }).setPc t (.check h) := by
  simp [stepTask, hT, hH, hp]

theorem stepTask_of_park_wait (hT : s.tasks[t]? = some ⟨id, .park h⟩)
    (hH : s.handlers[h]? = some H) (hp : H.permit = false) :
    s.stepTask t =
      (s.modifyHandler h fun H => { H with waiters := H.waiters ++ [t] }).setPc t (.wait h) := by
  simp [stepTask, hT, hH, hp]

theorem stepTask_of_drain {m : RawMsg} {rest : List RawMsg}
    (hT : s.tasks[t]? = some ⟨id, .drain h⟩) (hH : s.handlers[h]? = some H)
    (hm : H.msgs = m :: rest) :
    s.stepTask t = ((s.modifyHandler h fun H => { H with msgs := rest }).setPc t
      (.done (some ⟨m⟩))).log [.deliver id h m] := by
  simp [stepTask, hT, hH, hm]

theorem stepTask_of_drain_nil (hT : s.tasks[t]? = some ⟨id, .drain h⟩)
    (hH : s.handlers[h]? = some H) (hm : H.msgs = []) :
    s.stepTask t = s.setPc t (.done none) := by
  simp [stepTask, hT, hH, hm]

theorem pollFuel_step {pc : Pc} (hT : s.tasks[t]? = some ⟨id, pc⟩) (hpc : pc.suspended = false)
    (n : Nat) : s.pollFuel (n + 1) t = (s.stepTask t).pollFuel n t :=
  pollFuel_succ (by rw [suspendedAt_of_task hT, hpc]) n

/-- The poll ends once the task has moved to a suspended `pc`. -/
theorem pollFuel_stop {pc : Pc} (hT : s.tasks[t]? = some ⟨id, pc⟩) (hpc : pc.suspended = true)
    (n : Nat) : s.pollFuel n t = s :=
  pollFuel_of_suspendedAt (by rw [suspendedAt_of_task hT, hpc]) n

/-- From the flag check, with the queue empty, the flag clear and no permit, the task
suspends as the newest waiter after three steps. -/
theorem pollFuel_check_wait (hT : s.tasks[t]? = some ⟨id, .check h⟩)
    (hH : s.handlers[h]? = some H) (hm : H.msgs = []) (hu : H.unregistered = false)
    (hp : H.permit = false) (n : Nat) :
    s.pollFuel (n + 3) t =
      (s.modifyHandler h fun H => { H with waiters := H.waiters ++ [t] }).setPc t (.wait h) := by
  have h₁ := setPc_task hT (.pop h)
  have h₂ := setPc_task h₁ (.park h)
  rw [pollFuel_step hT rfl, stepTask_of_check hT hH hu, pollFuel_step h₁ rfl,
    stepTask_of_pop_nil h₁ hH hm, pollFuel_step h₂ rfl, stepTask_of_park_wait h₂ hH hp]
  simp only [setPc_modifyHandler, setPc_setPc]
  exact pollFuel_stop (by exact setPc_task hT _) (by rfl) _

/-- **A poll from the flag check is `resume`**, within six steps. -/
theorem pollFuel_check (hT : s.tasks[t]? = some ⟨id, .check h⟩) (hH : s.handlers[h]? = some H)
    (n : Nat) : s.pollFuel (n + 6) t = s.resume t id h := by
  cases hm : H.msgs with
  | cons m rest =>
    cases hu : H.unregistered
    · have h₁ := setPc_task hT (.pop h)
      rw [pollFuel_step hT rfl, stepTask_of_check hT hH hu, pollFuel_step h₁ rfl,
        stepTask_of_pop h₁ hH hm]
      simp only [resume, hH, hm, setPc_modifyHandler, setPc_setPc]
      exact pollFuel_stop (by exact setPc_task hT _) (by rfl) _
    · have h₁ := setPc_task hT (.drain h)
      rw [pollFuel_step hT rfl, stepTask_of_check_drain hT hH hu, pollFuel_step h₁ rfl,
        stepTask_of_drain h₁ hH hm]
      simp only [resume, hH, hm, setPc_modifyHandler, setPc_setPc]
      exact pollFuel_stop (by exact setPc_task hT _) (by rfl) _
  | nil =>
    cases hu : H.unregistered
    · simp only [resume, hH, hm, hu, Bool.false_eq_true, ite_false]
      cases hp : H.permit
      · rw [pollFuel_check_wait hT hH hm hu hp (n + 3)]
        congr 1
        exact modifyHandler_congr hH (by simp [hp])
      · -- the permit is consumed, and the loop runs once more
        have hT₁ : ((s.modifyHandler h fun H => { H with permit := false }).setPc t
            (.check h)).tasks[t]? = some ⟨id, .check h⟩ := setPc_task hT _
        have hH₁ : ((s.modifyHandler h fun H => { H with permit := false }).setPc t
            (.check h)).handlers[h]? = some { H with permit := false } := by
          simp [modifyHandler_getElem?, hH]
        have h₁ := setPc_task hT (.pop h)
        have h₂ := setPc_task h₁ (.park h)
        rw [pollFuel_step hT rfl, stepTask_of_check hT hH hu, pollFuel_step h₁ rfl,
          stepTask_of_pop_nil h₁ hH hm, pollFuel_step h₂ rfl, stepTask_of_park_permit h₂ hH hp]
        simp only [setPc_modifyHandler, setPc_setPc]
        rw [pollFuel_check_wait hT₁ hH₁ hm hu rfl]
        simp only [setPc_modifyHandler, setPc_setPc, modifyHandler_modifyHandler]
        rfl
    · have h₁ := setPc_task hT (.drain h)
      rw [pollFuel_step hT rfl, stepTask_of_check_drain hT hH hu, pollFuel_step h₁ rfl,
        stepTask_of_drain_nil h₁ hH hm]
      simp only [resume, hH, hm, hu, setPc_setPc, ite_true]
      exact pollFuel_stop (by exact setPc_task hT _) (by rfl) _

end Steps

-- ---------------------------------------------------------------------------
-- Where an executor leaves the tasks
-- ---------------------------------------------------------------------------

/-- Every handler address the map or a task holds is allocated. -/
structure Allocated (s : Worker) : Prop where
  map_lt : ∀ (id : UInt32) (h : Nat), s.amHandlers id = some h → h < s.handlers.length
  task_lt : ∀ (t : Nat) (id : UInt32) (pc : Pc) (h : Nat), s.tasks[t]? = some ⟨id, pc⟩ →
    pc.handler? = some h → h < s.handlers.length

/-- No task is inside a poll. -/
def AtRest (s : Worker) : Prop :=
  ∀ (t : Nat) (id : UInt32) (pc : Pc), s.tasks[t]? = some ⟨id, pc⟩ → pc.atRest = true

theorem init_allocated : Allocated init := ⟨by simp [init], by simp [init]⟩

namespace Allocated

variable {fl : RecvAttr} {sf : SendFlags} {s : Worker}

theorem handler (ha : Allocated s) {t : Nat} {id : UInt32} {pc : Pc} {h : Nat}
    (hT : s.tasks[t]? = some ⟨id, pc⟩) (hh : pc.handler? = some h) :
    ∃ H, s.handlers[h]? = some H :=
  ⟨_, List.getElem?_eq_getElem (ha.task_lt t id pc h hT hh)⟩

theorem step (ha : Allocated s) (a : Action) : Allocated (s.step fl sf a) := by
  have hlen := step_handlers_length fl sf s a
  refine ⟨fun id h hm => ?_, fun t id pc' h hT' hh => ?_⟩
  · rcases step_amHandlers fl sf s a id with he | he | ⟨rfl, he⟩ <;> rw [he] at hm
    · exact lt_of_lt_of_le (ha.map_lt id h hm) hlen
    · cases hm
    · cases hm
      by_cases hs : (s.amHandlers id).isSome
      · simp only [Worker.step, amRegister, hs, if_true] at he
        exact absurd (ha.map_lt id _ he) (lt_irrefl _)
      · simp [Worker.step, amRegister, hs]
  · rcases step_task_cases fl sf s a hT' with rfl | ⟨pc, hT, hmv⟩
    · cases hh
    · refine lt_of_lt_of_le ?_ hlen
      cases hmv with
      | stay => exact ha.task_lt t id _ h hT hh
      | step =>
        rcases nextPc_handler? s id pc with he | he | ⟨-, he⟩ <;> rw [he] at hh
        · exact ha.task_lt t id pc h hT hh
        · cases hh
        · exact ha.map_lt id h hh
      | wake => exact ha.task_lt t id _ h hT hh
      | handle _ _ _ _ hpc => rcases hpc with rfl | ⟨_, rfl⟩ <;> cases hh

theorem run (ha : Allocated s) (bs : List Action) : Allocated (s.run fl sf bs) :=
  run_invariant Allocated (fun _ a _ ha => ha.step a) (fun _ _ => trivial) ha

end Allocated

/-- **A poll is `pollSpec`.** From a state an executor leaves, seven steps of a task
make a whole poll of `am_recv`, and more fuel changes nothing. -/
theorem pollFuel_eq_pollSpec {s : Worker} (ha : Allocated s) (hr : AtRest s) (t n : Nat) :
    s.pollFuel (n + 7) t = s.pollSpec t := by
  unfold pollSpec
  cases hT : s.tasks[t]? with
  | none => exact pollFuel_of_suspendedAt (by simp [suspendedAt, hT]) _
  | some T =>
    obtain ⟨id, pc⟩ := T
    have hpc := hr t id pc hT
    cases pc with
    | lookup =>
      dsimp only
      cases hh : s.amHandlers id with
      | none =>
        rw [pollFuel_step hT rfl, stepTask_of_lookup_none hT hh]
        exact pollFuel_stop (setPc_task hT (.done none)) rfl _
      | some h =>
        obtain ⟨H, hH⟩ : ∃ H, s.handlers[h]? = some H :=
          ⟨_, List.getElem?_eq_getElem (ha.map_lt id h hh)⟩
        rw [pollFuel_step hT rfl, stepTask_of_lookup hT hh, pollFuel_check (setPc_task hT _) hH,
          resume_setPc hH]
    | check h =>
      obtain ⟨H, hH⟩ := ha.handler hT rfl
      exact pollFuel_check hT hH (n + 1)
    | pop | park | drain => cases hpc
    | wait | done | dropped => exact pollFuel_stop hT rfl _

-- ---------------------------------------------------------------------------
-- The executor, and how it refines the fine model
-- ---------------------------------------------------------------------------

/-- The executor's turn for an action: a task's turn is a whole poll. -/
def exec (fl : RecvAttr) (sf : SendFlags) (s : Worker) : Action → Worker
  | .step t => s.poll t
  | a => s.step fl sf a

/-- The state after the executor's turns `as`, in order. -/
def execRun (fl : RecvAttr) (sf : SendFlags) (s : Worker) (as : List Action) : Worker :=
  as.foldl (exec fl sf) s

theorem exec_of_ne_step {fl : RecvAttr} {sf : SendFlags} {s : Worker} {a : Action}
    (ha : ∀ t, a ≠ .step t) : s.exec fl sf a = s.step fl sf a := by
  cases a with
  | step t => exact absurd rfl (ha t)
  | _ => rfl

theorem exec_eq_run (fl : RecvAttr) (sf : SendFlags) (s : Worker) (a : Action) :
    ∃ bs, s.exec fl sf a = s.run fl sf bs := by
  by_cases hst : ∃ t, a = .step t
  · obtain ⟨t, rfl⟩ := hst
    obtain ⟨k, -, he, -⟩ := pollFuel_eq_run fl sf 7 s t
    exact ⟨_, he⟩
  · exact ⟨[a], exec_of_ne_step fun t ht => hst ⟨t, ht⟩⟩

theorem execRun_cons (fl : RecvAttr) (sf : SendFlags) (s : Worker) (a : Action)
    (as : List Action) : s.execRun fl sf (a :: as) = (s.exec fl sf a).execRun fl sf as := rfl

/-- `bs` is `as` with each task turn `.step t` expanded into the steps of a whole poll,
from state `s` on: as many steps of task `t` as take it to its next await, at most
seven; every other action stays as it is. -/
inductive Expands (fl : RecvAttr) (sf : SendFlags) : Worker → List Action → List Action → Prop
  | nil (s : Worker) : Expands fl sf s [] []
  | act {s : Worker} {a : Action} {as bs : List Action} (ha : ∀ t, a ≠ .step t)
      (h : Expands fl sf (s.step fl sf a) as bs) : Expands fl sf s (a :: as) (a :: bs)
  | poll {s : Worker} {t k : Nat} {as bs : List Action} (hk : k ≤ 7)
      (hrun : ∀ j < k, (s.run fl sf (List.replicate j (.step t))).suspendedAt t = false)
      (hsus : (s.run fl sf (List.replicate k (.step t))).suspendedAt t = true)
      (h : Expands fl sf (s.run fl sf (List.replicate k (.step t))) as bs) :
      Expands fl sf s (.step t :: as) (List.replicate k (.step t) ++ bs)

-- ---------------------------------------------------------------------------
-- The woken tasks of a handler
-- ---------------------------------------------------------------------------

/-- The tasks woken on handler `h` that have not looked at its queue since. -/
def checking (s : Worker) (h : Nat) : Nat := s.tasks.countP fun T => T.pc = .check h

theorem checking_setPc {s : Worker} {t : Nat} {id : UInt32} {pc : Pc}
    (hT : s.tasks[t]? = some ⟨id, pc⟩) (pc' : Pc) (h : Nat) :
    (s.setPc t pc').checking h + (if pc = .check h then 1 else 0) =
      s.checking h + (if pc' = .check h then 1 else 0) := by
  simpa [checking, setPc] using
    List.countP_modify (fun T : Task => decide (T.pc = .check h)) (fun T => { T with pc := pc' }) hT

theorem wake_tasks_of_wait {s : Worker} {t : Nat} {id : UInt32} {h : Nat}
    (hT : s.tasks[t]? = some ⟨id, .wait h⟩) : (s.wake t).tasks = (s.setPc t (.check h)).tasks := by
  apply List.ext_getElem?
  intro t'
  rw [wake_tasks, setPc_tasks]
  split
  · subst t'
    simp [hT]
  · rfl

/-- No lost wake-up: while a task waits on handler `h`, every message queued there is
matched by a task woken on `h` that has not looked at the queue yet. -/
def Awake (s : Worker) : Prop :=
  ∀ (h : Nat) (H : AmHandler), s.handlers[h]? = some H → H.waiters ≠ [] →
    H.msgs.length ≤ s.checking h

/-- Where nobody waits, where nothing is queued, or where no task was woken or made to
look at the queue, the bound cannot break. -/
theorem Awake.mono {s s' : Worker} (hA : Awake s)
    (hh : ∀ (h : Nat) (H' : AmHandler), s'.handlers[h]? = some H' → H'.waiters ≠ [] →
      ∃ H, s.handlers[h]? = some H ∧ H.waiters ≠ [] ∧ H'.msgs.length ≤ H.msgs.length)
    (hc : ∀ h, s.checking h ≤ s'.checking h) : Awake s' := by
  intro h H' hH' hw
  obtain ⟨H, hH, hw', hm⟩ := hh h H' hH' hw
  exact hm.trans ((hA h H hH hw').trans (hc h))

/-- A task that leaves a state where it looks at the queue, as the queue of each handler
loses a message for the task that left its flag check, or is emptied. -/
theorem Awake.of_setPc {s s' : Worker} (hA : Awake s) {t : Nat} {id : UInt32} {pc pc' : Pc}
    (hT : s.tasks[t]? = some ⟨id, pc⟩) (hpc' : ∀ h, pc' ≠ .check h)
    (ht : s'.tasks = (s.setPc t pc').tasks)
    (hh : ∀ (h : Nat) (H' : AmHandler), s'.handlers[h]? = some H' → H'.waiters ≠ [] →
      H'.msgs = [] ∨ ∃ H, s.handlers[h]? = some H ∧ H.waiters ≠ [] ∧
        H'.msgs.length + (if pc = .check h then 1 else 0) ≤ H.msgs.length) :
    Awake s' := by
  intro h H' hH' hw
  rcases hh h H' hH' hw with hm | ⟨H, hH, hw', hm⟩
  · simp [hm]
  · have hc := checking_setPc hT pc' h
    rw [if_neg (hpc' h)] at hc
    have : s'.checking h = (s.setPc t pc').checking h := by rw [checking, checking, ht]
    have := hA h H hH hw'
    omega

theorem Awake.resume {s : Worker} (hA : Awake s) {t : Nat} {id : UInt32} {pc : Pc} {h : Nat}
    (hT : s.tasks[t]? = some ⟨id, pc⟩) (hpc : ∀ h', pc = .check h' → h' = h) :
    Awake (s.resume t id h) := by
  have hne : ∀ h', h ≠ h' → (if pc = .check h' then 1 else 0) = 0 :=
    fun h' hne => if_neg fun he => hne (hpc h' he).symm
  unfold Worker.resume
  split
  · exact hA
  · rename_i H hH
    split
    · rename_i m rest hm
      refine hA.of_setPc hT (by simp) rfl fun h' H' hH' hw => .inr ?_
      rw [log_handlers, setPc_handlers] at hH'
      rcases getElem?_modifyHandler hH hH' with ⟨rfl, rfl⟩ | ⟨hh', hH'⟩
      · refine ⟨H, hH, hw, ?_⟩
        simp only [hm, List.length_cons]
        split <;> omega
      · exact ⟨H', hH', hw, by rw [hne h' hh']; rfl⟩
    · rename_i hm
      split
      · refine hA.of_setPc hT (by simp) rfl fun h' H' hH' hw => ?_
        by_cases hh' : h = h'
        · subst h'
          rw [setPc_handlers, hH] at hH'
          cases hH'
          exact .inl hm
        · exact .inr ⟨H', hH', hw, by rw [hne h' hh']; rfl⟩
      · refine hA.of_setPc hT (by simp) rfl fun h' H' hH' hw => ?_
        rw [setPc_handlers] at hH'
        rcases getElem?_modifyHandler hH hH' with ⟨rfl, rfl⟩ | ⟨hh', hH'⟩
        · exact .inl hm
        · exact .inr ⟨H', hH', hw, by rw [hne h' hh']; rfl⟩

@[simp] theorem checking_log (s : Worker) (es : List Event) (h : Nat) :
    (s.log es).checking h = s.checking h := rfl

@[simp] theorem checking_modifyHandler (s : Worker) (h' : Nat) (f : AmHandler → AmHandler)
    (h : Nat) : (s.modifyHandler h' f).checking h = s.checking h := rfl

theorem wake_log (s : Worker) (es : List Event) (t : Nat) : (s.log es).wake t = (s.wake t).log es :=
  rfl

theorem wake_modifyHandler (s : Worker) (h : Nat) (f : AmHandler → AmHandler) (t : Nat) :
    (s.modifyHandler h f).wake t = (s.wake t).modifyHandler h f := rfl

/-- `notify_one` resumes a task suspended on `h` at the flag check of `h`. -/
theorem checking_wake {s : Worker} {t : Nat} {id : UInt32} {h : Nat}
    (hT : s.tasks[t]? = some ⟨id, .wait h⟩) (h' : Nat) :
    (s.wake t).checking h' = s.checking h' + if h = h' then 1 else 0 := by
  have hc := checking_setPc hT (.check h) h'
  have he : (s.wake t).checking h' = (s.setPc t (.check h)).checking h' := by
    rw [checking, checking, wake_tasks_of_wait hT]
  simp only [reduceCtorEq, if_false, Nat.add_zero, Pc.check.injEq] at hc
  omega

namespace Awake

variable {s : Worker}

theorem amRegister (hA : Awake s) (id : UInt32) (st : UcsStatus) :
    Awake (s.amRegister id st) := by
  refine hA.mono (fun h H' hH' hw => ?_) (fun h => by simp [checking])
  unfold Worker.amRegister at hH'
  split_ifs at hH'
  · exact ⟨H', hH', hw, le_rfl⟩
  · rcases getElem?_append_singleton hH' with hH' | rfl
    · exact ⟨H', hH', hw, le_rfl⟩
    · exact absurd rfl hw
  · exact ⟨H', hH', hw, le_rfl⟩

theorem amUnregister (hA : Awake s) (id : UInt32) : Awake (s.amUnregister id) := by
  refine hA.mono (fun h H' hH' hw => ?_) (fun h => by simp [checking])
  unfold Worker.amUnregister at hH'
  split at hH'
  · exact ⟨H', hH', hw, le_rfl⟩
  · dsimp only at hH'
    rw [modifyHandler_getElem?] at hH'
    split at hH'
    · obtain ⟨H, hH, rfl⟩ := Option.map_eq_some'.1 hH'
      exact ⟨H, hH, hw, le_rfl⟩
    · exact ⟨H', hH', hw, le_rfl⟩

theorem spawn (hA : Awake s) (id : UInt32) : Awake (s.spawn id) :=
  hA.mono (fun _ H' hH' hw => ⟨H', hH', hw, le_rfl⟩) fun _ => by simp [checking, Worker.spawn]

/-- A call or a drop moves only a task that owns a handle. -/
theorem handleStep (hA : Awake s) {s' : Worker} {t : Nat} (hh : s'.handlers = s.handlers)
    (hs : HandleStep s t s'.tasks) : Awake s' := by
  refine hA.mono (fun h H' hH' hw => ⟨H', hh ▸ hH', hw, le_rfl⟩) fun h => le_of_eq ?_
  rcases hs with he | ⟨id, m, pc, hT, hpc, he⟩
  · rw [checking, checking, he]
  · have hc := checking_setPc hT pc h
    have : s'.checking h = (s.setPc t pc).checking h := by rw [checking, checking, he]
    rcases hpc with rfl | ⟨m', rfl⟩ <;> simp only [reduceCtorEq, if_false] at hc <;> omega

/-- **An arrival keeps the bound**: `notify_one` either stores the permit, where nobody
waits, or wakes the oldest waiter to the flag check, one more woken task for the one
more message. -/
theorem arrive (fl : RecvAttr) (hA : Awake s) (hi : WaitInv s) (id : UInt32)
    (header : List UInt8) (data : Slice) (replyEp : Nat) (attr : UInt64) :
    Awake (s.arrive fl id header data replyEp attr) := by
  unfold Worker.arrive
  split
  · exact hA
  · split
    · exact hA
    · rename_i h _ _ H hH
      dsimp only
      split
      · rename_i w hw
        cases hws : H.waiters with
        | nil => simp [AmHandler.callback, AmHandler.notifyOne, hws] at hw
        | cons w' ws =>
          obtain rfl : w' = w := by
            simpa [AmHandler.callback, AmHandler.notifyOne, hws] using hw
          obtain ⟨idw, hTw⟩ := hi.waiter_waits h H w' hH (by simp [hws])
          rw [wake_log, wake_modifyHandler]
          intro h' H' hH' hw'
          rw [checking_log, checking_modifyHandler, checking_wake hTw]
          rw [log_handlers] at hH'
          rcases getElem?_modifyHandler (show (s.wake w').handlers[h]? = some H from hH) hH' with ⟨rfl, rfl⟩ | ⟨-, hH'⟩
          · have := hA h H hH (by simp [hws])
            simp only [AmHandler.callback, AmHandler.notifyOne, hws, List.length_append,
              List.length_singleton, if_true] at this ⊢
            omega
          · exact (hA h' H' hH' hw').trans (Nat.le_add_right _ _)
      · rename_i hw
        refine hA.mono (fun h' H' hH' hw' => ?_) fun _ => le_rfl
        rw [log_handlers] at hH'
        rcases getElem?_modifyHandler hH hH' with ⟨rfl, rfl⟩ | ⟨-, hH'⟩
        · cases hws : H.waiters with
          | nil => simp [AmHandler.callback, AmHandler.notifyOne, hws] at hw'
          | cons w ws => simp [AmHandler.callback, AmHandler.notifyOne, hws] at hw
        · exact ⟨H', hH', hw', le_rfl⟩

end Awake

theorem Awake.pollSpec {s : Worker} (hA : Awake s) (t : Nat) : Awake (s.pollSpec t) := by
  unfold Worker.pollSpec
  split
  · rename_i id hT
    split
    · exact hA.resume hT fun _ he => by cases he
    · exact hA.of_setPc hT (by simp) rfl fun h' H' hH' hw => .inr ⟨H', hH', hw, by simp⟩
  · rename_i id h hT
    exact hA.resume hT fun _ he => by cases he; rfl
  · exact hA

-- ---------------------------------------------------------------------------
-- A poll moves its own task only, to a suspended `pc`
-- ---------------------------------------------------------------------------

theorem Pc.atRest_of_suspended {pc : Pc} (hpc : pc.suspended = true) : pc.atRest = true := by
  cases pc <;> simp_all [Pc.suspended, Pc.atRest]

theorem resume_tasks {s : Worker} {h : Nat} {H : AmHandler} (hH : s.handlers[h]? = some H)
    (t : Nat) (id : UInt32) :
    ∃ pc', (s.resume t id h).tasks = (s.setPc t pc').tasks ∧ pc'.suspended = true := by
  unfold resume
  rw [hH]
  dsimp only
  split
  · exact ⟨_, rfl, rfl⟩
  · split <;> exact ⟨_, rfl, rfl⟩

theorem pollSpec_tasks {s : Worker} (ha : Allocated s) (hr : AtRest s) (t : Nat) :
    ∃ pc', (s.pollSpec t).tasks = (s.setPc t pc').tasks ∧ pc'.suspended = true := by
  unfold pollSpec
  split
  · rename_i id hT
    split
    · rename_i h hh
      exact resume_tasks (List.getElem?_eq_getElem (ha.map_lt id h hh)) t id
    · exact ⟨_, rfl, rfl⟩
  · rename_i id h hT
    obtain ⟨H, hH⟩ := ha.handler hT rfl
    exact resume_tasks hH t id
  · rename_i hl hc
    cases hT : s.tasks[t]? with
    | none =>
      refine ⟨.dropped, ?_, rfl⟩
      simp [setPc, List.modify_eq_self (List.getElem?_eq_none_iff.1 hT)]
    | some T =>
      obtain ⟨id, pc⟩ := T
      refine ⟨pc, (setPc_self hT).symm, ?_⟩
      have := hr t id pc hT
      cases pc <;> simp_all [Pc.suspended, Pc.atRest]

theorem AtRest.pollSpec {s : Worker} (ha : Allocated s) (hr : AtRest s) (t : Nat) :
    AtRest (s.pollSpec t) := by
  obtain ⟨pc', he, hpc'⟩ := pollSpec_tasks ha hr t
  intro t' id pc hT'
  rw [he, setPc_tasks] at hT'
  split at hT'
  · obtain ⟨T, -, hT⟩ := Option.map_eq_some'.1 hT'
    cases hT
    exact Pc.atRest_of_suspended hpc'
  · exact hr t' id pc hT'

theorem suspendedAt_pollSpec {s : Worker} (ha : Allocated s) (hr : AtRest s) (t : Nat) :
    (s.pollSpec t).suspendedAt t = true := by
  obtain ⟨pc', he, hpc'⟩ := pollSpec_tasks ha hr t
  unfold suspendedAt
  rw [he, setPc_tasks, if_pos rfl]
  cases s.tasks[t]? <;> simp [hpc']

theorem pollSpec_task_ne {s : Worker} (ha : Allocated s) (hr : AtRest s) {t t' : Nat}
    (hne : t ≠ t') : (s.pollSpec t).tasks[t']? = s.tasks[t']? := by
  obtain ⟨pc', he, -⟩ := pollSpec_tasks ha hr t
  rw [he, setPc_task_ne s hne]

/-- Between two turns of the executor a task moves only as an action of the fine model
other than its own step moves it: it is spawned at the look-up, woken to the flag check,
or moves as its handle. -/
theorem AtRest.step {fl : RecvAttr} {sf : SendFlags} {s : Worker} (hr : AtRest s) {a : Action}
    (ha : ∀ t, a ≠ .step t) : AtRest (s.step fl sf a) := by
  intro t id pc' hT'
  rcases step_task_cases fl sf s a hT' with rfl | ⟨pc, hT, hmv⟩
  · rfl
  · cases hmv with
    | stay => exact hr t id _ hT
    | step t' => exact absurd rfl (ha t')
    | wake => rfl
    | handle _ _ _ _ hpc => rcases hpc with rfl | ⟨_, rfl⟩ <;> rfl

-- ---------------------------------------------------------------------------
-- Every run of the executor
-- ---------------------------------------------------------------------------

/-- What holds between two turns of the executor. -/
structure ExecInv (s : Worker) : Prop where
  allocated : Allocated s
  waitInv : WaitInv s
  atRest : AtRest s
  awake : Awake s

theorem init_execInv : ExecInv init :=
  ⟨init_allocated, init_waitInv, by simp [AtRest, init], by simp [Awake, init]⟩

namespace ExecInv

variable {fl : RecvAttr} {sf : SendFlags} {s : Worker}

theorem exec_step (hi : ExecInv s) (t : Nat) : s.exec fl sf (.step t) = s.pollSpec t :=
  pollFuel_eq_pollSpec hi.allocated hi.atRest t 0

theorem exec (hi : ExecInv s) (a : Action) : ExecInv (s.exec fl sf a) := by
  obtain ⟨bs, he⟩ := exec_eq_run fl sf s a
  have ha : Allocated (s.exec fl sf a) := by rw [he]; exact hi.allocated.run bs
  have hw : WaitInv (s.exec fl sf a) := by rw [he]; exact run_waitInv fl sf hi.waitInv bs
  by_cases hst : ∃ t, a = .step t
  · obtain ⟨t, rfl⟩ := hst
    rw [hi.exec_step t] at ha hw ⊢
    exact ⟨ha, hw, hi.atRest.pollSpec hi.allocated t, hi.awake.pollSpec t⟩
  · have hne : ∀ t, a ≠ .step t := fun t ht => hst ⟨t, ht⟩
    rw [exec_of_ne_step hne] at ha hw ⊢
    refine ⟨ha, hw, hi.atRest.step hne, ?_⟩
    cases a with
    | register id => exact hi.awake.amRegister id _
    | registerRefused id _ => exact hi.awake.amRegister id _
    | unregister id => exact hi.awake.amUnregister id
    | arrive id header data replyEp attr =>
      exact hi.awake.arrive fl hi.waitInv id header data replyEp attr
    | spawn id => exact hi.awake.spawn id
    | step t => exact absurd rfl (hne t)
    | call t c =>
      exact hi.awake.handleStep (callTask_handlers fl sf s t c) (callTask_tasks fl sf s t c)
    | drop t => exact hi.awake.handleStep (dropTask_handlers s t) (dropTask_tasks s t)

theorem execRun (hi : ExecInv s) (as : List Action) : ExecInv (s.execRun fl sf as) := by
  induction as generalizing s with
  | nil => exact hi
  | cons a as ih => exact ih (hi.exec a)

/-- A poll of another task leaves a suspended task suspended. -/
theorem exec_step_suspendedAt (hi : ExecInv s) {t : Nat} (hs : s.suspendedAt t = true)
    (t' : Nat) : (s.exec fl sf (.step t')).suspendedAt t = true := by
  rw [hi.exec_step]
  by_cases ht : t' = t
  · subst ht
    exact suspendedAt_pollSpec hi.allocated hi.atRest t'
  · unfold suspendedAt
    rw [pollSpec_task_ne hi.allocated hi.atRest ht]
    exact hs

/-- Polling the tasks `ts` in turn leaves every one of them, and every task that was
suspended, suspended. -/
theorem polls (hi : ExecInv s) (ts : List Nat) (t : Nat) (ht : s.suspendedAt t = true ∨ t ∈ ts) :
    (s.execRun fl sf (ts.map .step)).suspendedAt t = true := by
  induction ts generalizing s with
  | nil => exact ht.resolve_right (List.not_mem_nil t)
  | cons t₀ ts ih =>
    refine ih (hi.exec (.step t₀)) ?_
    rcases ht with ht | ht
    · exact .inl (hi.exec_step_suspendedAt ht t₀)
    · rcases List.mem_cons.1 ht with rfl | ht
      · rw [hi.exec_step]
        exact .inl (suspendedAt_pollSpec hi.allocated hi.atRest t)
      · exact .inr ht

/-- From a state an executor leaves, a run of the executor is the run of the fine
model that expands its task turns into whole polls. -/
theorem expands (hi : ExecInv s) (as : List Action) :
    ∃ bs, Expands fl sf s as bs ∧ s.execRun fl sf as = s.run fl sf bs := by
  induction as generalizing s with
  | nil => exact ⟨[], .nil s, rfl⟩
  | cons a as ih =>
    obtain ⟨bs, hbs, he⟩ := ih (hi.exec a)
    rw [execRun_cons, he]
    by_cases hst : ∃ t, a = .step t
    · obtain ⟨t, rfl⟩ := hst
      obtain ⟨k, hk, hpoll, hmin⟩ := pollFuel_eq_run fl sf 7 s t
      have hexec : s.exec fl sf (.step t) = s.run fl sf (List.replicate k (.step t)) := hpoll
      have hsus : (s.run fl sf (List.replicate k (.step t))).suspendedAt t = true := by
        rw [← hexec, hi.exec_step]
        exact suspendedAt_pollSpec hi.allocated hi.atRest t
      rw [hexec] at hbs ⊢
      exact ⟨_, .poll hk hmin hsus hbs, (run_append fl sf s _ bs).symm⟩
    · have hne : ∀ t, a ≠ .step t := fun t ht => hst ⟨t, ht⟩
      rw [exec_of_ne_step hne] at hbs ⊢
      exact ⟨a :: bs, .act hne hbs, rfl⟩

end ExecInv

/-- Where every task is suspended, no task is woken and unpolled. -/
theorem checking_eq_zero {s : Worker} (hs : ∀ t, s.suspendedAt t = true) (h : Nat) :
    s.checking h = 0 := by
  unfold checking
  rw [List.countP_eq_zero]
  intro T hT
  obtain ⟨t, hT'⟩ := List.mem_iff_getElem?.1 hT
  have := hs t
  obtain ⟨id, pc⟩ := T
  rw [suspendedAt_of_task hT'] at this
  cases pc <;> simp_all [Pc.suspended]

/-- **The executor refines the fine model.** A run of the executor from the initial state
is the run of the fine model that takes the actions of `as` in order, each task turn
`.step t` expanded into the steps of a whole poll: as many steps of task `t` as take it
to its next await, at most seven. -/
theorem execRun_refines (fl : RecvAttr) (sf : SendFlags) (as : List Action) :
    ∃ bs, Expands fl sf init as bs ∧ init.execRun fl sf as = init.run fl sf bs :=
  init_execInv.expands as

/-- **Polls are whole.** In every state an executor reaches, a poll of any task is
`pollSpec`: it takes at most seven steps of the task, more fuel changes nothing, and it
leaves the task suspended. -/
theorem poll_whole (fl : RecvAttr) (sf : SendFlags) (as : List Action) (t n : Nat) :
    let s := init.execRun fl sf as
    s.pollFuel (n + 7) t = s.pollSpec t ∧ (s.pollSpec t).suspendedAt t = true :=
  have hi : ExecInv (init.execRun fl sf as) := init_execInv.execRun as
  ⟨pollFuel_eq_pollSpec hi.allocated hi.atRest t n,
    suspendedAt_pollSpec hi.allocated hi.atRest t⟩

/-- **No lost wake-up.** In every state an executor reaches, while a task waits on a
handler, the messages queued there are no more than the tasks woken on it that have not
looked at its queue yet. -/
theorem no_lost_wakeup (fl : RecvAttr) (sf : SendFlags) (as : List Action) :
    Awake (init.execRun fl sf as) :=
  (init_execInv.execRun as).awake

/-- One round of the executor: every task is polled once, in order. -/
def round (fl : RecvAttr) (sf : SendFlags) (s : Worker) : Worker :=
  s.execRun fl sf ((List.range s.tasks.length).map .step)

/-- **After a round, nobody waits on a message.** Once the executor has polled every task
of a reachable state, every task is suspended, and no task waits on a handler whose
queue holds a message. -/
theorem round_no_waiter_on_queue (fl : RecvAttr) (sf : SendFlags) (as : List Action) :
    let s := (init.execRun fl sf as).round fl sf
    (∀ t, s.suspendedAt t = true) ∧
      ∀ (h : Nat) (H : AmHandler), s.handlers[h]? = some H → H.waiters ≠ [] → H.msgs = [] := by
  intro s
  have hi : ExecInv (init.execRun fl sf as) := init_execInv.execRun as
  have hall : ∀ t, s.suspendedAt t = true := by
    intro t
    refine hi.polls _ t ?_
    by_cases ht : t < (init.execRun fl sf as).tasks.length
    · exact .inr (List.mem_range.2 ht)
    · exact .inl (by simp [suspendedAt, List.getElem?_eq_none_iff.2 (not_lt.1 ht)])
  have hs : ExecInv s := hi.execRun _
  refine ⟨hall, fun h H hH hw => ?_⟩
  have := hs.awake h H hH hw
  rw [checking_eq_zero hall] at this
  exact List.length_eq_zero.1 (Nat.le_zero.1 this)

end Worker

end AsyncUcx
