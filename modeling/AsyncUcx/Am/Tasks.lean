import AsyncUcx.Am.Delivery

/-!
# AsyncUcx — how the actions move the consumer tasks

One lemma per step function says what it does to the task list, and `step_task`
collects them into one relation, `PcMove`: a task keeps its id; its own step of
`am_recv` moves it to `nextPc`, the `pc` that `stepTask` computes; an arrival can only
resume a task suspended on a `Notify`, at the flag check of the same handler; a call or
a drop only acts on a task that owns a handle. A spawned task starts at the map
look-up.

Every result about the tasks in `Unregister.lean` and `Descriptors.lean` is read off
`step_task` rather than off the step functions.
-/

namespace AsyncUcx

namespace Worker

/-- The `pc` that `stepTask` moves a task of id `id` at `pc` to. -/
def nextPc (s : Worker) (id : UInt32) : Pc → Pc
  | .lookup =>
    match s.amHandlers id with
    | some h => .check h
    | none => .done none
  | .check h =>
    match s.handlers[h]? with
    | none => .check h
    | some H => if H.unregistered then .drain h else .pop h
  | .pop h =>
    match s.handlers[h]? with
    | none => .pop h
    | some H =>
      match H.msgs with
      | m :: _ => .done (some ⟨m⟩)
      | [] => .park h
  | .park h =>
    match s.handlers[h]? with
    | none => .park h
    | some H => if H.permit then .check h else .wait h
  | .drain h =>
    match s.handlers[h]? with
    | none => .drain h
    | some H =>
      match H.msgs with
      | m :: _ => .done (some ⟨m⟩)
      | [] => .done none
  | pc => pc

/-- A step leaves a task on the handler it works on, takes it off every handler, or,
from the look-up, puts it on the handler the map holds for its id. -/
theorem nextPc_handler? (s : Worker) (id : UInt32) (pc : Pc) :
    (s.nextPc id pc).handler? = pc.handler? ∨ (s.nextPc id pc).handler? = none ∨
      (pc = .lookup ∧ (s.nextPc id pc).handler? = s.amHandlers id) := by
  cases pc <;> simp only [nextPc] <;> repeat' split
  all_goals simp [Pc.handler?, *]

theorem setPc_self {s : Worker} {t : Nat} {T : Task} (hT : s.tasks[t]? = some T) :
    (s.setPc t T.pc).tasks = s.tasks := by
  apply List.ext_getElem?
  intro t'
  rw [setPc_tasks]
  split <;> simp_all

theorem stepTask_tasks_of_some {s : Worker} {t : Nat} {T : Task} (hT : s.tasks[t]? = some T) :
    (s.stepTask t).tasks = (s.setPc t (s.nextPc T.id T.pc)).tasks := by
  obtain ⟨id, pc⟩ := T
  unfold stepTask nextPc
  rw [hT]
  cases pc <;> dsimp only
  case lookup => cases s.amHandlers id <;> rfl
  case check h =>
    cases s.handlers[h]? with
    | none => exact (setPc_self hT).symm
    | some H => rfl
  case park h =>
    cases s.handlers[h]? with
    | none => exact (setPc_self hT).symm
    | some H => dsimp only; cases H.permit <;> rfl
  case pop h | drain h =>
    cases s.handlers[h]? with
    | none => exact (setPc_self hT).symm
    | some H => dsimp only; cases H.msgs <;> rfl
  all_goals exact (setPc_self hT).symm

theorem stepTask_tasks (s : Worker) (t t' : Nat) :
    (s.stepTask t).tasks[t']? =
      if t = t' then s.tasks[t']?.map (fun T => { T with pc := s.nextPc T.id T.pc })
      else s.tasks[t']? := by
  cases hT : s.tasks[t]? with
  | none =>
    rw [show s.stepTask t = s by simp [stepTask, hT]]
    split
    · subst t'
      simp [hT]
    · rfl
  | some T =>
    rw [stepTask_tasks_of_some hT, setPc_tasks]
    split <;> simp_all

/-- An arrival resumes at most one task. -/
theorem arrive_tasks (fl : RecvAttr) (s : Worker) (id : UInt32) (header : List UInt8)
    (data : Slice) (replyEp : Nat) (attr : UInt64) :
    (s.arrive fl id header data replyEp attr).tasks = s.tasks ∨
      ∃ t, (s.arrive fl id header data replyEp attr).tasks = (s.wake t).tasks := by
  unfold arrive
  dsimp only
  repeat' split
  all_goals first | exact .inl rfl | exact .inr ⟨_, rfl⟩

/-- What a call or a drop can do to the tasks: nothing, or move the task at `t`, which
owns a handle, to owning one or to dropped. -/
def HandleStep (s : Worker) (t : Nat) (tasks : List Task) : Prop :=
  tasks = s.tasks ∨ ∃ id m pc, s.tasks[t]? = some ⟨id, .done (some m)⟩ ∧
    (pc = .dropped ∨ ∃ m', pc = .done (some m')) ∧ tasks = (s.setPc t pc).tasks

theorem callTask_tasks (fl : RecvAttr) (sf : SendFlags) (s : Worker) (t : Nat) (c : MsgCall) :
    HandleStep s t (s.callTask fl sf t c).tasks := by
  unfold callTask
  dsimp only
  split
  · rename_i hT
    split
    · exact .inr ⟨_, _, _, hT, .inr ⟨_, rfl⟩, rfl⟩
    · exact .inr ⟨_, _, _, hT, .inl rfl, rfl⟩
  · exact .inl rfl

theorem dropTask_tasks (s : Worker) (t : Nat) : HandleStep s t (s.dropTask t).tasks := by
  unfold dropTask
  split
  · exact .inr ⟨_, _, _, ‹_›, .inl rfl, rfl⟩
  · exact .inl rfl

/-- How one action can move a task of id `id` from one `pc` to the next. -/
inductive PcMove (s : Worker) : Action → UInt32 → Pc → Pc → Prop where
  | stay (a : Action) (id : UInt32) (pc : Pc) : PcMove s a id pc pc
  /-- the task's own step of `am_recv` -/
  | step (t : Nat) (id : UInt32) (pc : Pc) : PcMove s (.step t) id pc (s.nextPc id pc)
  /-- `notify_one` in the callback resumes a suspended task -/
  | wake (id' : UInt32) (header : List UInt8) (data : Slice) (replyEp : Nat) (attr : UInt64)
      (id : UInt32) (h : Nat) :
      PcMove s (.arrive id' header data replyEp attr) id (.wait h) (.check h)
  /-- a call on the handle the task owns, or its drop -/
  | handle (a : Action) (id : UInt32) (m : AmMsg) (pc : Pc)
      (hpc : pc = .dropped ∨ ∃ m', pc = .done (some m')) : PcMove s a id (.done (some m)) pc

theorem setPc_task {s : Worker} {t : Nat} {id : UInt32} {pc : Pc}
    (hT : s.tasks[t]? = some ⟨id, pc⟩) (pc' : Pc) :
    (s.setPc t pc').tasks[t]? = some ⟨id, pc'⟩ := by
  simp [setPc_tasks, hT]

theorem setPc_task_ne (s : Worker) {t t' : Nat} (h : t ≠ t') (pc : Pc) :
    (s.setPc t pc).tasks[t']? = s.tasks[t']? := by
  simp [setPc_tasks, h]

theorem wake_task (s : Worker) (t t' : Nat) {id : UInt32} {pc : Pc}
    (hT : s.tasks[t']? = some ⟨id, pc⟩) :
    ∃ pc', (s.wake t).tasks[t']? = some ⟨id, pc'⟩ ∧
      (pc' = pc ∨ ∃ h, pc = .wait h ∧ pc' = .check h) := by
  rw [wake_tasks, hT]
  split
  · cases pc <;> simp
  · exact ⟨pc, rfl, .inl rfl⟩

/-- Under a call or a drop a task stays, or, owning a handle, moves as `PcMove.handle`
says. -/
theorem HandleStep.task {s : Worker} {t t' : Nat} {tasks : List Task} (hs : HandleStep s t' tasks)
    {id : UInt32} {pc : Pc} (hT : s.tasks[t]? = some ⟨id, pc⟩) (a : Action) :
    ∃ pc', tasks[t]? = some ⟨id, pc'⟩ ∧ PcMove s a id pc pc' := by
  rcases hs with rfl | ⟨id', m, pc', hT', hpc, rfl⟩
  · exact ⟨pc, hT, .stay _ _ _⟩
  · by_cases htt : t' = t
    · subst htt
      rw [hT] at hT'
      cases hT'
      exact ⟨pc', setPc_task hT pc', .handle _ _ _ _ hpc⟩
    · exact ⟨pc, by rw [setPc_task_ne s htt, hT], .stay _ _ _⟩

theorem HandleStep.task_none {s : Worker} {t t' : Nat} {tasks : List Task}
    (hs : HandleStep s t' tasks) (hT : s.tasks[t]? = none) : tasks[t]? = none := by
  rcases hs with rfl | ⟨_, _, _, _, _, rfl⟩ <;> simp [setPc_tasks, hT]

/-- **What one action does to an existing task.** -/
theorem step_task (fl : RecvAttr) (sf : SendFlags) {s : Worker} (a : Action) {t : Nat}
    {id : UInt32} {pc : Pc} (hT : s.tasks[t]? = some ⟨id, pc⟩) :
    ∃ pc', (s.step fl sf a).tasks[t]? = some ⟨id, pc'⟩ ∧ PcMove s a id pc pc' := by
  cases a with
  | register id' | registerRefused id' _ | unregister id' =>
    exact ⟨pc, by simpa [step] using hT, .stay _ _ _⟩
  | arrive id' header data replyEp attr =>
    rcases arrive_tasks fl s id' header data replyEp attr with he | ⟨t', he⟩
    · exact ⟨pc, by simp [step, he, hT], .stay _ _ _⟩
    · obtain ⟨pc', hT', rfl | ⟨h, rfl, rfl⟩⟩ := wake_task s t' t hT
      · exact ⟨_, by simpa [step, he] using hT', .stay _ _ _⟩
      · exact ⟨_, by simpa [step, he] using hT', .wake _ _ _ _ _ _ _⟩
  | spawn id' =>
    have hlt : t < s.tasks.length := (List.getElem?_eq_some_iff.1 hT).1
    exact ⟨pc, by simp [step, spawn, List.getElem?_append_left hlt, hT], .stay _ _ _⟩
  | step t' =>
    simp only [step, stepTask_tasks, hT, Option.map_some']
    split
    · exact ⟨_, rfl, .step _ _ _⟩
    · exact ⟨pc, rfl, .stay _ _ _⟩
  | call t' c => exact (callTask_tasks fl sf s t' c).task hT _
  | drop t' => exact (dropTask_tasks s t').task hT _

/-- **What one action does to a task slot that was empty**: only `spawn` fills it, with
a task at the map look-up. -/
theorem step_task_new (fl : RecvAttr) (sf : SendFlags) {s : Worker} (a : Action) {t : Nat}
    (hT : s.tasks[t]? = none) {T : Task} (hT' : (s.step fl sf a).tasks[t]? = some T) :
    T.pc = .lookup := by
  cases a with
  | spawn id' =>
    simp only [step, spawn, List.getElem?_append] at hT'
    split at hT'
    · simp_all
    · have hmem : T ∈ [(⟨id', .lookup⟩ : Task)] := List.getElem?_mem hT'
      simp only [List.mem_singleton] at hmem
      rw [hmem]
  | arrive id' header data replyEp attr =>
    rcases arrive_tasks fl s id' header data replyEp attr with he | ⟨t', he⟩ <;>
      simp [step, he, wake_tasks, hT] at hT'
  | step t' => simp [step, stepTask_tasks, hT] at hT'
  | call t' c => simp [step, (callTask_tasks fl sf s t' c).task_none hT] at hT'
  | drop t' => simp [step, (dropTask_tasks s t').task_none hT] at hT'
  | register | registerRefused | unregister => simp [step, hT] at hT'

/-- **Where a task after one action comes from**: it was just spawned, or it was there
before and `PcMove` took it to its `pc`. -/
theorem step_task_cases (fl : RecvAttr) (sf : SendFlags) (s : Worker) (a : Action) {t : Nat}
    {id : UInt32} {pc' : Pc} (hT' : (s.step fl sf a).tasks[t]? = some ⟨id, pc'⟩) :
    pc' = .lookup ∨ ∃ pc, s.tasks[t]? = some ⟨id, pc⟩ ∧ PcMove s a id pc pc' := by
  cases hT : s.tasks[t]? with
  | none => exact .inl (step_task_new fl sf a hT hT')
  | some T =>
    obtain ⟨pc'', h1, hm⟩ := step_task fl sf a hT
    rw [hT'] at h1
    cases h1
    exact .inr ⟨_, rfl, hm⟩

end Worker

end AsyncUcx
