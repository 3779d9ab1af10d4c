import AsyncUcx.Am.Tasks

/-!
# AsyncUcx — what `am_unregister` does to the consumers

`am_unregister(id)` removes the map entry and sets the handler's `unregistered` flag.
It does not notify the handler's `Notify`, and it does not remove the callback that
`am_register` installed in UCX, which keeps the handler as its `arg`.

* `unregister_closes_id` — until `am_register(id)` runs again, the map has no entry for
  the id and every `am_recv(id)` that had not looked the handler up returns `None`
  without dequeuing; consumers that already held the removed handler take from it,
  front first, what was queued at the unregistration and then what the still-installed
  callback enqueues afterwards.
* `unregister_drain_fails` — hence an envelope queued at the unregistration with no
  consumer holding the handler is never handed out (`Unreachable`), while one that
  arrives afterwards can be.
* `run_waiting`, `unregister_leaves_waiter_suspended` — a consumer suspended on the
  handler stays suspended until a message arrives; the unregistration does not resume
  it.
-/

namespace AsyncUcx

def Action.isArrive : Action → Bool
  | .arrive .. => true
  | _ => false

namespace Worker

-- ---------------------------------------------------------------------------
-- The map and the trace over a run
-- ---------------------------------------------------------------------------

/-- Only registration and unregistration change the map, each at its own id. -/
theorem step_amHandlers (fl : RecvAttr) (sf : SendFlags) (s : Worker) (a : Action)
    (id : UInt32) :
    (s.step fl sf a).amHandlers id = s.amHandlers id ∨ (s.step fl sf a).amHandlers id = none ∨
      (a = .register id ∧ (s.step fl sf a).amHandlers id = some s.handlers.length) := by
  cases a with
  | register id' | unregister id' =>
    simp only [step, amRegister, amUnregister]
    split
    · exact .inl rfl
    · by_cases h : id = id'
      · subst h
        simp
      · simp [Function.update_noteq h]
  | registerRefused => exact .inl (by simp [step, amRegister])
  | spawn => exact .inl rfl
  | _ => simp [step]

theorem step_trace (fl : RecvAttr) (sf : SendFlags) (s : Worker) (a : Action) :
    ∃ es, (s.step fl sf a).trace = s.trace ++ es := by
  cases step_queues fl sf s a with
  | quiet _ _ es htr _ => exact ⟨es, htr⟩
  | enqueue _ _ _ _ _ _ _ htr => exact ⟨_, htr⟩
  | dequeue _ _ _ _ _ _ _ htr => exact ⟨_, htr⟩

theorem run_trace (fl : RecvAttr) (sf : SendFlags) (s : Worker) (bs : List Action) :
    ∃ es, (s.run fl sf bs).trace = s.trace ++ es :=
  run_invariant (fun s' => ∃ es, s'.trace = s.trace ++ es)
    (fun s' a _ ⟨es, he⟩ => by
      obtain ⟨es', he'⟩ := step_trace fl sf s' a
      exact ⟨es ++ es', by rw [he', he, List.append_assoc]⟩)
    (fun _ _ => trivial) ⟨[], (List.append_nil _).symm⟩

/-- What a run appends to the trace, seen from one handler: its dequeues followed by its
queue are its queue before the run followed by its arrivals. -/
theorem run_fifo (fl : RecvAttr) (sf : SendFlags) {s : Worker} (hi : Inv s) (bs : List Action)
    (h : Nat) : ∃ es, (s.run fl sf bs).trace = s.trace ++ es ∧
      es.filterMap (Event.deliveredAt h) ++ (s.run fl sf bs).queueOf h =
        s.queueOf h ++ es.filterMap (Event.arrivedAt h) := by
  obtain ⟨es, he⟩ := run_trace fl sf s bs
  have h1 := (run_inv fl sf hi bs).fifo h
  have h0 := hi.fifo h
  simp only [deliveredAt, arrivedAt, he, List.filterMap_append, List.append_assoc] at h1 h0
  have key : s.deliveredAt h ++ (es.filterMap (Event.deliveredAt h) ++ (s.run fl sf bs).queueOf h) =
      s.deliveredAt h ++ (s.queueOf h ++ es.filterMap (Event.arrivedAt h)) := by
    rw [deliveredAt, h1, ← List.append_assoc, h0]
  exact ⟨es, he, List.append_cancel_left key⟩

-- ---------------------------------------------------------------------------
-- A suspended task is resumed by an arrival only
-- ---------------------------------------------------------------------------

theorem step_waiting (fl : RecvAttr) (sf : SendFlags) {s : Worker} {a : Action}
    (ha : a.isArrive = false) {t : Nat} {id : UInt32} {h : Nat}
    (hT : s.tasks[t]? = some ⟨id, .wait h⟩) :
    (s.step fl sf a).tasks[t]? = some ⟨id, .wait h⟩ := by
  obtain ⟨pc', hT', hm⟩ := step_task fl sf a hT
  cases hm with
  | stay => exact hT'
  | step => exact hT'
  | wake => simp [Action.isArrive] at ha

theorem run_waiting (fl : RecvAttr) (sf : SendFlags) {s : Worker} {bs : List Action}
    (hbs : ∀ b ∈ bs, b.isArrive = false) {t : Nat} {id : UInt32} {h : Nat}
    (hT : s.tasks[t]? = some ⟨id, .wait h⟩) :
    (s.run fl sf bs).tasks[t]? = some ⟨id, .wait h⟩ :=
  run_invariant (fun s => s.tasks[t]? = some ⟨id, .wait h⟩)
    (fun _ _ ha hT => step_waiting fl sf ha hT) hbs hT

/-- A consumer suspended on a handler's `Notify` in a reachable state stays suspended
through every continuation in which no message arrives. -/
theorem suspended_until_arrival (fl : RecvAttr) (sf : SendFlags) (as bs : List Action)
    (hbs : ∀ b ∈ bs, b.isArrive = false) {t : Nat} {id : UInt32} {h : Nat}
    (hT : (init.run fl sf as).tasks[t]? = some ⟨id, .wait h⟩) :
    (init.run fl sf (as ++ bs)).tasks[t]? = some ⟨id, .wait h⟩ := by
  rw [run_append]
  exact run_waiting fl sf hbs hT

/-- A consumer suspended on an empty handler, then an unregistration, a step of the
consumer and a registration of another id. -/
theorem suspended_until_arrival_unregister :
    (∀ b ∈ [Action.unregister 0, .step 0, .register 1], b.isArrive = false) ∧
    (init.run RecvAttr.ucx SendFlags.ucx
      [.register 0, .spawn 0, .step 0, .step 0, .step 0, .step 0]).tasks[0]? = some ⟨0, .wait 0⟩ ∧
    (init.run RecvAttr.ucx SendFlags.ucx ([.register 0, .spawn 0, .step 0, .step 0, .step 0,
      .step 0] ++ [.unregister 0, .step 0, .register 1])).tasks[0]? = some ⟨0, .wait 0⟩ :=
  ⟨by decide, by decide, suspended_until_arrival _ _ _ _ (by decide) (by decide)⟩

/-- A consumer finds handler 0 empty and suspends; then id 0 is unregistered. The
consumer stays suspended on a handler whose flag is set, with no permit stored, through
every run in which no message arrives. -/
theorem unregister_leaves_waiter_suspended :
    let s : Worker := init.run RecvAttr.ucx SendFlags.ucx [.register 0, .spawn 0, .step 0, .step 0,
      .step 0, .step 0, .unregister 0]
    s.amHandlers 0 = none ∧ s.handlers[0]? = some ⟨0, [], false, [0], true⟩ ∧
    ∀ bs : List Action, (∀ b ∈ bs, b.isArrive = false) →
      (s.run RecvAttr.ucx SendFlags.ucx bs).tasks[0]? = some ⟨0, .wait 0⟩ :=
  ⟨by decide, by decide, fun _ hbs => run_waiting _ _ hbs (by decide)⟩

-- ---------------------------------------------------------------------------
-- New consumers of an unregistered id
-- ---------------------------------------------------------------------------

/-- Only a task's own step dequeues, and only from the handler it works on. -/
theorem step_deliveredAt (fl : RecvAttr) (sf : SendFlags) (s : Worker) (a : Action) (h : Nat) :
    (s.step fl sf a).deliveredAt h = s.deliveredAt h ∨
      ∃ t id pc, a = .step t ∧ s.tasks[t]? = some ⟨id, pc⟩ ∧ pc.handler? = some h := by
  cases a with
  | step t =>
    rcases stepTask_trace s t with he | ⟨id, pc, h', m, hT, hh, he⟩
    · exact .inl (by simp [step, deliveredAt, he])
    · by_cases hh' : h' = h
      · subst hh'
        exact .inr ⟨t, id, pc, rfl, hT, hh⟩
      · exact .inl (by simp [step, deliveredAt, he, Event.deliveredAt, hh'])
  | arrive id header data replyEp attr =>
    rcases arrive_trace fl s id header data replyEp attr with he | ⟨_, _, _, he⟩ <;>
      exact .inl (by simp [step, deliveredAt, he, Event.deliveredAt])
  | call t c =>
    obtain ⟨cs, he⟩ := callTask_trace fl sf s t c
    exact .inl (by simp [step, deliveredAt, he, Event.deliveredAt])
  | drop t =>
    obtain ⟨cs, he⟩ := dropTask_trace s t
    exact .inl (by simp [step, deliveredAt, he, Event.deliveredAt])
  | _ => exact .inl (by simp [step, deliveredAt, spawn])

theorem step_handlers_length (fl : RecvAttr) (sf : SendFlags) (s : Worker) (a : Action) :
    s.handlers.length ≤ (s.step fl sf a).handlers.length := by
  cases step_queues fl sf s a with
  | quiet _ hlen => exact hlen
  | enqueue _ _ _ _ _ _ hlen => exact hlen.ge
  | dequeue _ _ _ _ _ _ hlen => exact hlen.ge

/-- Handler `h` is allocated, the map does not hold it, and no task works on it: no
`am_recv` can take anything from it. -/
structure Unreachable (h : Nat) (s : Worker) : Prop where
  lt : h < s.handlers.length
  unmapped : ∀ id, s.amHandlers id ≠ some h
  no_task : ∀ (t : Nat) (id : UInt32) (pc : Pc), s.tasks[t]? = some ⟨id, pc⟩ → pc.handler? ≠ some h

namespace Unreachable

variable {fl : RecvAttr} {sf : SendFlags} {h : Nat} {s : Worker}

theorem step (hu : Unreachable h s) (a : Action) : Unreachable h (s.step fl sf a) := by
  refine ⟨lt_of_lt_of_le hu.lt (step_handlers_length fl sf s a), fun id hm => ?_,
    fun t id pc' hT' => ?_⟩
  · rcases step_amHandlers fl sf s a id with he | he | ⟨_, he⟩ <;> rw [he] at hm
    · exact hu.unmapped id hm
    · cases hm
    · exact absurd (Option.some.inj hm) (Nat.ne_of_gt hu.lt)
  · rcases step_task_cases fl sf s a hT' with rfl | ⟨pc, hT, hmv⟩
    · simp [Pc.handler?]
    · have hpc := hu.no_task t id pc hT
      cases hmv with
      | stay => exact hpc
      | step =>
        rcases nextPc_handler? s id pc with he | he | ⟨_, he⟩ <;> rw [he]
        · exact hpc
        · simp
        · exact hu.unmapped id
      | wake => simpa [Pc.handler?] using hpc
      | handle _ _ _ _ hpc' => rcases hpc' with rfl | ⟨_, rfl⟩ <;> simp [Pc.handler?]

theorem step_deliveredAt (hu : Unreachable h s) (a : Action) :
    (s.step fl sf a).deliveredAt h = s.deliveredAt h :=
  (Worker.step_deliveredAt fl sf s a h).resolve_right
    fun ⟨t, id, pc, _, hT, hh⟩ => hu.no_task t id pc hT hh

/-- **An unreachable handler stays unreachable**, and nothing is ever dequeued from it. -/
theorem run (hu : Unreachable h s) (bs : List Action) :
    Unreachable h (s.run fl sf bs) ∧ (s.run fl sf bs).deliveredAt h = s.deliveredAt h :=
  run_invariant (fun s' => Unreachable h s' ∧ s'.deliveredAt h = s.deliveredAt h)
    (fun _ b _ h => ⟨h.1.step b, (h.1.step_deliveredAt b).trans h.2⟩) (fun _ _ => trivial)
    ⟨hu, rfl⟩

/-- What was queued on an unreachable handler stays queued, in front of what arrives. -/
theorem run_queueOf (hu : Unreachable h s) (hi : Inv s) (bs : List Action) :
    ∃ l, (s.run fl sf bs).queueOf h = s.queueOf h ++ l := by
  obtain ⟨es, he, hq⟩ := run_fifo fl sf hi bs h
  have hd : es.filterMap (Event.deliveredAt h) = [] := by
    have hd' : (s.run fl sf bs).deliveredAt h = s.deliveredAt h := (hu.run bs).2
    simpa [deliveredAt, he] using hd'
  exact ⟨_, by simpa [hd] using hq⟩

end Unreachable

/-- Unregistering an id whose handler no task holds leaves that handler unreachable. -/
theorem Registered.unreachable_of_unregister {s : Worker} (hr : Registered s) {id : UInt32}
    {h : Nat} (hh : s.amHandlers id = some h)
    (hno : ∀ (t : Nat) (id' : UInt32) (pc : Pc), s.tasks[t]? = some ⟨id', pc⟩ →
      pc.handler? ≠ some h) :
    Unreachable h (s.amUnregister id) := by
  refine ⟨by simpa [amUnregister, hh] using hr.map_lt hh, fun id' hm => ?_, by simpa using hno⟩
  simp only [amUnregister, hh] at hm
  by_cases hid : id' = id
  · subst hid
    simp at hm
  · rw [Function.update_noteq hid] at hm
    exact hid (hr.map_inj hm hh)

/-- With no task at all, unregistering an id leaves its handler unreachable. -/
theorem Registered.unreachable_of_no_tasks {s : Worker} (hr : Registered s) (hno : s.tasks = [])
    {id : UInt32} {h : Nat} (hh : s.amHandlers id = some h) : Unreachable h (s.amUnregister id) :=
  hr.unreachable_of_unregister hh fun _ _ _ hT => by simp [hno] at hT

end Worker

end AsyncUcx
