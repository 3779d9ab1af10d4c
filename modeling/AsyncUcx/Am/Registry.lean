import AsyncUcx.Am.Lifecycle

/-!
# AsyncUcx — the handler registry as a state machine

The worker side of `am.rs`: `am_register`, `am_unregister`, the callback UCX runs
for each arrival, and the consumer tasks of `am_recv`. The state holds

* `handlers` — every `Rc<AmHandler>` ever allocated, by address; an `AmHandler` is
  its queue, its `Notify` (a stored permit and the suspended waiters, oldest first)
  and its `unregistered` flag;
* `amHandlers` — `Worker::am_handlers`, the map from id to handler;
* `recvHandlers` — UCX's side: for each id, the `arg` of the callback that
  `ucp_worker_set_am_recv_handler` installed;
* `tasks` — the consumer tasks, each at a step of `am_recv` and `wait_msg`, or done
  and owning the handle it got;
* `trace` — a ghost record of arrivals (with the status the callback returned),
  dequeues and the native calls the handles made.

A task's steps are finer than the scheduler's: the map look-up, each read of the
flag, each `pop_front` and the first poll of `notified()` are separate actions, so
every interleaving a single-threaded executor allows, and more, is a run here.
`Worker.run` takes any list of actions; one that is not enabled changes nothing.

UCX's side enters through the actions: an arrival carries what UCX hands the
callback, and a registration carries UCX's answer to `ucp_worker_set_am_recv_handler`
(`register`, `registerRefused`), as the answers to pulls and sends are arguments of the
handle's methods. A refusal panics at `assert!` with the write guard of `am_handlers`
held, which poisons the lock; the model does not poison it. After that, every later
`am_register`, `am_unregister` and `am_recv` panics at the lock and changes nothing, so
a real run is a run here with those calls left out.
-/

namespace AsyncUcx

/-- `AmHandler` -/
structure AmHandler where
  id : UInt32
  /-- `msgs: Mutex<VecDeque<RawMsg>>` -/
  msgs : List RawMsg
  /-- `notify: Notify`: the stored permit -/
  permit : Bool
  /-- `notify: Notify`: the tasks suspended in `notified().await`, oldest first -/
  waiters : List Nat
  /-- `unregistered: AtomicBool` -/
  unregistered : Bool
  deriving Repr, DecidableEq

namespace AmHandler

/-- `AmHandler::new` -/
def new (id : UInt32) : AmHandler := ⟨id, [], false, [], false⟩

/-- `AmHandler::unregister` -/
def unregister (H : AmHandler) : AmHandler := { H with unregistered := true }

/-- `Notify::notify_one`: wake the oldest waiter, or store the permit. -/
def notifyOne (H : AmHandler) : AmHandler × Option Nat :=
  match H.waiters with
  | w :: ws => ({ H with waiters := ws }, some w)
  | [] => ({ H with permit := true }, none)

/-- `AmHandler::callback`: enqueue the message built by `RawMsg::from_raw`, then
`notify_one`. -/
def callback (fl : RecvAttr) (H : AmHandler) (header : List UInt8) (data : Slice)
    (reply : Nat) (attr : UInt64) : AmHandler × Option Nat :=
  notifyOne { H with msgs := H.msgs ++ [RawMsg.fromRaw fl H.id header data reply attr] }

end AmHandler

/-- The status the `extern "C"` callback of `am_register` returns to UCX:
`UCS_INPROGRESS` when `recv_attr` meets `DATA_FLAG` (the `DATA` and `RNDV` bits),
`UCS_OK` otherwise. -/
def amRecvStatus (fl : RecvAttr) (attr : UInt64) : UcsStatus :=
  if attr &&& (fl.flagData ||| fl.flagRndv) ≠ 0 then .inProgress else .ok

/-- Where an `am_recv` task is. -/
inductive Pc where
  /-- `self.am_handlers.read().get(&id)` -/
  | lookup
  /-- the loop test `!self.unregistered.load(..)` -/
  | check (h : Nat)
  /-- `self.msgs.lock().pop_front()` inside the loop -/
  | pop (h : Nat)
  /-- the first poll of `self.notify.notified()` -/
  | park (h : Nat)
  /-- suspended on the `Notify` -/
  | wait (h : Nat)
  /-- the `pop_front()` after the loop -/
  | drain (h : Nat)
  /-- `am_recv` returned; with `some`, the task owns the handle -/
  | done (r : Option AmMsg)
  /-- the handle was dropped -/
  | dropped
  deriving Repr, DecidableEq

/-- A consumer task running `am_recv(id)`. -/
structure Task where
  id : UInt32
  pc : Pc
  deriving Repr, DecidableEq

/-- Ghost record of what happened. -/
inductive Event where
  /-- UCX ran the callback for `id` with `arg` `h`; it enqueued `msg` and returned `status` -/
  | arrive (id : UInt32) (h : Nat) (msg : RawMsg) (status : UcsStatus)
  /-- an `am_recv(id)` task dequeued `msg` from handler `h` -/
  | deliver (id : UInt32) (h : Nat) (msg : RawMsg)
  /-- a handle made a native call -/
  | ucp (c : UcpCall)
  deriving Repr, DecidableEq

/-- The worker and what UCX keeps for it. -/
structure Worker where
  handlers : List AmHandler
  amHandlers : UInt32 → Option Nat
  recvHandlers : UInt32 → Option Nat
  tasks : List Task
  trace : List Event

/-- What can happen next. -/
inductive Action where
  /-- `Worker::am_register(id)`, UCX's `ucp_worker_set_am_recv_handler` answering `UCS_OK` -/
  | register (id : UInt32)
  /-- `Worker::am_register(id)`, `ucp_worker_set_am_recv_handler` failing with `UCS_ERR`
  `code` -/
  | registerRefused (id : UInt32) (code : Int)
  /-- `Worker::am_unregister(id)` -/
  | unregister (id : UInt32)
  /-- UCX receives a message for `id` and runs the callback installed for it -/
  | arrive (id : UInt32) (header : List UInt8) (data : Slice) (replyEp : Nat) (attr : UInt64)
  /-- a new task calls `am_recv(id)` -/
  | spawn (id : UInt32)
  /-- task `t` takes its next step -/
  | step (t : Nat)
  /-- task `t` calls its handle -/
  | call (t : Nat) (c : MsgCall)
  /-- task `t` drops its handle -/
  | drop (t : Nat)
  deriving Repr, DecidableEq

namespace Worker

def init : Worker := ⟨[], fun _ => none, fun _ => none, [], []⟩

/-- Apply `f` to the handler at address `h`. -/
def modifyHandler (s : Worker) (h : Nat) (f : AmHandler → AmHandler) : Worker :=
  { s with handlers := s.handlers.modify f h }

def setPc (s : Worker) (t : Nat) (pc : Pc) : Worker :=
  { s with tasks := s.tasks.modify (fun T => { T with pc }) t }

/-- Task `t` resumes from its `notified().await`. -/
def wake (s : Worker) (t : Nat) : Worker :=
  { s with tasks := s.tasks.modify (fun T =>
      match T.pc with
      | .wait h => { T with pc := .check h }
      | _ => T) t }

def log (s : Worker) (es : List Event) : Worker := { s with trace := s.trace ++ es }

@[simp] theorem modifyHandler_handlers (s : Worker) (h : Nat) (f : AmHandler → AmHandler) :
    (s.modifyHandler h f).handlers = s.handlers.modify f h := rfl
@[simp] theorem modifyHandler_amHandlers (s : Worker) (h : Nat) (f : AmHandler → AmHandler) :
    (s.modifyHandler h f).amHandlers = s.amHandlers := rfl
@[simp] theorem modifyHandler_recvHandlers (s : Worker) (h : Nat) (f : AmHandler → AmHandler) :
    (s.modifyHandler h f).recvHandlers = s.recvHandlers := rfl
@[simp] theorem modifyHandler_tasks (s : Worker) (h : Nat) (f : AmHandler → AmHandler) :
    (s.modifyHandler h f).tasks = s.tasks := rfl
@[simp] theorem modifyHandler_trace (s : Worker) (h : Nat) (f : AmHandler → AmHandler) :
    (s.modifyHandler h f).trace = s.trace := rfl
@[simp] theorem setPc_handlers (s : Worker) (t : Nat) (pc : Pc) :
    (s.setPc t pc).handlers = s.handlers := rfl
@[simp] theorem setPc_amHandlers (s : Worker) (t : Nat) (pc : Pc) :
    (s.setPc t pc).amHandlers = s.amHandlers := rfl
@[simp] theorem setPc_recvHandlers (s : Worker) (t : Nat) (pc : Pc) :
    (s.setPc t pc).recvHandlers = s.recvHandlers := rfl
@[simp] theorem setPc_trace (s : Worker) (t : Nat) (pc : Pc) : (s.setPc t pc).trace = s.trace := rfl
@[simp] theorem wake_handlers (s : Worker) (t : Nat) : (s.wake t).handlers = s.handlers := rfl
@[simp] theorem wake_amHandlers (s : Worker) (t : Nat) : (s.wake t).amHandlers = s.amHandlers := rfl
@[simp] theorem wake_recvHandlers (s : Worker) (t : Nat) :
    (s.wake t).recvHandlers = s.recvHandlers := rfl
@[simp] theorem wake_trace (s : Worker) (t : Nat) : (s.wake t).trace = s.trace := rfl
@[simp] theorem log_handlers (s : Worker) (es : List Event) :
    (s.log es).handlers = s.handlers := rfl
@[simp] theorem log_amHandlers (s : Worker) (es : List Event) :
    (s.log es).amHandlers = s.amHandlers := rfl
@[simp] theorem log_recvHandlers (s : Worker) (es : List Event) :
    (s.log es).recvHandlers = s.recvHandlers := rfl
@[simp] theorem log_tasks (s : Worker) (es : List Event) : (s.log es).tasks = s.tasks := rfl
@[simp] theorem log_trace (s : Worker) (es : List Event) : (s.log es).trace = s.trace ++ es := rfl

theorem modifyHandler_getElem? (s : Worker) (h : Nat) (f : AmHandler → AmHandler) (h' : Nat) :
    (s.modifyHandler h f).handlers[h']? =
      if h = h' then s.handlers[h']?.map f else s.handlers[h']? := by
  simp only [modifyHandler, List.getElem?_modify]
  split <;> simp

theorem setPc_tasks (s : Worker) (t : Nat) (pc : Pc) (t' : Nat) :
    (s.setPc t pc).tasks[t']? =
      if t = t' then s.tasks[t']?.map (fun T => { T with pc }) else s.tasks[t']? := by
  simp only [setPc, List.getElem?_modify]
  split <;> simp

theorem wake_tasks (s : Worker) (t : Nat) (t' : Nat) :
    (s.wake t).tasks[t']? =
      if t = t' then s.tasks[t']?.map (fun T =>
        match T.pc with
        | .wait h => { T with pc := .check h }
        | _ => T)
      else s.tasks[t']? := by
  simp only [wake, List.getElem?_modify]
  split <;> simp

/-- `Worker::am_register`, with `st` UCX's answer to `ucp_worker_set_am_recv_handler`.
Registration is one step, so the re-check of the map under the write lock sees what the
check under the read lock saw. When UCX refuses, `assert!(status == UCS_OK)` panics
before `guard.insert`: neither the map nor UCX's table changes. -/
def amRegister (s : Worker) (id : UInt32) (st : UcsStatus) : Worker :=
  if (s.amHandlers id).isSome then s
  else if st = .ok then
    let h := s.handlers.length
    { s with handlers := s.handlers ++ [AmHandler.new id],
             recvHandlers := Function.update s.recvHandlers id (some h),
             amHandlers := Function.update s.amHandlers id (some h) }
  else s

/-- `Worker::am_unregister`: the map entry goes and the flag is set; the callback
stays installed. -/
def amUnregister (s : Worker) (id : UInt32) : Worker :=
  match s.amHandlers id with
  | none => s
  | some h =>
    { s.modifyHandler h AmHandler.unregister with
      amHandlers := Function.update s.amHandlers id none }

/-- UCX delivers a message for `id`: it runs the callback installed for `id`, if any,
and the task `notify_one` picked resumes. -/
def arrive (fl : RecvAttr) (s : Worker) (id : UInt32) (header : List UInt8) (data : Slice)
    (replyEp : Nat) (attr : UInt64) : Worker :=
  match s.recvHandlers id with
  | none => s
  | some h =>
    match s.handlers[h]? with
    | none => s
    | some H =>
      let r := H.callback fl header data replyEp attr
      let s := (s.modifyHandler h fun _ => r.1).log
        [.arrive id h (RawMsg.fromRaw fl H.id header data replyEp attr) (amRecvStatus fl attr)]
      match r.2 with
      | some t => s.wake t
      | none => s

/-- `Worker::am_recv(id)` starts in a new task. -/
def spawn (s : Worker) (id : UInt32) : Worker := { s with tasks := s.tasks ++ [⟨id, .lookup⟩] }

/-- One step of task `t` through `am_recv` and `AmHandler::wait_msg`. -/
def stepTask (s : Worker) (t : Nat) : Worker :=
  match s.tasks[t]? with
  | none => s
  | some T =>
    match T.pc with
    | .lookup =>
      match s.amHandlers T.id with
      | some h => s.setPc t (.check h)
      | none => s.setPc t (.done none)
    | .check h =>
      match s.handlers[h]? with
      | none => s
      | some H => s.setPc t (if H.unregistered then .drain h else .pop h)
    | .pop h =>
      match s.handlers[h]? with
      | none => s
      | some H =>
        match H.msgs with
        | m :: rest =>
          ((s.modifyHandler h fun H => { H with msgs := rest }).setPc t (.done (some ⟨m⟩))).log
            [.deliver T.id h m]
        | [] => s.setPc t (.park h)
    | .park h =>
      match s.handlers[h]? with
      | none => s
      | some H =>
        if H.permit then (s.modifyHandler h fun H => { H with permit := false }).setPc t (.check h)
        else (s.modifyHandler h fun H => { H with waiters := H.waiters ++ [t] }).setPc t (.wait h)
    | .drain h =>
      match s.handlers[h]? with
      | none => s
      | some H =>
        match H.msgs with
        | m :: rest =>
          ((s.modifyHandler h fun H => { H with msgs := rest }).setPc t (.done (some ⟨m⟩))).log
            [.deliver T.id h m]
        | [] => s.setPc t (.done none)
    | .wait _ | .done _ | .dropped => s

/-- Task `t` makes call `c` on its handle; a panic drops the handle while unwinding. -/
def callTask (fl : RecvAttr) (sf : SendFlags) (s : Worker) (t : Nat) (c : MsgCall) : Worker :=
  match s.tasks[t]? with
  | some ⟨_, .done (some m)⟩ =>
    let r := c.run fl sf m
    if r.ret.returned then (s.setPc t (.done (some r.self))).log (r.calls.map .ucp)
    else (s.setPc t .dropped).log ((r.calls ++ r.self.drop).map .ucp)
  | _ => s

/-- Task `t` drops its handle. -/
def dropTask (s : Worker) (t : Nat) : Worker :=
  match s.tasks[t]? with
  | some ⟨_, .done (some m)⟩ => (s.setPc t .dropped).log (m.drop.map .ucp)
  | _ => s

def step (fl : RecvAttr) (sf : SendFlags) (s : Worker) : Action → Worker
  | .register id => s.amRegister id .ok
  | .registerRefused id code => s.amRegister id (.err code)
  | .unregister id => s.amUnregister id
  | .arrive id header data replyEp attr => s.arrive fl id header data replyEp attr
  | .spawn id => s.spawn id
  | .step t => s.stepTask t
  | .call t c => s.callTask fl sf t c
  | .drop t => s.dropTask t

-- ---------------------------------------------------------------------------
-- Frame: only registration and unregistration touch the map and UCX's table
-- ---------------------------------------------------------------------------

@[simp] theorem amRegister_tasks (s : Worker) (id : UInt32) (st : UcsStatus) :
    (s.amRegister id st).tasks = s.tasks := by
  unfold amRegister
  split_ifs <;> rfl

@[simp] theorem amRegister_trace (s : Worker) (id : UInt32) (st : UcsStatus) :
    (s.amRegister id st).trace = s.trace := by
  unfold amRegister
  split_ifs <;> rfl

@[simp] theorem amUnregister_tasks (s : Worker) (id : UInt32) :
    (s.amUnregister id).tasks = s.tasks := by
  unfold amUnregister
  split <;> rfl

@[simp] theorem amUnregister_trace (s : Worker) (id : UInt32) :
    (s.amUnregister id).trace = s.trace := by
  unfold amUnregister
  split <;> rfl

@[simp] theorem arrive_amHandlers (fl : RecvAttr) (s : Worker) (id : UInt32) (header : List UInt8)
    (data : Slice) (replyEp : Nat) (attr : UInt64) :
    (s.arrive fl id header data replyEp attr).amHandlers = s.amHandlers := by
  unfold arrive
  dsimp only
  repeat' split
  all_goals rfl

@[simp] theorem arrive_recvHandlers (fl : RecvAttr) (s : Worker) (id : UInt32)
    (header : List UInt8) (data : Slice) (replyEp : Nat) (attr : UInt64) :
    (s.arrive fl id header data replyEp attr).recvHandlers = s.recvHandlers := by
  unfold arrive
  dsimp only
  repeat' split
  all_goals rfl

@[simp] theorem stepTask_amHandlers (s : Worker) (t : Nat) :
    (s.stepTask t).amHandlers = s.amHandlers := by
  unfold stepTask
  repeat' split
  all_goals rfl

@[simp] theorem stepTask_recvHandlers (s : Worker) (t : Nat) :
    (s.stepTask t).recvHandlers = s.recvHandlers := by
  unfold stepTask
  repeat' split
  all_goals rfl

@[simp] theorem callTask_amHandlers (fl : RecvAttr) (sf : SendFlags) (s : Worker) (t : Nat)
    (c : MsgCall) : (s.callTask fl sf t c).amHandlers = s.amHandlers := by
  unfold callTask
  dsimp only
  repeat' split
  all_goals rfl

@[simp] theorem dropTask_amHandlers (s : Worker) (t : Nat) :
    (s.dropTask t).amHandlers = s.amHandlers := by
  unfold dropTask
  repeat' split
  all_goals rfl

/-- The state after the actions `as`, in order. -/
def run (fl : RecvAttr) (sf : SendFlags) (s : Worker) (as : List Action) : Worker :=
  as.foldl (step fl sf) s

theorem run_cons (fl : RecvAttr) (sf : SendFlags) (s : Worker) (a : Action) (as : List Action) :
    s.run fl sf (a :: as) = (s.step fl sf a).run fl sf as := rfl

theorem run_append (fl : RecvAttr) (sf : SendFlags) (s : Worker) (as bs : List Action) :
    s.run fl sf (as ++ bs) = (s.run fl sf as).run fl sf bs :=
  List.foldl_append _ _ _ _

/-- What every allowed action keeps holds after every run of allowed actions. -/
theorem run_invariant {fl : RecvAttr} {sf : SendFlags} (P : Worker → Prop) {Q : Action → Prop}
    (hstep : ∀ s a, Q a → P s → P (s.step fl sf a)) {s : Worker} {as : List Action}
    (has : ∀ a ∈ as, Q a) (hs : P s) : P (s.run fl sf as) := by
  induction as generalizing s with
  | nil => exact hs
  | cons a as ih =>
    exact ih (fun b hb => has b (List.mem_cons_of_mem _ hb))
      (hstep s a (has a (List.mem_cons_self _ _)) hs)

end Worker

end AsyncUcx
