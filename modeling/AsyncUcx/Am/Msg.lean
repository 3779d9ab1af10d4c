import AsyncUcx.Am.Send

/-!
# AsyncUcx — the message handle

`AmMsg` wraps one dequeued `RawMsg`. Its payload field is taken out by every
retrieval and by `Drop`:

* `recv_data_vectored` takes the payload; an `Eager` one goes through the scatter
  loop, a `Data`/`Rndv` one through one `ucp_am_recv_data_nbx` pull into the
  caller's regions;
* `recv_data_single` wraps one buffer as a one-region list;
* `recv_data` moves an `Eager` vector out, and for `Data`/`Rndv` puts the payload
  back, allocates `data_len()` bytes and re-enters through `recv_data_single`;
* `Drop` hands a `Data`/`Rndv` descriptor that is still held back with
  `ucp_am_data_release`.

Each method is a function of the handle and of UCX's answer to the native call it
makes (a `StatusPtr`), returning an `Out`: how the call ended, the handle
afterwards and the native calls made, in order. The caller's regions come back in
the `Ok` value. What a pull writes is UCX's side of the contract: on success the
payload, laid in order across the memory the `Datatype` handed to
`ucp_am_recv_data_nbx` describes (`scatter`, `Datatype.buffers`); on failure nothing.
`Vec::with_capacity` + `set_len` leaves `recv_data`'s buffer uninitialised; the
model fills it with zeros.
-/

namespace AsyncUcx

/-- A native call a handle makes on its worker's UCX context. -/
inductive UcpCall where
  /-- `ucp_am_recv_data_nbx(worker, desc, ..)`: the pull, which consumes the descriptor -/
  | recvDataNbx (desc : Nat) (datatype : Datatype)
  /-- `ucp_am_data_release(worker, desc)` -/
  | dataRelease (desc : Nat)
  deriving Repr, DecidableEq

/-- The descriptor a native call hands back to UCX. -/
def UcpCall.desc : UcpCall → Nat
  | .recvDataNbx d _ => d
  | .dataRelease d => d

/-- `AmMsg`: the worker reference only supplies the handle for native calls, so the
model keeps the message. -/
structure AmMsg where
  msg : RawMsg
  deriving Repr, DecidableEq

/-- What one `&mut self` method of `AmMsg` does. -/
structure Out (α : Type) where
  ret : Ret α
  self : AmMsg
  calls : List UcpCall

-- ---------------------------------------------------------------------------
-- Copying and pulling
-- ---------------------------------------------------------------------------

/-- `copy_nonoverlapping` of `src` into the front of `dst`. -/
def overwrite (src dst : List UInt8) : List UInt8 := src ++ dst.drop src.length

/-- The scatter loop of `recv_data_vectored`'s eager branch, from `copyed` bytes on:
each region takes `min(copyed, buf.len())` bytes and a zero ends the loop. -/
def copyLoop (data : List UInt8) : Nat → List (List UInt8) → List (List UInt8) × Nat
  | copyed, [] => ([], copyed)
  | copyed, buf :: rest =>
    let len := min copyed buf.length
    if len = 0 then (buf :: rest, copyed)
    else
      let r := copyLoop data (copyed + len) rest
      (overwrite ((data.drop copyed).take len) buf :: r.1, r.2)

/-- The loop starts with `copyed = 0`, so its first region already takes
`min(0, _) = 0` bytes: it copies nothing and counts nothing. -/
@[simp] theorem copyLoop_zero (data : List UInt8) (iov : List (List UInt8)) :
    copyLoop data 0 iov = (iov, 0) := by
  cases iov <;> simp [copyLoop]

/-- UCX's side of a completed pull: the payload laid across the regions in order. -/
def scatter : List UInt8 → List (List UInt8) → List (List UInt8)
  | _, [] => []
  | bs, r :: rs => overwrite (bs.take r.length) r :: scatter (bs.drop r.length) rs

/-- The caller's memory after a pull of `bytes` into the layout `dt` that UCX answered
with `sp`. -/
def pullInto (bytes : List UInt8) (dt : Datatype) (sp : StatusPtr) : List (List UInt8) :=
  if sp.succeeded then scatter bytes dt.buffers else dt.buffers

/-- `(cap, buf) => cap + buf.len()` folded over the regions. -/
def capacity (iov : List (List UInt8)) : Nat := iov.foldl (fun cap buf => cap + buf.length) 0

namespace AmMsg

-- ---------------------------------------------------------------------------
-- Accessors
-- ---------------------------------------------------------------------------

def id (m : AmMsg) : UInt32 := m.msg.id

def header (m : AmMsg) : List UInt8 := m.msg.header

/-- `AmMsg::data_type` -/
def dataType (m : AmMsg) : Option AmDataType := m.msg.data.map AmData.dataType

/-- `AmMsg::contains_data` -/
def containsData (m : AmMsg) : Bool := m.dataType.isSome

/-- `AmMsg::get_data` -/
def getData (m : AmMsg) : Option (List UInt8) := m.msg.data.bind AmData.data

/-- `AmMsg::data_len` -/
def dataLen (m : AmMsg) : Nat := m.msg.data.elim 0 AmData.len

/-- `AmMsg::need_reply` -/
def needReply (fl : RecvAttr) (m : AmMsg) : Bool :=
  m.msg.attr &&& fl.fieldReplyEp != 0 && m.msg.replyEp != 0

/-- The handle after `self.msg.data.take()`. -/
def take (m : AmMsg) : AmMsg := ⟨{ m.msg with data := none }⟩

@[simp] theorem take_data (m : AmMsg) : m.take.msg.data = none := rfl

-- ---------------------------------------------------------------------------
-- Retrieval
-- ---------------------------------------------------------------------------

/-- `AmMsg::recv_data_vectored`; `sp` is UCX's answer to the pull, when there is one. -/
def recvDataVectored (m : AmMsg) (iov : List (List UInt8)) (sp : StatusPtr) :
    Out (Nat × List (List UInt8)) :=
  match m.msg.data with
  | none => ⟨.ok (0, iov), m.take, []⟩
  | some (.Eager data) =>
    if capacity iov ≥ data.length then
      let r := copyLoop data 0 iov
      ⟨.ok (r.2, r.1), m.take, []⟩
    else ⟨.panic .capacity, m.take, []⟩
  | some (.Data s) | some (.Rndv s) =>
    let dt := Datatype.ofRegions iov
    ⟨sp.await (s.bytes.length, pullInto s.bytes dt sp) .recvFailed, m.take,
      [.recvDataNbx s.ptr dt]⟩

/-- `AmMsg::recv_data_single` -/
def recvDataSingle (m : AmMsg) (buf : List UInt8) (sp : StatusPtr) : Out (Nat × List UInt8) :=
  if !m.containsData then ⟨.ok (0, buf), m, []⟩
  else
    let r := m.recvDataVectored [buf] sp
    ⟨r.ret.map fun p => (p.1, p.2.headD []), r.self, r.calls⟩

/-- `AmMsg::recv_data` -/
def recvData (m : AmMsg) (sp : StatusPtr) : Out (List UInt8) :=
  match m.msg.data with
  | none => ⟨.ok [], m.take, []⟩
  | some (.Eager vec) => ⟨.ok vec, m.take, []⟩
  | some _ =>
    let r := m.recvDataSingle (List.replicate m.dataLen 0) sp
    ⟨r.ret.map fun p => p.2.take p.1, r.self, r.calls⟩

/-- `Drop for AmMsg`: the release it makes. -/
def drop (m : AmMsg) : List UcpCall :=
  match m.msg.data with
  | some (.Data s) | some (.Rndv s) => [.dataRelease s.ptr]
  | _ => []

-- ---------------------------------------------------------------------------
-- What every retrieval does to the handle
-- ---------------------------------------------------------------------------

theorem take_eq_self {m : AmMsg} (h : m.msg.data = none) : m.take = m := by
  obtain ⟨⟨_, _, _, _, _⟩⟩ := m
  simp_all [take]

@[simp] theorem containsData_eq (m : AmMsg) : m.containsData = m.msg.data.isSome := by
  simp [containsData, dataType]

theorem recvDataVectored_self (m : AmMsg) (iov : List (List UInt8)) (sp : StatusPtr) :
    (m.recvDataVectored iov sp).self = m.take := by
  unfold recvDataVectored
  split <;> (try split) <;> rfl

theorem recvDataSingle_self (m : AmMsg) (buf : List UInt8) (sp : StatusPtr) :
    (m.recvDataSingle buf sp).self = m.take := by
  unfold recvDataSingle
  split
  · rename_i h
    exact (take_eq_self (by simpa using h)).symm
  · exact recvDataVectored_self m [buf] sp

/-- Every retrieval leaves the payload field `None`, whatever its outcome. -/
theorem recvData_self (m : AmMsg) (sp : StatusPtr) : (m.recvData sp).self = m.take := by
  unfold recvData
  split
  · rfl
  · rfl
  · exact recvDataSingle_self _ _ _

/-- A retrieval hands UCX exactly the descriptor the handle held: one pull for
`Data`/`Rndv`, nothing otherwise. -/
theorem recvDataVectored_calls (m : AmMsg) (iov : List (List UInt8)) (sp : StatusPtr) :
    (m.recvDataVectored iov sp).calls.map UcpCall.desc = m.msg.desc.toList := by
  unfold recvDataVectored
  split <;> (try split) <;> simp_all [RawMsg.desc, AmData.desc, UcpCall.desc]

theorem recvDataSingle_calls (m : AmMsg) (buf : List UInt8) (sp : StatusPtr) :
    (m.recvDataSingle buf sp).calls.map UcpCall.desc = m.msg.desc.toList := by
  unfold recvDataSingle
  split
  · simp_all [RawMsg.desc]
  · exact recvDataVectored_calls m [buf] sp

theorem recvData_calls (m : AmMsg) (sp : StatusPtr) :
    (m.recvData sp).calls.map UcpCall.desc = m.msg.desc.toList := by
  unfold recvData
  split
  · simp_all [RawMsg.desc]
  · simp_all [RawMsg.desc, AmData.desc]
  · exact recvDataSingle_calls _ _ _

theorem drop_calls (m : AmMsg) : m.drop.map UcpCall.desc = m.msg.desc.toList := by
  unfold drop RawMsg.desc
  cases m.msg.data with
  | none => rfl
  | some d => cases d <;> rfl

theorem recvDataVectored_of_none {m : AmMsg} (h : m.msg.data = none)
    (iov : List (List UInt8)) (sp : StatusPtr) :
    (m.recvDataVectored iov sp).ret = .ok (0, iov) := by
  simp [recvDataVectored, h]

theorem recvDataSingle_of_none {m : AmMsg} (h : m.msg.data = none)
    (buf : List UInt8) (sp : StatusPtr) :
    (m.recvDataSingle buf sp).ret = .ok (0, buf) := by
  simp [recvDataSingle, h]

theorem recvData_of_none {m : AmMsg} (h : m.msg.data = none) (sp : StatusPtr) :
    (m.recvData sp).ret = .ok [] := by
  simp [recvData, h]

-- ---------------------------------------------------------------------------
-- Replies
-- ---------------------------------------------------------------------------

/-- `AmMsg::reply_vectorized`: checked against `need_reply`, then `am_send` on `reply_ep`. -/
def replyVectorized (fl : RecvAttr) (sf : SendFlags) (m : AmMsg) (id : UInt32)
    (header : List UInt8) (data : List (List UInt8)) (needReply : Bool)
    (proto : Option AmProto) (sp : StatusPtr) : Option AmSendNbx × Ret Unit :=
  if m.needReply fl = true then
    let r := amSend sf m.msg.replyEp id header data needReply proto sp
    (some r.1, r.2)
  else (none, .panic .needReply)

/-- `AmMsg::reply`: the same check, then `reply_vectorized` with one region. -/
def reply (fl : RecvAttr) (sf : SendFlags) (m : AmMsg) (id : UInt32) (header data : List UInt8)
    (needReply : Bool) (proto : Option AmProto) (sp : StatusPtr) : Option AmSendNbx × Ret Unit :=
  if m.needReply fl = true then m.replyVectorized fl sf id header [data] needReply proto sp
  else (none, .panic .needReply)

/-- The second `need_reply` check in `reply` repeats the one in `reply_vectorized`, so
`reply` is `reply_vectorized` on one region. -/
theorem reply_eq_replyVectorized (fl : RecvAttr) (sf : SendFlags) (m : AmMsg) (id : UInt32)
    (header data : List UInt8) (needReply : Bool) (proto : Option AmProto) (sp : StatusPtr) :
    m.reply fl sf id header data needReply proto sp =
      m.replyVectorized fl sf id header [data] needReply proto sp := by
  unfold reply replyVectorized
  split <;> simp_all

end AmMsg

end AsyncUcx
