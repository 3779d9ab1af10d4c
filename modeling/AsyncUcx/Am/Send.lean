import AsyncUcx.Am.Data

/-!
# AsyncUcx — the send path

`am_send` builds one `ucp_am_send_nbx` call from a header, a list of payload
regions, the reply request and an optional protocol hint, and then waits on the
request UCX hands back. `Endpoint::am_send`, `Endpoint::am_send_vectorized`,
`AmMsg::reply` and `AmMsg::reply_vectorized` all end in it.

What the code does with the transport's answer:

* `NULL` — the send completed in place: `Ok(())`;
* a request — awaited through `RequestHandle` with `poll_normal`; the completion
  callback only wakes the task and its status is dropped: `Ok(())`;
* an error pointer — `panic!("failed to send am: {:?}", ..)`.

So the path never yields `Err(())` (`amSend_ne_err`) and a failure reported
through a request comes back as `Ok(())` (`amSend_request`).
-/

namespace AsyncUcx

/-- `AmProto`: the protocol hint of a send. -/
inductive AmProto where
  | Eager
  | Rndv
  deriving Repr, DecidableEq

/-- The bits of `ucp_send_am_flags` that `am_send` sets; like `RecvAttr`, their
values come from UCX's headers. -/
structure SendFlags where
  /-- `UCP_AM_SEND_FLAG_REPLY` -/
  reply : UInt32
  /-- `UCP_AM_SEND_FLAG_EAGER` -/
  eager : UInt32
  /-- `UCP_AM_SEND_FLAG_RNDV` -/
  rndv : UInt32
  deriving Repr, DecidableEq

/-- The values UCX's headers give these bits (`UCS_BIT(0)`, `UCS_BIT(1)`, `UCS_BIT(2)`),
for running the model on concrete inputs. -/
def SendFlags.ucx : SendFlags := ⟨1, 2, 4⟩

/-- The payload layout of a native call: one contiguous buffer
(`ucp_dt_make_contig(1)`) or an iov list (`UCP_DATATYPE_IOV`). -/
inductive Datatype where
  | contig (buf : List UInt8)
  | iov (bufs : List (List UInt8))
  deriving Repr, DecidableEq

/-- The layout `am_send` and `recv_data_vectored` pick: contiguous for exactly one
region, an iov list otherwise. -/
def Datatype.ofRegions (data : List (List UInt8)) : Datatype :=
  match data with
  | [buf] => .contig buf
  | _ => .iov data

/-- The caller's memory a layout describes: the one buffer, or the buffers of the iov
list in order. A pull is written there. -/
def Datatype.buffers : Datatype → List (List UInt8)
  | .contig buf => [buf]
  | .iov bufs => bufs

/-- Both layouts `ofRegions` picks describe exactly the regions it was given. -/
@[simp] theorem Datatype.buffers_ofRegions (data : List (List UInt8)) :
    (ofRegions data).buffers = data := by
  unfold ofRegions
  split <;> rfl

/-- One `ucp_am_send_nbx(endpoint, id, header, .., buffer, count, param)` call. -/
structure AmSendNbx where
  endpoint : Nat
  id : UInt32
  header : List UInt8
  datatype : Datatype
  flags : UInt32
  deriving Repr, DecidableEq

/-- `param.flags` as `am_send` builds it: the protocol hint's bit, then the reply bit. -/
def sendFlags (sf : SendFlags) (needReply : Bool) (proto : Option AmProto) : UInt32 :=
  let flags : UInt32 :=
    match proto with
    | some .Eager => 0 ||| sf.eager
    | some .Rndv => 0 ||| sf.rndv
    | none => 0
  if needReply then flags ||| sf.reply else flags

/-- Waiting on a request (`RequestHandle { ptr, poll_fn }.await`) and then what the
caller does with the status pointer: `Ok` unless UCX returned an error pointer. -/
def StatusPtr.await {α : Type} (sp : StatusPtr) (a : α) (onErr : UcsStatus → Panic) : Ret α :=
  match sp with
  | .null => .ok a
  | .request _ => .ok a
  | .err st => .panic (onErr st)

@[simp] theorem StatusPtr.await_null {α : Type} (a : α) (f : UcsStatus → Panic) :
    StatusPtr.null.await a f = .ok a := rfl
@[simp] theorem StatusPtr.await_request {α : Type} (st : UcsStatus) (a : α)
    (f : UcsStatus → Panic) : (StatusPtr.request st).await a f = .ok a := rfl
@[simp] theorem StatusPtr.await_err {α : Type} (st : UcsStatus) (a : α)
    (f : UcsStatus → Panic) : (StatusPtr.err st).await a f = .panic (f st) := rfl

/-- `am_send`: the native call it issues and how it ends, given UCX's answer `sp`. -/
def amSend (sf : SendFlags) (endpoint : Nat) (id : UInt32) (header : List UInt8)
    (data : List (List UInt8)) (needReply : Bool) (proto : Option AmProto)
    (sp : StatusPtr) : AmSendNbx × Ret Unit :=
  ({ endpoint, id, header, datatype := .ofRegions data, flags := sendFlags sf needReply proto },
   sp.await () .sendFailed)

/-- `Endpoint::am_send_vectorized` on the endpoint whose handle is `endpoint`. -/
def Endpoint.amSendVectorized (sf : SendFlags) (endpoint : Nat) (id : UInt32)
    (header : List UInt8) (data : List (List UInt8)) (needReply : Bool)
    (proto : Option AmProto) (sp : StatusPtr) : AmSendNbx × Ret Unit :=
  amSend sf endpoint id header data needReply proto sp

/-- `Endpoint::am_send`: one region. -/
def Endpoint.amSend (sf : SendFlags) (endpoint : Nat) (id : UInt32) (header data : List UInt8)
    (needReply : Bool) (proto : Option AmProto) (sp : StatusPtr) : AmSendNbx × Ret Unit :=
  Endpoint.amSendVectorized sf endpoint id header [data] needReply proto sp

/-- The send path never produces `Err(())`. -/
theorem amSend_ne_err (sf : SendFlags) (endpoint : Nat) (id : UInt32) (header : List UInt8)
    (data : List (List UInt8)) (needReply : Bool) (proto : Option AmProto) (sp : StatusPtr) :
    (amSend sf endpoint id header data needReply proto sp).2 ≠ .err := by
  cases sp <;> simp [amSend, StatusPtr.await]

/-- A request is reported as `Ok(())` whatever status its completion carries. -/
theorem amSend_request (sf : SendFlags) (endpoint : Nat) (id : UInt32) (header : List UInt8)
    (data : List (List UInt8)) (needReply : Bool) (proto : Option AmProto) (st : UcsStatus) :
    (amSend sf endpoint id header data needReply proto (.request st)).2 = .ok () := rfl

end AsyncUcx
