import Mathlib.Data.List.Basic

/-!
# AsyncUcx — active-message payloads

The data model of `src/ucp/endpoint/am.rs`: how an inbound active message is
recorded when UCX hands it to the worker's callback. A payload arrives as a
slice `&'static [u8]` that UCX owns, together with an attribute mask; `AmData::from_raw`
classifies it as

* `Eager` — the bytes are copied into a `Vec` at once, nothing is owed to UCX;
* `Data`  — the slice stays in UCX memory and must be handed back;
* `Rndv`  — only a rendezvous descriptor is known, the bytes are pulled later.

The bit values of `ucp_am_recv_attr_t` come from UCX's headers through generated
bindings that are not part of the source, so the three bits the code tests are a
parameter (`RecvAttr`) of every definition that reads them.

Outcomes of native calls (`ucs_status_ptr_t`) and the way the code ends a call
(`Result<_, ()>` or a panic) are also fixed here, since the receive and the send
paths share them.
-/

namespace AsyncUcx

/-- `ucs_status_t`, as far as this layer tells its values apart. -/
inductive UcsStatus where
  /-- `UCS_OK` -/
  | ok
  /-- `UCS_INPROGRESS` -/
  | inProgress
  /-- a `UCS_ERR_*` code -/
  | err (code : Int)
  deriving Repr, DecidableEq

/-- What `ucp_am_recv_data_nbx` and `ucp_am_send_nbx` return (`ucs_status_ptr_t`):
`NULL` when the operation completed in place, a request whose completion callback
will report `st`, or an error pointer carrying `st`. -/
inductive StatusPtr where
  | null
  | request (st : UcsStatus)
  | err (st : UcsStatus)
  deriving Repr, DecidableEq

/-- Whether the transport reports success for the operation. -/
def StatusPtr.succeeded : StatusPtr → Bool
  | .null => true
  | .request st => st == .ok
  | .err _ => false

/-- The bits of `ucp_am_recv_attr_t` that `am.rs` tests. -/
structure RecvAttr where
  /-- `UCP_AM_RECV_ATTR_FIELD_REPLY_EP` -/
  fieldReplyEp : UInt64
  /-- `UCP_AM_RECV_ATTR_FLAG_DATA` -/
  flagData : UInt64
  /-- `UCP_AM_RECV_ATTR_FLAG_RNDV` -/
  flagRndv : UInt64
  deriving Repr, DecidableEq

/-- The values UCX's headers give these bits (`UCS_BIT(0)`, `UCS_BIT(16)`, `UCS_BIT(17)`),
for running the model on concrete inputs. -/
def RecvAttr.ucx : RecvAttr := ⟨1, 65536, 131072⟩

/-- Where the code panics instead of returning. -/
inductive Panic where
  /-- `assert!(cap >= data.len())` in the eager branch of `recv_data_vectored` -/
  | capacity
  /-- `panic!("failed to recv data: {:?}", ..)` -/
  | recvFailed (st : UcsStatus)
  /-- `panic!("failed to send am: {:?}", ..)` -/
  | sendFailed (st : UcsStatus)
  /-- `assert_eq!(self.need_reply(), true)` in `reply` / `reply_vectorized` -/
  | needReply
  deriving Repr, DecidableEq

/-- How an `async fn … -> Result<α, ()>` of `am.rs` ends: `Ok`, `Err(())`, or a panic. -/
inductive Ret (α : Type) where
  | ok (a : α)
  | err
  | panic (p : Panic)
  deriving Repr, DecidableEq

namespace Ret

variable {α β : Type}

/-- `?`-style sequencing: an `Err` or a panic ends the caller too. -/
def bind : Ret α → (α → Ret β) → Ret β
  | .ok a, f => f a
  | .err, _ => .err
  | .panic p, _ => .panic p

def map (f : α → β) (r : Ret α) : Ret β := r.bind fun a => .ok (f a)

/-- The call came back (with `Ok` or `Err`) rather than panicking. -/
def returned : Ret α → Bool
  | .panic _ => false
  | _ => true

@[simp] theorem bind_ok (a : α) (f : α → Ret β) : (Ret.ok a).bind f = f a := rfl
@[simp] theorem bind_err (f : α → Ret β) : (Ret.err : Ret α).bind f = .err := rfl
@[simp] theorem bind_panic (p : Panic) (f : α → Ret β) :
    (Ret.panic p : Ret α).bind f = .panic p := rfl
@[simp] theorem map_ok (f : α → β) (a : α) : (Ret.ok a).map f = .ok (f a) := rfl
@[simp] theorem map_panic (f : α → β) (p : Panic) :
    (Ret.panic p : Ret α).map f = .panic p := rfl
@[simp] theorem map_eq_err (f : α → β) (r : Ret α) : r.map f = .err ↔ r = .err := by
  cases r <;> simp [map, bind]

end Ret

-- ---------------------------------------------------------------------------
-- Attribute masks
-- ---------------------------------------------------------------------------

theorem bitVec_eq_zero_iff {w : Nat} (x : BitVec w) :
    x = 0#w ↔ ∀ i : Fin w, x.getLsbD i = false :=
  ⟨fun h i => by simp [h], fun h => BitVec.eq_of_getLsbD_eq fun i => by simp [h i]⟩

theorem uInt64_eq_zero_iff (x : UInt64) : x = 0 ↔ ∀ i : Fin 64, x.toBitVec.getLsbD i = false :=
  ⟨fun h => (bitVec_eq_zero_iff _).1 (UInt64.toBitVec_eq_of_eq h),
   fun h => UInt64.eq_of_toBitVec_eq ((bitVec_eq_zero_iff _).2 h)⟩

theorem and_or_eq_zero_iff (a d r : UInt64) :
    a &&& (d ||| r) = 0 ↔ (a &&& d = 0 ∧ a &&& r = 0) := by
  simp only [uInt64_eq_zero_iff]
  show (∀ i : Fin 64, (a.toBitVec &&& (d.toBitVec ||| r.toBitVec)).getLsbD i = false) ↔
    (∀ i : Fin 64, (a.toBitVec &&& d.toBitVec).getLsbD i = false) ∧
    (∀ i : Fin 64, (a.toBitVec &&& r.toBitVec).getLsbD i = false)
  simp only [BitVec.getLsbD_and, BitVec.getLsbD_or, Bool.and_or_distrib_left, Bool.or_eq_false_iff]
  exact forall_and

/-- A mask meets `d ||| r` exactly when it meets `d` or `r`: the test of `DATA_FLAG`
in the callback against the two tests of `from_raw`. -/
theorem and_or_ne_zero_iff (a d r : UInt64) :
    a &&& (d ||| r) ≠ 0 ↔ (a &&& d ≠ 0 ∨ a &&& r ≠ 0) := by
  simp only [Ne, and_or_eq_zero_iff, not_and_or]

@[simp] theorem zero_and_uInt64 (x : UInt64) : (0 : UInt64) &&& x = 0 :=
  UInt64.eq_of_toBitVec_eq BitVec.zero_and

-- ---------------------------------------------------------------------------
-- Payloads
-- ---------------------------------------------------------------------------

/-- A payload slice `&'static [u8]` built from the callback's `(data, data_len)`: its
address, which is the descriptor handed back to UCX, and the bytes it stands for
(for a rendezvous descriptor, the bytes a pull will fetch). -/
structure Slice where
  ptr : Nat
  bytes : List UInt8
  deriving Repr, DecidableEq

/-- `AmDataType` -/
inductive AmDataType where
  | Eager
  | Data
  | Rndv
  deriving Repr, DecidableEq

/-- `AmData` -/
inductive AmData where
  | Eager (v : List UInt8)
  | Data (s : Slice)
  | Rndv (s : Slice)
  deriving Repr, DecidableEq

namespace AmData

/-- `AmData::from_raw`: an empty slice carries no payload; otherwise the `DATA` bit
wins over the `RNDV` bit, and with neither the bytes are copied. -/
def fromRaw (fl : RecvAttr) (data : Slice) (attr : UInt64) : Option AmData :=
  if data.bytes.length = 0 then none
  else if attr &&& fl.flagData ≠ 0 then some (.Data data)
  else if attr &&& fl.flagRndv ≠ 0 then some (.Rndv data)
  else some (.Eager data.bytes)

/-- `AmData::data_type` -/
def dataType : AmData → AmDataType
  | .Eager _ => .Eager
  | .Data _ => .Data
  | .Rndv _ => .Rndv

/-- `AmData::data`: the bytes, where they are resident. -/
def data : AmData → Option (List UInt8)
  | .Eager v => some v
  | .Data s => some s.bytes
  | .Rndv _ => none

/-- `AmData::len` -/
def len : AmData → Nat
  | .Eager v => v.length
  | .Data s => s.bytes.length
  | .Rndv s => s.bytes.length

/-- The UCX descriptor a payload keeps alive: `Data` and `Rndv` hold one, `Eager` does not. -/
def desc : AmData → Option Nat
  | .Eager _ => none
  | .Data s => some s.ptr
  | .Rndv s => some s.ptr

/-- The bytes the payload stands for. -/
def bytes : AmData → List UInt8
  | .Eager v => v
  | .Data s => s.bytes
  | .Rndv s => s.bytes

@[simp] theorem len_eq_length_bytes (d : AmData) : d.len = d.bytes.length := by
  cases d <;> rfl

end AmData

/-- `RawMsg`: one inbound message as the callback records it. -/
structure RawMsg where
  id : UInt32
  header : List UInt8
  data : Option AmData
  /-- `reply_ep: ucp_ep_h`, with `0` for the null handle -/
  replyEp : Nat
  attr : UInt64
  deriving Repr, DecidableEq

/-- `RawMsg::from_raw` -/
def RawMsg.fromRaw (fl : RecvAttr) (id : UInt32) (header : List UInt8) (data : Slice)
    (replyEp : Nat) (attr : UInt64) : RawMsg :=
  { id, header, data := AmData.fromRaw fl data attr, replyEp, attr }

/-- The descriptor a message still holds. -/
def RawMsg.desc (m : RawMsg) : Option Nat := m.data.bind AmData.desc

end AsyncUcx
