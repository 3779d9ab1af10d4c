import AsyncUcx.Am.Lifecycle

/-!
# AsyncUcx — how failures surface

Every fallible `async fn` of `am.rs` returns `Result<_, ()>`, but none of them ever
builds an `Err(())`: each failure the code notices ends in a panic, and the ones it
does not notice come back as `Ok`.

* `recvDataVectored_ne_err`, `recvDataSingle_ne_err`, `recvData_ne_err`,
  `replyVectorized_ne_err` — no retrieval and no reply yields `Err(())`.
* `recvDataVectored_request` — a pull answered by a request is reported as
  `Ok(data_len())` whatever status the completion carries; when it failed, the
  regions are left unwritten.
* `replyVectorized_of_not_needReply` — a reply without reply capability panics at
  the `assert_eq!`.
* `recvDataVectored_err_drop` — a pull that UCX refuses panics after the payload was
  taken, so the drop during unwinding releases nothing.
* `recvDataSingle_short_buffer_panics` — a buffer too small for an eager payload hits
  `assert!(cap >= data.len())`, under the comment "return error if buffer size <
  data length".
-/

namespace AsyncUcx

namespace AmMsg

theorem recvDataVectored_ne_err (m : AmMsg) (iov : List (List UInt8)) (sp : StatusPtr) :
    (m.recvDataVectored iov sp).ret ≠ .err := by
  unfold recvDataVectored
  split <;> (try split) <;> (try cases sp) <;> simp

theorem recvDataSingle_ne_err (m : AmMsg) (buf : List UInt8) (sp : StatusPtr) :
    (m.recvDataSingle buf sp).ret ≠ .err := by
  unfold recvDataSingle
  split
  · simp
  · simpa using m.recvDataVectored_ne_err [buf] sp

theorem recvData_ne_err (m : AmMsg) (sp : StatusPtr) : (m.recvData sp).ret ≠ .err := by
  unfold recvData
  split
  · simp
  · simp
  · simpa using m.recvDataSingle_ne_err (List.replicate m.dataLen 0) sp

theorem replyVectorized_ne_err (fl : RecvAttr) (sf : SendFlags) (m : AmMsg) (id : UInt32)
    (header : List UInt8) (data : List (List UInt8)) (needReply : Bool) (proto : Option AmProto)
    (sp : StatusPtr) : (m.replyVectorized fl sf id header data needReply proto sp).2 ≠ .err := by
  unfold replyVectorized
  split
  · exact amSend_ne_err sf m.msg.replyEp id header data needReply proto sp
  · simp

/-- A pull answered by a request is reported as `Ok(data_len())` whatever its
completion status; on a failure the regions stay unwritten. -/
theorem recvDataVectored_request {m : AmMsg} {s : Slice}
    (h : m.msg.data = some (.Data s) ∨ m.msg.data = some (.Rndv s))
    (iov : List (List UInt8)) {st : UcsStatus} (hst : st ≠ .ok) :
    (m.recvDataVectored iov (.request st)).ret = .ok (m.dataLen, iov) := by
  rcases h with h | h <;>
    simp [recvDataVectored, h, pullInto, StatusPtr.succeeded, hst, dataLen, AmData.len]

theorem replyVectorized_of_not_needReply (fl : RecvAttr) (sf : SendFlags) {m : AmMsg}
    (h : m.needReply fl = false) (id : UInt32) (header : List UInt8) (data : List (List UInt8))
    (needReply : Bool) (proto : Option AmProto) (sp : StatusPtr) :
    m.replyVectorized fl sf id header data needReply proto sp = (none, .panic .needReply) := by
  simp [replyVectorized, h]

/-- A refused pull panics after the payload was taken: the unwinding drop releases
nothing, while the one native call made was the refused pull. -/
theorem recvDataVectored_err_drop {m : AmMsg} {s : Slice}
    (h : m.msg.data = some (.Data s) ∨ m.msg.data = some (.Rndv s))
    (iov : List (List UInt8)) (st : UcsStatus) :
    (m.recvDataVectored iov (.err st)).ret = .panic (.recvFailed st) ∧
      (m.recvDataVectored iov (.err st)).self.drop = [] ∧
      (m.recvDataVectored iov (.err st)).calls = [.recvDataNbx s.ptr (.ofRegions iov)] := by
  rcases h with h | h <;> simp [recvDataVectored, h, drop]

end AmMsg

/-- No retrieval, reply or send ever returns `Err(())`, whatever the payload, the
regions and UCX's answer. -/
theorem failures_never_err (fl : RecvAttr) (sf : SendFlags) (m : AmMsg) (buf : List UInt8)
    (iov : List (List UInt8)) (sp : StatusPtr) (endpoint : Nat) (id : UInt32)
    (header : List UInt8) (data : List (List UInt8)) (needReply : Bool)
    (proto : Option AmProto) :
    (m.recvDataVectored iov sp).ret ≠ .err ∧ (m.recvDataSingle buf sp).ret ≠ .err ∧
    (m.recvData sp).ret ≠ .err ∧
    (m.replyVectorized fl sf id header data needReply proto sp).2 ≠ .err ∧
    (amSend sf endpoint id header data needReply proto sp).2 ≠ .err :=
  ⟨m.recvDataVectored_ne_err iov sp, m.recvDataSingle_ne_err buf sp, m.recvData_ne_err sp,
    m.replyVectorized_ne_err fl sf id header data needReply proto sp,
    amSend_ne_err sf endpoint id header data needReply proto sp⟩

/-- An eager payload of two bytes and a one-byte buffer: `recv_data_single` panics at
the capacity assertion. -/
theorem recvDataSingle_short_buffer_panics (fl : RecvAttr) :
    ((AmMsg.mk (RawMsg.fromRaw fl 0 [] ⟨0, [1, 2]⟩ 0 0)).recvDataSingle [0] .null).ret =
      .panic .capacity := by
  simp [AmMsg.recvDataSingle, AmMsg.recvDataVectored, RawMsg.fromRaw, AmData.fromRaw, capacity]

end AsyncUcx
