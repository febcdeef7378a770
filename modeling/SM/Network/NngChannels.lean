import SM.Network.StreamNetDealer

/-!
# Channels of nng

What `ReqImpl` and `AsynRepImpl` share, and `AsynRepImpl`. The results of the nng
calls are arguments; of `nng_recv` only what its buffer size promises is known
(`NngRecvDocumented`). The bytes handed to nng are the bare body: a number is
neither packed nor unpacked, and `recvPack` returns the zero with which it starts.
-/

namespace SM.Network

open SM.Utils

/-- An `int` converted to `size_t`. -/
def sizeOfInt (value : Int32) : Nat := (value.toInt % 0x10000000000000000).toNat

/-- How a call of `recvPack` ends. -/
inductive NngRecvPack where
  /-- `none` is a null pointer. -/
  | returned (no : UInt32) (msg : Option Bytes)
  /-- An assertion failed. -/
  | aborted
deriving DecidableEq

/-- `nng_recv` without `NNG_FLAG_ALLOC`: the result and the size it leaves, for the size of the
buffer and the message. A message which fits is received. -/
def NngRecvDocumented (nngRecv : Nat → Bytes → Int32 × Nat) : Prop :=
  ∀ size message, message.length ≤ size → nngRecv size message = (0, message.length)

/-- `NngStatus`. -/
inductive NngStatus where
  | init
  | recv
  | wait
  | send
  | aioError
deriving DecidableEq

/-- The results of the nng calls of one `AsynRepImpl::sendPack`. -/
structure RepSendOutcome where
  /-- `nng_msg_alloc`. -/
  alloc : Int32
  /-- `nng_msg_append`. -/
  append : Int32
  /-- `nng_aio_begin`. -/
  begun : Bool
  /-- The result which the aio has for `nng_ctx_send`. -/
  ctxSend : Int32

namespace AsynRepImpl

/-- `sendPack` with `_nStatus` before it: the value returned and `_nStatus` afterwards, or `none`
when an assertion fails. -/
def sendPack (assertions : Bool) (status : NngStatus) (outcome : RepSendOutcome) :
    Option (Bool × NngStatus) :=
  if outcome.alloc ≠ 0 then some (false, status)
  else if outcome.append ≠ 0 then some (false, status)
  else if outcome.begun = false then
    if assertions then none else some (false, .aioError)
  else if assertions && decide (status ≠ .wait) then none
  else some (true, status)

/-- `recvPack` with `_nStatus` and what `async_receive` gives, where `none` is an exception. -/
def recvPack (assertions : Bool) (status : NngStatus) (vmsg : Option Bytes) : NngRecvPack :=
  if assertions && decide (status ≠ .init) then .aborted else .returned 0 vmsg

end AsynRepImpl

/-- nng has taken the whole message over. -/
def RepSendOutcome.Accepted (outcome : RepSendOutcome) : Prop :=
  outcome.alloc = 0 ∧ outcome.append = 0 ∧ outcome.begun = true ∧ outcome.ctxSend = 0

instance (outcome : RepSendOutcome) : Decidable outcome.Accepted :=
  inferInstanceAs (Decidable (_ ∧ _))

@[simp] theorem sizeOfInt_zero : sizeOfInt 0 = 0 := rfl

end SM.Network
