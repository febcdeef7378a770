import SM.Network.StreamNetDealer

/-!
# Tcp channel

`TcpChannelImpl::sendPack` and `TcpChannelImpl::recvPack`. The socket is an
oracle: `WriteOutcome` and `ReadOutcome` are what one `async_send` or
`async_read_some` did, an exception included, since `END_ASIO` swallows it and
the loops go on with the variables as they were. A call whose oracle is used up
is suspended in its next socket operation.
-/

namespace SM.Network

open SM.Utils

/-- One `async_read_some` into the 512 bytes of `_recvasio`. -/
inductive ReadOutcome where
  | bytes (data : Bytes) (fits : data.length ≤ 512)
  | failed

/-- One `async_send`: how many of the offered bytes were written, or an exception. -/
inductive WriteOutcome where
  | sent (count : Nat)
  | failed
deriving DecidableEq

/-- The receiving members of `TcpChannelImpl`. -/
structure TcpChannelImpl where
  bRecv : Bytes
  bRecvMsg : Bytes
  recvasio : Bytes

namespace ReadOutcome

/-- The bytes which the operation took from the socket. -/
def data : ReadOutcome → Bytes
  | .bytes data _ => data
  | .failed => []

/-- The operation succeeded with at least one byte. -/
def Progress (outcome : ReadOutcome) : Prop := outcome.data ≠ []

end ReadOutcome

/-- The bytes actually read from the socket. -/
def received (reads : List ReadOutcome) : Bytes := reads.flatMap ReadOutcome.data

/-- `_retryCount`. -/
def retryCount : Nat := 2

/-- `length() < need` with `need` converted to `size_t`: a negative `int` becomes larger
than any string. -/
def Short (buffer : Bytes) (need : Int) : Prop := need < 0 ∨ (buffer.length : Int) < need

instance (buffer : Bytes) (need : Int) : Decidable (Short buffer need) :=
  inferInstanceAs (Decidable (_ ∨ _))

/-! ## Receiving -/

namespace TcpChannelImpl

/-- The constructor; `_recvasio` is not initialised. -/
def new (recvasio : Bytes) : TcpChannelImpl := ⟨[], [], recvasio⟩

/-- One protected `async_read_some`, with the value of `len` after it. -/
def readSome (channel : TcpChannelImpl) (len : Nat) : ReadOutcome → Nat × TcpChannelImpl
  | .bytes data _ =>
      (data.length, { channel with recvasio := data ++ channel.recvasio.drop data.length })
  | .failed => (len, channel)

/-- `_bRecv->append(_recvasio.begin(), _recvasio.begin() + len)`. -/
def appendRead (channel : TcpChannelImpl) (len : Nat) : TcpChannelImpl :=
  { channel with bRecv := channel.bRecv ++ channel.recvasio.take len }

/-- `while (++tryIndex < tryCount && _bRecv->length() < need)`, from the given `tryIndex`
and `len`. `none` is a suspended call. -/
def readLoop (need : Int) : Nat → Nat → TcpChannelImpl → List ReadOutcome →
    Option (Nat × TcpChannelImpl × List ReadOutcome)
  | tryIndex, len, channel, [] =>
      if tryIndex + 1 < retryCount ∧ Short channel.bRecv need then none
      else some (len, channel, [])
  | tryIndex, len, channel, read :: reads =>
      if tryIndex + 1 < retryCount ∧ Short channel.bRecv need then
        let (len, channel) := channel.readSome len read
        if 0 < len then readLoop need 0 len (channel.appendRead len) reads
        else readLoop need (tryIndex + 1) len channel reads
      else some (len, channel, read :: reads)

/-- How a call of `recvPack` ends. -/
inductive RecvPack where
  | returned (message : NMessage) (channel : TcpChannelImpl) (reads : List ReadOutcome)
  /-- `std::length_error` leaves the call. -/
  | thrown (channel : TcpChannelImpl) (reads : List ReadOutcome)
  | suspended

/-- The swap of `_bRecv` and `_bRecvMsg` at a frame end, and the returned pair. A frame
shorter than its head makes the body length wrap, which `std::string` rejects. -/
def splitFrame (netpack : StreamNetDealer) (channel : TcpChannelImpl)
    (reads : List ReadOutcome) : RecvPack :=
  let frame := channel.bRecv.take netpack.frameLen.toNat
  let channel := { channel with
    bRecv := channel.bRecv.drop netpack.frameLen.toNat, bRecvMsg := frame }
  if frame.length < StreamNetDealer.headLen then .thrown channel reads
  else .returned ⟨netpack.getNo, frame.drop StreamNetDealer.headLen⟩ channel reads

/-- `recvPack`. The members of the local `_netpack` start out indeterminate. -/
def recvPack (netpack : StreamNetDealer) (channel : TcpChannelImpl)
    (reads : List ReadOutcome) : RecvPack :=
  match readLoop StreamNetDealer.headLen 0 0 { channel with bRecvMsg := [] } reads with
  | none => .suspended
  | some (len, channel, reads) =>
      if StreamNetDealer.headLen ≤ channel.bRecv.length then
        match netpack.unpack channel.bRecv with
        | (false, netpack) => .returned ⟨netpack.getNo, []⟩ channel reads
        | (true, netpack) =>
            match readLoop netpack.frameLen 0 len channel reads with
            | none => .suspended
            | some (_, channel, reads) =>
                if Short channel.bRecv netpack.frameLen then
                  .returned ⟨netpack.getNo, []⟩ channel reads
                else splitFrame netpack channel reads
      else .returned ⟨netpack.getNo, []⟩ channel reads

/-- Successive calls of `recvPack`, one for each stack content, all of which return. -/
def recvPacks : List StreamNetDealer → TcpChannelImpl → List ReadOutcome →
    Option (List NMessage × TcpChannelImpl × List ReadOutcome)
  | [], channel, reads => some ([], channel, reads)
  | netpack :: stack, channel, reads =>
      match recvPack netpack channel reads with
      | .returned message channel reads =>
          (recvPacks stack channel reads).map fun (messages, rest) => (message :: messages, rest)
      | _ => none

/-- The messages returned by successive calls, until one does not return. -/
def recvAll : List StreamNetDealer → TcpChannelImpl → List ReadOutcome → List NMessage
  | [], _, _ => []
  | netpack :: stack, channel, reads =>
      match recvPack netpack channel reads with
      | .returned message channel reads => message :: recvAll stack channel reads
      | _ => []

end TcpChannelImpl

/-! ## Sending -/

/-- The locals of a `sendPack` call which is suspended in `async_send`. -/
structure SendPack where
  message : NMessage
  inBody : Bool
  tryIndex : Nat
  len : Nat
  hadsend : Nat
deriving DecidableEq

inductive SendStatus where
  | sending (call : SendPack)
  | returned (bret : Bool)
  /-- What the call does is undefined. -/
  | undefined
deriving DecidableEq

namespace SendPack

def strhead (call : SendPack) : Bytes :=
  (StreamNetDealer.pack call.message.no call.message.body.length).2

/-- The buffer offered to `async_send`. -/
def buffer (call : SendPack) : Bytes :=
  (if call.inBody then call.message.body else call.strhead).drop call.hadsend

/-- From the condition of the second loop to the next suspension or the end. -/
def bodyLoop (call : SendPack) : SendStatus :=
  if call.tryIndex + 1 < retryCount ∧ call.hadsend < call.message.body.length then
    .sending { call with tryIndex := call.tryIndex + 1 }
  else .returned (call.hadsend == call.message.body.length)

/-- From the condition of the first loop to the next suspension or the end. `len` is not
reset before the second loop. -/
def headLoop (call : SendPack) : SendStatus :=
  if call.tryIndex + 1 < retryCount ∧ call.hadsend < StreamNetDealer.headLen then
    .sending { call with tryIndex := call.tryIndex + 1 }
  else if call.hadsend ≠ StreamNetDealer.headLen then .returned false
  else bodyLoop { call with inBody := true, tryIndex := 0, hadsend := 0 }

/-- The bytes written by one protected `async_send`, and the call after it. -/
def resume (call : SendPack) (outcome : WriteOutcome) : Bytes × SendStatus :=
  let (written, len) : Bytes × Nat :=
    match outcome with
    | .sent count => (call.buffer.take count, (call.buffer.take count).length)
    | .failed => ([], call.len)
  let call := { call with
    len := len, hadsend := if 0 < len then call.hadsend + len else call.hadsend }
  (written, if call.inBody then call.bodyLoop else call.headLoop)

end SendPack

/-- Where the view which `sendPack` logs begins, `src.begin() + 8`. -/
def logOffset : Nat := 8

/-- `sendPack` up to its first suspension. The view of the body which it logs first begins behind
the end of a body of less than eight bytes. -/
def sendPack (message : NMessage) : SendStatus :=
  if message.body.length < logOffset then .undefined
  else SendPack.headLoop { message, inBody := false, tryIndex := 0, len := 0, hadsend := 0 }

/-- The message is long enough to be logged. -/
def Loggable (message : NMessage) : Prop := logOffset ≤ message.body.length

instance (message : NMessage) : Decidable (Loggable message) := inferInstanceAs (Decidable (_ ≤ _))

variable {message : NMessage}

/-- A message with a body of eight bytes is about to be sent. -/
theorem sendPack_of_loggable (loggable : Loggable message) :
    sendPack message = .sending ⟨message, false, 1, 0, 0⟩ := by
  rw [sendPack, if_neg (Nat.not_lt.mpr loggable)]
  simp [SendPack.headLoop, retryCount, StreamNetDealer.headLen]

/-- A shorter message is undefined. -/
theorem sendPack_of_not_loggable (short : ¬ Loggable message) : sendPack message = .undefined :=
  if_pos (Nat.lt_of_not_le short)

/-- A call is defined exactly when its message has a body of eight bytes. -/
theorem sendPack_ne_undefined_iff : sendPack message ≠ .undefined ↔ Loggable message := by
  by_cases loggable : Loggable message
  · simp [sendPack_of_loggable loggable, loggable]
  · simp [sendPack_of_not_loggable loggable, loggable]

/-- Such a message has a body. -/
theorem Loggable.body_ne_nil (loggable : Loggable message) : message.body ≠ [] := by
  intro empty
  simp [Loggable, logOffset, empty] at loggable

/-- Run a call on the outcomes of its writes: the bytes written, and the result if it returned. -/
def SendStatus.finish : SendStatus → List WriteOutcome → Bytes × Option Bool
  | .returned bret, _ => ([], some bret)
  | .undefined, _ => ([], none)
  | .sending _, [] => ([], none)
  | .sending call, outcome :: outcomes =>
      let (written, status) := call.resume outcome
      let (more, bret) := status.finish outcomes
      (written ++ more, bret)

end SM.Network
