import SM.Network.FullDuplexChannel
import SM.Network.ReqImpl
import SM.Network.TcpSend

/-!
# Links

The pairs of ends which a `ChannelCombine` is instantiated with, and what each of
them makes of a message that comes through whole: `carries_iff` says which messages
are received with the number and the body they were sent with.
-/

namespace SM.Network

open SM.Lib SM.Utils TcpChannelImpl

/-- From the `sendPack` of one end to the `recvPack` of the other. -/
inductive Link where
  /-- `TcpChannelImpl` to `TcpChannelImpl`. -/
  | tcp
  /-- `FullDuplexChannel` to the other one of its pair. -/
  | fullDuplex
  /-- `ReqImpl` to `AsynRepImpl`. -/
  | request
  /-- `AsynRepImpl` to `ReqImpl`. -/
  | reply
deriving DecidableEq

variable {keeps assertions : Bool} {nngRecv : Nat → Bytes → Int32 × Nat} {message : NMessage}

/-- What `sendPack` does is defined, and the frame of a send which succeeded comes first of what is
still to be read. -/
def TcpCarries (message : NMessage) : Prop :=
  sendPack message ≠ .undefined ∧
    ∀ (call : SendCall) (netpack : StreamNetDealer) (channel : TcpChannelImpl)
      (reads : List ReadOutcome) (rest : Bytes), call.message = message →
      call.succeeded = true → call.written = encodeMessage message →
      (∀ read ∈ reads, read.Progress) → channel.stream reads = call.written ++ rest →
      ∃ next more, recvPack netpack channel reads = .returned message next more

/-- The two items of a send come through an empty queue and are taken. -/
def FullDuplexCarries (assertions : Bool) (message : NMessage) : Prop :=
  ∀ (count : Nat) (channel final : FullDuplexChannel count) (index : Fin count)
    (schedule : List (DuplexStep count)), channel.queue = [] → channel.head = none →
    channel.calls index = .head message → puts schedule = [index, index] → takes schedule = 2 →
    channel.run assertions schedule = some final →
    final.returned = channel.returned ++ [message]

/-- Every call of `sendPack` which nng accepts is defined, and the body of one which succeeded is
received by a context that may call `recvPack`. -/
def RequestCarries (keeps assertions : Bool) (message : NMessage) : Prop :=
  ∀ (nnop : Int32) (call : ReqImpl.SendPack keeps nnop message.body) (status : NngStatus),
    nnop = 0 → call.bret ≠ none ∧ (call.bret = some true → (assertions = true → status = .init) →
      AsynRepImpl.recvPack assertions status (some message.body) =
        .returned message.no (some message.body))

/-- The body of a send which succeeded is received by every call of the requester. -/
def ReplyCarries (keeps assertions : Bool) (nngRecv : Nat → Bytes → Int32 × Nat)
    (message : NMessage) : Prop :=
  ∀ (outcome : RepSendOutcome) (status next : NngStatus), outcome.Accepted →
    AsynRepImpl.sendPack assertions status outcome = some (true, next) →
    ∀ call : ReqImpl.RecvPack keeps assertions nngRecv message.body,
      ReqImpl.received call.ending = some (.returned message.no (some message.body))

/-- A message sent with success and delivered unchanged is received with its number and body. -/
def Link.Carries (keeps assertions : Bool) (nngRecv : Nat → Bytes → Int32 × Nat) :
    Link → NMessage → Prop
  | .tcp => TcpCarries
  | .fullDuplex => FullDuplexCarries assertions
  | .request => RequestCarries keeps assertions
  | .reply => ReplyCarries keeps assertions nngRecv

/-- The body of a TCP message has the eight bytes behind which the log begins, and the head of a
frame can represent it. On nng, `co_spawn` keeps the closures of its coroutines; a request has
number zero or a body, with which its send does not succeed; a reply has number zero and no body,
and no assertion is evaluated. -/
def Link.CanCarry (keeps assertions : Bool) : Link → NMessage → Prop
  | .tcp, message => Loggable message ∧ message.body.length < maxBody
  | .fullDuplex, _ => True
  | .request, message => keeps = true ∧ (message.no = 0 ∨ message.body ≠ [])
  | .reply, message => keeps = true ∧ assertions = false ∧ message.no = 0 ∧ message.body = []

instance (keeps assertions : Bool) (link : Link) (message : NMessage) :
    Decidable (link.CanCarry keeps assertions message) :=
  match link with
  | .tcp => inferInstanceAs (Decidable (_ ∧ _))
  | .fullDuplex => inferInstanceAs (Decidable True)
  | .request => inferInstanceAs (Decidable (_ ∧ (_ ∨ _)))
  | .reply => inferInstanceAs (Decidable (_ ∧ _ ∧ _ ∧ _))

/-! ## The four links -/

/-- TCP carries a message whose body has eight bytes and whose frame fits. -/
theorem tcpCarries_iff :
    TcpCarries message ↔ Loggable message ∧ message.body.length < maxBody := by
  refine (and_congr_left' sendPack_ne_undefined_iff).trans (and_congr_right fun loggable => ?_)
  constructor
  · intro carries
    let call : SendCall := ⟨message, .sent 8, .sent message.body.length⟩
    have full : call.outcome = (encodeMessage message, some true) := by
      rw [SendCall.outcome_of_head_full loggable rfl]
      simp [call, SendCall.bodyResult, WriteOutcome.writes, encodeMessage, SendCall.strhead]
    have written : call.written = encodeMessage message := by rw [SendCall.written, full]
    have succeeded : call.succeeded = true := by simp [SendCall.succeeded, full]
    obtain ⟨next, more, returned⟩ := carries call ⟨0, 0⟩ ⟨encodeMessage message, [], []⟩ [] [] rfl
      succeeded written (by simp) (by simp [stream, written])
    have spec := @recvPack_spec [] ⟨0, 0⟩ ⟨encodeMessage message, [], []⟩ (by simp)
    rw [returned] at spec
    cases spec with
    | returned found suffix => exact (eq_encode_of_nextMessage found).1
  · intro short call netpack channel reads rest _ _ written progress arrives
    have spec := recvPack_spec netpack channel progress
    have first : nextMessage (channel.stream reads) = some (message, rest) := by
      rw [arrives, written]
      exact nextMessage_encode short rest
    generalize recvPack netpack channel reads = result at spec
    cases spec with
    | @returned other next more found suffix =>
        rw [first] at found
        cases found
        exact ⟨next, more, rfl⟩
    | thrown stuck => cases first.symm.trans stuck
    | suspended stuck => cases first.symm.trans stuck

/-- A pair carries every message. -/
theorem fullDuplexCarries : FullDuplexCarries assertions message := by
  intro count channel final index schedule idle none call twice taken ran
  have items : channel.items schedule = duplexItems message := by
    simp [FullDuplexChannel.items, FullDuplexChannel.sent, idle, none, twice, Schedule.emit, call,
      FullDuplexSend.items, duplexItems]
  have pairs : channel.pairs schedule = 1 := by
    simp [FullDuplexChannel.pairs, none, taken]
  have returned := FullDuplexChannel.run_returned ran (by
    rw [items, pairs]
    exact ⟨by simp, trivial⟩)
  rw [returned, items, pairs]
  simp [duplexItems, pairItems]

/-- A request whose closure is kept carries number zero, or a body, with which its send reports
failure. -/
theorem requestCarries_iff :
    RequestCarries keeps assertions message ↔
      keeps = true ∧ (message.no = 0 ∨ message.body ≠ []) := by
  constructor
  · intro carries
    have kept : keeps = true := by
      cases keeps with
      | true => rfl
      | false =>
          have closed : some (ReqImpl.bflag 0 message.body) = some _ := rfl
          obtain ⟨call, undefined⟩ := ReqImpl.exists_undefined closed
          exact absurd (by simp [ReqImpl.SendPack.bret, undefined]) (carries 0 call .init rfl).1
    refine ⟨kept, ?_⟩
    by_cases empty : message.body = []
    · obtain ⟨call, ended⟩ := ReqImpl.exists_finished keeps (some (ReqImpl.bflag 0 message.body))
      have sent : ReqImpl.SendPack.bret call = some true := by
        have accepted := (ReqImpl.bflag_zero message.body).mpr empty
        simp [ReqImpl.SendPack.bret, ended, ReqImpl.Ending.ofResult, accepted]
      have received := (carries 0 call .init rfl).2 sent fun _ => rfl
      simp only [AsynRepImpl.recvPack, ne_eq, not_true, decide_false, Bool.and_false,
        Bool.false_eq_true, if_false] at received
      injection received with no
      exact .inl no.symm
    · exact .inr empty
  · rintro ⟨rfl, carried⟩ nnop call status rfl
    rw [call.bret_eq, if_pos (.inl rfl)]
    refine ⟨by simp, ?_⟩
    intro sent ready
    have empty := (ReqImpl.bflag_zero _).mp (Option.some.inj sent)
    have zero : message.no = 0 := carried.resolve_right fun some => some empty
    rw [zero]
    cases assertions with
    | false => rfl
    | true =>
        rw [ready rfl]
        rfl

/-- A reply whose closure is kept carries the empty message with number zero, where no assertion is
evaluated. -/
theorem replyCarries_iff (documented : NngRecvDocumented nngRecv) :
    ReplyCarries keeps assertions nngRecv message ↔
      keeps = true ∧ assertions = false ∧ message.no = 0 ∧ message.body = [] := by
  rw [← ReqImpl.received_iff documented]
  constructor
  · intro carries
    refine carries ⟨0, 0, true, 0⟩ .wait .wait (by decide) ?_
    simp [AsynRepImpl.sendPack]
  · intro received outcome status next _ _
    exact received

/-- `nng_recv`, which leaves the length of the message as the size. -/
def nngRecvWhole (_ : Nat) (message : Bytes) : Int32 × Nat := (0, message.length)

end SM.Network
