import SM.Network.TcpReceive

/-!
# Failed sends on a TCP channel

Calls of `sendPack` on one channel, one after the other, against what the peer's
`recvPack` makes of the bytes they wrote. A call is `Intact` when its message can
be logged and its writes put either a whole frame or nothing on the stream. Intact
calls keep the stream readable (`faithful_of_intact`); after any other call there is
a send which the peer does not receive (`unfaithful_after_cut`).
-/

namespace SM.Network

open SM.Lib SM.Utils TcpChannelImpl

/-- One call of `sendPack` with the outcomes of its two writes. Each of the two loops runs
once, since its counter is not reset on progress. -/
structure SendCall where
  message : NMessage
  head : WriteOutcome
  body : WriteOutcome

/-- How many of the offered bytes a write takes. -/
def WriteOutcome.writes (size : Nat) : WriteOutcome → Nat
  | .sent count => min count size
  | .failed => 0

namespace SendCall

/-- The bytes a call writes and the flag it returns. -/
def outcome (call : SendCall) : Bytes × Option Bool :=
  (sendPack call.message).finish [call.head, call.body]

def written (call : SendCall) : Bytes := call.outcome.1

def succeeded (call : SendCall) : Bool := call.outcome.2 == some true

/-- The writes put a whole frame, which the peer can represent, or nothing on the stream. -/
def WholeOrNothing (call : SendCall) : Prop :=
  call.head.writes 8 = 0 ∨
    call.head.writes 8 = 8 ∧ call.body.writes call.message.body.length = call.message.body.length ∧
      call.message.body.length < maxBody

instance (call : SendCall) : Decidable call.WholeOrNothing := inferInstanceAs (Decidable (_ ∨ _))

/-- The message has the eight bytes behind which the log begins, and its frame is written whole or
not at all. -/
def Intact (call : SendCall) : Prop := Loggable call.message ∧ call.WholeOrNothing

instance (call : SendCall) : Decidable call.Intact := inferInstanceAs (Decidable (_ ∧ _))

/-- The result of a call that has written the whole head. A swallowed exception in the body
loop still adds the eight bytes of the head to `hadsend`. -/
def bodyResult (call : SendCall) : Bool :=
  match call.body with
  | .sent _ => call.body.writes call.message.body.length == call.message.body.length
  | .failed => call.message.body.length == 0 || call.message.body.length == 8

end SendCall

/-- What every call does is defined. Every message the peer returns was passed to a call, in sending
order and at most once, and every call which returned true is delivered. -/
def FaithfulSends (calls : List SendCall) : Prop :=
  (∀ call ∈ calls, sendPack call.message ≠ .undefined) ∧
    ∀ returned, PeerReturns (calls.flatMap SendCall.written) returned →
      ((calls.filter SendCall.succeeded).map SendCall.message).Sublist returned ∧
        returned.Sublist (calls.map SendCall.message)

/-! ## What one call writes -/

namespace SendCall

variable {call : SendCall}

/-- `strhead`. -/
def strhead (call : SendCall) : Bytes :=
  (StreamNetDealer.pack call.message.no call.message.body.length).2

/-- A head has eight bytes. -/
@[simp] theorem length_strhead : call.strhead.length = 8 := length_pack _ _

/-- A call starts in the first loop, when its message can be logged. -/
theorem outcome_of_loggable (loggable : Loggable call.message) :
    call.outcome =
      (SendStatus.sending ⟨call.message, false, 1, 0, 0⟩).finish [call.head, call.body] := by
  rw [outcome, sendPack_of_loggable loggable]

/-- A head which is cut off is the end of the call. -/
theorem outcome_of_head_short (loggable : Loggable call.message) (cut : call.head.writes 8 < 8) :
    call.outcome = (call.strhead.take (call.head.writes 8), some false) := by
  rw [outcome_of_loggable loggable]
  cases head : call.head with
  | failed =>
      simp [SendPack.headLoop, SendStatus.finish, SendPack.resume, retryCount,
        StreamNetDealer.headLen, WriteOutcome.writes]
  | sent count =>
      simp only [head, WriteOutcome.writes] at cut
      have short : count < 8 := by omega
      have taken : min count 8 = count := by omega
      by_cases none : count = 0
      · simp [SendPack.headLoop, SendStatus.finish, SendPack.resume, retryCount,
          StreamNetDealer.headLen, WriteOutcome.writes, none]
      · have positive : 0 < count := by omega
        simp [SendPack.headLoop, SendStatus.finish, SendPack.resume, retryCount,
          StreamNetDealer.headLen, WriteOutcome.writes, SendPack.buffer, SendPack.strhead,
          strhead, taken, positive, show count ≠ 8 by omega]

/-- The state in which the body loop starts: `len` still counts the head. -/
def bodyStart (message : NMessage) : SendPack := ⟨message, true, 0, 8, 0⟩

/-- Behind the head the body is written as far as its outcomes go. -/
theorem finish_bodyStart (call : SendCall) :
    (bodyStart call.message).bodyLoop.finish [call.body] =
      (call.message.body.take (call.body.writes call.message.body.length),
        some call.bodyResult) := by
  by_cases empty : call.message.body = []
  · cases body : call.body <;>
      simp [SendPack.bodyLoop, bodyStart, SendStatus.finish, retryCount, empty, bodyResult, body,
        WriteOutcome.writes]
  · have nonempty : 0 < call.message.body.length := List.length_pos_iff.mpr empty
    cases body : call.body with
    | failed =>
        simp [SendPack.bodyLoop, bodyStart, SendStatus.finish, SendPack.resume, retryCount,
          nonempty, bodyResult, body, WriteOutcome.writes]
        rw [Bool.eq_iff_iff, Bool.or_eq_true, beq_iff_eq, beq_iff_eq, beq_iff_eq]
        omega
    | sent count =>
        have suspended : (bodyStart call.message).bodyLoop =
            .sending ⟨call.message, true, 1, 8, 0⟩ := by
          simp [SendPack.bodyLoop, bodyStart, retryCount, nonempty]
        have hadsend : (if 0 < (call.message.body.take count).length then
            0 + (call.message.body.take count).length else 0) =
            min count call.message.body.length := by
          rw [List.length_take]
          split <;> omega
        have resumed : SendPack.resume ⟨call.message, true, 1, 8, 0⟩ (.sent count) =
            (call.message.body.take count, .returned
              (min count call.message.body.length == call.message.body.length)) := by
          simp only [SendPack.resume, SendPack.buffer, if_true, List.drop_zero, hadsend]
          rfl
        rw [suspended, SendStatus.finish, resumed]
        simp [SendStatus.finish, bodyResult, body, WriteOutcome.writes]

/-- Behind a whole head the body is written as far as its outcomes go. -/
theorem outcome_of_head_full (loggable : Loggable call.message) (full : call.head.writes 8 = 8) :
    call.outcome = (call.strhead ++
      call.message.body.take (call.body.writes call.message.body.length), some call.bodyResult) := by
  rw [outcome_of_loggable loggable]
  cases head : call.head with
  | failed => simp [head, WriteOutcome.writes] at full
  | sent count =>
      simp only [head, WriteOutcome.writes] at full
      have all : 8 ≤ count := by omega
      have taken : call.strhead.take count = call.strhead := List.take_of_length_le (by simpa)
      have headed : (SendStatus.sending ⟨call.message, false, 1, 0, 0⟩).finish
          [.sent count, call.body] =
          (call.strhead ++ ((bodyStart call.message).bodyLoop.finish [call.body]).1,
            ((bodyStart call.message).bodyLoop.finish [call.body]).2) := by
        simp [SendPack.headLoop, SendStatus.finish, SendPack.resume, retryCount,
          StreamNetDealer.headLen, SendPack.buffer, SendPack.strhead, bodyStart, full]
        exact taken
      rw [headed, finish_bodyStart]

/-- An intact call writes its frame and returns true, or writes nothing and returns false. -/
theorem outcome_of_intact (intact : call.Intact) :
    call.outcome = ([], some false) ∨
      call.message.body.length < maxBody ∧
        call.outcome = (encodeMessage call.message, some true) := by
  obtain ⟨loggable, nothing | ⟨head, body, short⟩⟩ := intact
  · left
    simp [outcome_of_head_short loggable (show call.head.writes 8 < 8 by omega), nothing]
  · right
    refine ⟨short, ?_⟩
    have flag : call.bodyResult = true := by
      cases outcome : call.body with
      | sent count =>
          simp only [bodyResult, outcome, beq_iff_eq]
          rw [← outcome, body]
      | failed =>
          simp only [outcome, WriteOutcome.writes] at body
          simp [bodyResult, outcome, List.length_eq_zero_iff.mp body.symm]
    rw [outcome_of_head_full loggable head, body, List.take_length, flag]
    rfl

/-- Any other writes leave a proper part of the frame on the stream, or a whole frame which no
receiver can represent. -/
theorem written_of_broken (loggable : Loggable call.message) (broken : ¬ call.WholeOrNothing) :
    0 < call.written.length ∧ call.written <+: encodeMessage call.message ∧
      (call.written.length < 8 + call.message.body.length ∨
        maxBody ≤ call.message.body.length) := by
  have headBound : call.head.writes 8 ≤ 8 := by
    cases call.head <;> simp only [WriteOutcome.writes] <;> omega
  have bodyBound : call.body.writes call.message.body.length ≤ call.message.body.length := by
    cases call.body <;> simp only [WriteOutcome.writes] <;> omega
  simp only [WholeOrNothing, not_or, not_and] at broken
  obtain ⟨some, partly⟩ := broken
  by_cases head : call.head.writes 8 = 8
  · simp only [written, outcome_of_head_full loggable head]
    refine ⟨?_, ?_, ?_⟩
    · simp only [List.length_append, length_strhead]
      omega
    · exact (List.prefix_append_right_inj _).mpr (List.take_prefix _ _)
    · have cut := partly head
      simp only [List.length_append, length_strhead, List.length_take]
      omega
  · simp only [written, outcome_of_head_short loggable (show call.head.writes 8 < 8 by omega)]
    refine ⟨?_, ?_, ?_⟩
    · simp only [List.length_take, length_strhead]
      omega
    · exact (List.take_prefix _ _).trans (List.prefix_append _ _)
    · simp only [List.length_take, length_strhead]
      omega

end SendCall

/-! ## Intact calls -/

/-- The messages whose frames a list of calls has written. -/
def sentMessages (calls : List SendCall) : List NMessage :=
  (calls.filter SendCall.succeeded).map SendCall.message

/-- Calls which are intact write the frames of their messages. -/
theorem written_of_intact {calls : List SendCall} (intact : ∀ call ∈ calls, call.Intact) :
    calls.flatMap SendCall.written = streamFraming.encodeAll (sentMessages calls) ∧
      ∀ message ∈ sentMessages calls, message.body.length < maxBody := by
  induction calls with
  | nil => exact ⟨rfl, by simp [sentMessages]⟩
  | cons call calls inductionHypothesis =>
      obtain ⟨writtenEq, short⟩ :=
        inductionHypothesis fun other member => intact other (List.mem_cons_of_mem _ member)
      rw [List.flatMap_cons, writtenEq]
      rcases SendCall.outcome_of_intact (intact call List.mem_cons_self) with
        none | ⟨bound, whole⟩
      · have failed : sentMessages (call :: calls) = sentMessages calls := by
          simp [sentMessages, SendCall.succeeded, none]
        rw [failed]
        exact ⟨by simp [SendCall.written, none], short⟩
      · have sent : sentMessages (call :: calls) = call.message :: sentMessages calls := by
          simp [sentMessages, SendCall.succeeded, whole]
        rw [sent]
        refine ⟨by simp [SendCall.written, whole]; rfl, ?_⟩
        intro message member
        rcases List.mem_cons.mp member with rfl | member
        · exact bound
        · exact short message member

/-- Calls which are intact are received as they were sent. -/
theorem faithful_of_intact {calls : List SendCall} (intact : ∀ call ∈ calls, call.Intact) :
    FaithfulSends calls := by
  obtain ⟨writtenEq, short⟩ := written_of_intact intact
  refine ⟨fun call member => sendPack_ne_undefined_iff.mpr (intact call member).1, ?_⟩
  intro returned returns
  rw [peerReturns_iff, writtenEq, streamFraming.frames_encodeAll short] at returns
  subst returns
  exact ⟨List.Sublist.refl _, (List.filter_sublist).map _⟩

/-! ## A call that is not intact -/

/-- A later call whose frame starts with neither the head of the broken frame nor a part
of itself. -/
def followUp (bad : SendCall) : SendCall where
  message := ⟨if bad.message.no = 0x01020304 then 0x05060708 else 0x01020304,
    List.replicate 8 0⟩
  head := .sent 8
  body := .sent 8

/-- The call behind a bad one is intact. -/
theorem followUp_intact (bad : SendCall) : (followUp bad).Intact := by
  refine ⟨by simp [followUp, Loggable, logOffset], .inr ⟨rfl, rfl, ?_⟩⟩
  simp [followUp, maxBody]

/-- The call behind a bad one has another number. -/
theorem followUp_no (bad : SendCall) : (followUp bad).message.no ≠ bad.message.no := by
  simp only [followUp]
  split
  · rename_i same
    rw [same]
    decide
  · rename_i other
    exact fun same => other same.symm

/-- The frame of the follow-up call has no period of less than eight bytes. -/
theorem followUp_aperiodic (bad : SendCall) {part after : Bytes} (nonempty : 0 < part.length)
    (small : part.length < 8) :
    part ++ encodeMessage (followUp bad).message ≠
      encodeMessage (followUp bad).message ++ after := by
  intro same
  have noShift : ∀ count < 8, 0 < count →
      (encodeMessage (followUp bad).message).drop count ≠
        (encodeMessage (followUp bad).message).take (16 - count) := by
    simp only [followUp]
    split <;> decide
  apply noShift part.length small nonempty
  have size : (encodeMessage (followUp bad).message).length = 16 := by simp [followUp]
  have shifted := congrArg (List.drop part.length) same
  rw [List.drop_left, List.drop_append_of_le_length (by omega)] at shifted
  calc (encodeMessage (followUp bad).message).drop part.length
      = ((encodeMessage (followUp bad).message).drop part.length ++ after).take
          (16 - part.length) := (List.take_left' (by rw [List.length_drop, size])).symm
    _ = (encodeMessage (followUp bad).message).take (16 - part.length) := by rw [← shifted]

/-- After writes which break a frame, the frame of the follow-up call is not received. -/
theorem followUp_not_received {bad : SendCall} (loggable : Loggable bad.message)
    (broken : ¬ bad.WholeOrNothing) (representable : bad.message.body.length < 2 ^ 32) :
    (followUp bad).message ∉
      streamFraming.frames (bad.written ++ encodeMessage (followUp bad).message) := by
  intro received
  obtain ⟨before, after, split, valid⟩ := streamFraming.mem_frames_decompose received
  obtain ⟨nonempty, ⟨rest, whole⟩, cut⟩ := SendCall.written_of_broken loggable broken
  have total : bad.written.length = (streamFraming.encodeAll before).length + after.length := by
    have lengths := congrArg List.length split
    simp only [List.length_append, show streamFraming.encode = encodeMessage from rfl] at lengths
    omega
  have beforeSize {message : NMessage} {later : List NMessage} (cons : before = message :: later) :
      8 + message.body.length ≤ bad.written.length := by
    subst cons
    simp only [Framing.encodeAll_cons, List.length_append,
      show streamFraming.encode = encodeMessage from rfl, length_encodeMessage] at total
    omega
  by_cases small : bad.written.length < 8
  · cases before with
    | nil => exact followUp_aperiodic bad nonempty small split
    | cons message later =>
        have size := beforeSize rfl
        omega
  · -- The head of the broken frame is whole, so the receiver starts with it.
    have head : (bad.written ++ encodeMessage (followUp bad).message).take 8 = bad.strhead := by
      have prefixes := congrArg (List.take 8) whole
      rw [List.take_append_of_le_length (by omega)] at prefixes ⊢
      rw [prefixes, encodeMessage, List.take_left' (length_pack _ _)]
      rfl
    rw [split] at head
    cases before with
    | nil =>
        rw [Framing.encodeAll_nil, List.nil_append,
          show streamFraming.encode = encodeMessage from rfl, encodeMessage, List.append_assoc,
          List.take_left' (length_pack _ _)] at head
        exact followUp_no bad (pack_inj head).1
    | cons message later =>
        have size := beforeSize rfl
        have bound : message.body.length < maxBody := valid message List.mem_cons_self
        rw [Framing.encodeAll_cons, show streamFraming.encode = encodeMessage from rfl,
          encodeMessage, List.append_assoc, List.append_assoc,
          List.take_left' (length_pack _ _)] at head
        have lens := congrArg UInt32.toNat (pack_inj head).2
        simp only [UInt32.toNat_ofNat'] at lens
        simp only [maxBody] at bound cut
        omega

/-- Whatever was sent intact before, a call which is not intact is undefined, or is followed by a
call which returns true and is not delivered. -/
theorem unfaithful_after_cut {calls : List SendCall} {bad : SendCall}
    (intact : ∀ call ∈ calls, call.Intact) (broken : ¬ bad.Intact)
    (representable : bad.message.body.length < 2 ^ 32) :
    ¬ FaithfulSends (calls ++ [bad, followUp bad]) := by
  rintro ⟨defined, faithful⟩
  have loggable : Loggable bad.message :=
    sendPack_ne_undefined_iff.mp (defined bad (by simp))
  have cut : ¬ bad.WholeOrNothing := fun kept => broken ⟨loggable, kept⟩
  obtain ⟨writtenEq, short⟩ := written_of_intact intact
  have followEq : (followUp bad).outcome = (encodeMessage (followUp bad).message, some true) := by
    rcases SendCall.outcome_of_intact (followUp_intact bad) with none | ⟨_, whole⟩
    · rw [SendCall.outcome_of_head_full (followUp_intact bad).1 rfl] at none
      have sizes := congrArg (fun outcome => outcome.1.length) none
      simp at sizes
    · exact whole
  have stream : (calls ++ [bad, followUp bad]).flatMap SendCall.written =
      streamFraming.encodeAll (sentMessages calls) ++
        (bad.written ++ encodeMessage (followUp bad).message) := by
    simp [List.flatMap_append, writtenEq, SendCall.written, followEq]
  have delivered := (faithful _ (peerReturns_iff.mpr rfl)).1
  rw [stream, streamFraming.frames_encodeAll_append short] at delivered
  have split : sentMessages (calls ++ [bad, followUp bad]) =
      sentMessages calls ++ (sentMessages [bad] ++ [(followUp bad).message]) := by
    have sent : (followUp bad).succeeded = true := by simp [SendCall.succeeded, followEq]
    by_cases returned : bad.succeeded <;>
      simp [sentMessages, List.filter_append, returned, sent]
  rw [← sentMessages, split, List.append_sublist_append_left] at delivered
  exact followUp_not_received loggable cut representable (delivered.subset (by simp))

/-- Every message can be logged, and the writes of its call put a whole frame or nothing on the
stream: then the peer returns what the successful calls sent. A call whose message is shorter is
undefined, and one which leaves anything else on the stream breaks it for a call after it. -/
theorem sendPack_faithful (calls : List SendCall) (intact : ∀ call ∈ calls, call.Intact) :
    FaithfulSends calls ∧
      ∀ bad : SendCall, ¬ bad.Intact → bad.message.body.length < 2 ^ 32 →
        ∃ follow : SendCall, follow.Intact ∧ ¬ FaithfulSends (calls ++ [bad, follow]) := by
  refine ⟨faithful_of_intact intact, ?_⟩
  intro bad broken representable
  exact ⟨followUp bad, followUp_intact bad, unfaithful_after_cut intact broken representable⟩

/-- A whole frame, and after it a head of which four bytes were written. -/
theorem sendPack_faithful_cut_head :
    FaithfulSends [⟨⟨1, List.replicate 8 7⟩, .sent 8, .sent 8⟩] ∧
      ∃ follow : SendCall, follow.Intact ∧
        ¬ FaithfulSends ([⟨⟨1, List.replicate 8 7⟩, .sent 8, .sent 8⟩] ++
          [⟨⟨2, List.replicate 8 7⟩, .sent 4, .failed⟩, follow]) := by
  have both := sendPack_faithful [⟨⟨1, List.replicate 8 7⟩, .sent 8, .sent 8⟩] (by decide)
  exact ⟨both.1, both.2 ⟨⟨2, List.replicate 8 7⟩, .sent 4, .failed⟩ (by decide) (by decide)⟩

/-- An exception in the body write of an eight-byte body still returns true, and nothing is
delivered. A head cut after four bytes makes the peer return a message that was never sent. A body
of one byte is sliced behind its end. -/
theorem sendPack_unfaithful :
    ¬ FaithfulSends [⟨⟨1, List.replicate 8 7⟩, .sent 8, .failed⟩] ∧
      ¬ FaithfulSends
        [⟨⟨1, List.replicate 8 0⟩, .sent 4, .failed⟩, ⟨⟨2, List.replicate 8 0⟩, .sent 8, .sent 8⟩] ∧
      ¬ FaithfulSends [⟨⟨1, [65]⟩, .sent 8, .sent 1⟩] := by
  refine ⟨?_, ?_, ?_⟩
  · rintro ⟨_, faithful⟩
    have delivered := (faithful _ (peerReturns_iff.mpr rfl)).1
    revert delivered
    decide
  · rintro ⟨_, faithful⟩
    have returned := (faithful _ (peerReturns_iff.mpr rfl)).2
    revert returned
    decide
  · rintro ⟨defined, _⟩
    exact defined _ List.mem_cons_self rfl

end SM.Network
