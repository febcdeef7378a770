import SM.Network.TcpReceive

/-!
# Ranges of lengths and iterators

Which lengths in a net head `recvPack` can handle, and which messages `sendPack` can log.
`HeadLen() + Len()` is a sum of two `int` values, which is compared with a `size_t`, added to an
iterator, and taken for the length of a string. `inRange_iff` says when all of that fits.
-/

namespace SM.Network

open SM.Utils

/-- An iterator or a slice of a string can begin at `offset`. -/
def InString (offset : Int) (s : Bytes) : Prop := 0 ≤ offset ∧ offset ≤ s.length

instance (offset : Int) (s : Bytes) : Decidable (InString offset s) :=
  inferInstanceAs (Decidable (_ ∧ _))

namespace TcpChannelImpl

/-- The head which a call unpacks, with the value of `len` and what is left of the reads. -/
def unpackedHead (netpack : StreamNetDealer) (channel : TcpChannelImpl)
    (reads : List ReadOutcome) :
    Option (StreamNetDealer × Nat × TcpChannelImpl × List ReadOutcome) :=
  match readLoop StreamNetDealer.headLen 0 0 { channel with bRecvMsg := [] } reads with
  | none => none
  | some (len, channel, reads) =>
      if StreamNetDealer.headLen ≤ channel.bRecv.length then
        match netpack.unpack channel.bRecv with
        | (false, _) => none
        | (true, netpack) => some (netpack, len, channel, reads)
      else none

/-- The buffer from which a frame is cut, when the second loop leaves enough in it. -/
def framedBuffer (netpack : StreamNetDealer) (len : Nat) (channel : TcpChannelImpl)
    (reads : List ReadOutcome) : Option (TcpChannelImpl × List ReadOutcome) :=
  match readLoop netpack.frameLen 0 len channel reads with
  | none => none
  | some (_, channel, reads) =>
      if Short channel.bRecv netpack.frameLen then none else some (channel, reads)

variable {netpack head : StreamNetDealer} {len : Nat} {channel next framed : TcpChannelImpl}
  {reads rest rest' : List ReadOutcome}

/-- A call with a head and enough behind it comes to the cut. -/
theorem recvPack_of_framed (unpacked : unpackedHead netpack channel reads =
      some (head, len, next, rest))
    (enough : framedBuffer head len next rest = some (framed, rest')) :
    recvPack netpack channel reads = splitFrame head framed rest' := by
  unfold unpackedHead at unpacked
  unfold framedBuffer at enough
  unfold recvPack
  cases found : readLoop StreamNetDealer.headLen 0 0 { channel with bRecvMsg := [] } reads with
  | none =>
      rw [found] at unpacked
      cases unpacked
  | some first =>
      obtain ⟨count, buffered, left⟩ := first
      rw [found] at unpacked
      dsimp only at unpacked ⊢
      by_cases whole : StreamNetDealer.headLen ≤ buffered.bRecv.length
      · rw [if_pos whole] at unpacked ⊢
        obtain ⟨bret, opened, same⟩ :
            ∃ bret opened, netpack.unpack buffered.bRecv = (bret, opened) := ⟨_, _, rfl⟩
        rw [same] at unpacked ⊢
        cases bret with
        | false => cases unpacked
        | true =>
            cases unpacked
            dsimp only
            cases filled : readLoop head.frameLen 0 len next rest with
            | none =>
                rw [filled] at enough
                cases enough
            | some second =>
                rw [filled] at enough
                dsimp only at enough ⊢
                split at enough
                · cases enough
                · next long =>
                    cases enough
                    rw [if_neg long]
      · rw [if_neg whole] at unpacked
        cases unpacked

/-- There are eight bytes behind an unpacked head. -/
theorem length_of_unpackedHead
    (unpacked : unpackedHead netpack channel reads = some (head, len, next, rest)) :
    8 ≤ next.bRecv.length := by
  unfold unpackedHead at unpacked
  split at unpacked
  · cases unpacked
  · split at unpacked
    · next whole =>
        split at unpacked
        · cases unpacked
        · cases unpacked
          exact whole
    · cases unpacked

/-- Everything that `recvPack` computes from `HeadLen() + Len()` is in range. -/
structure RecvInRange (netpack : StreamNetDealer) (channel : TcpChannelImpl)
    (reads : List ReadOutcome) : Prop where
  /-- The sum is an `int`. -/
  sum : ∀ head len next rest, unpackedHead netpack channel reads = some (head, len, next, rest) →
    -2 ^ 31 ≤ StreamNetDealer.headLen + head.lenInt ∧
      StreamNetDealer.headLen + head.lenInt < 2 ^ 31
  /-- `_bRecv->begin() + HeadLen() + Len()` -/
  frame : ∀ head len next rest framed rest',
    unpackedHead netpack channel reads = some (head, len, next, rest) →
    framedBuffer head len next rest = some (framed, rest') →
    InString head.frameLen framed.bRecv
  /-- `_bRecvMsg->data() + HeadLen()` and `_bRecvMsg->length() - HeadLen()` -/
  body : ∀ head len next rest framed rest',
    unpackedHead netpack channel reads = some (head, len, next, rest) →
    framedBuffer head len next rest = some (framed, rest') →
    InString StreamNetDealer.headLen (framed.bRecv.take head.frameLen.toNat)
  /-- A message has the length that stands in its head. -/
  message : ∀ head len next rest framed rest' message channel' reads',
    unpackedHead netpack channel reads = some (head, len, next, rest) →
    framedBuffer head len next rest = some (framed, rest') →
    recvPack netpack channel reads = .returned message channel' reads' →
    message.body.length = head.len.toNat

/-- The lengths for which the sum fits, and is negative or holds the head. -/
def FrameFits (len : UInt32) : Prop :=
  len.toNat < maxBody ∨ 2 ^ 31 ≤ len.toNat ∧ len.toNat < 2 ^ 32 - 8

/-- The length of a frame fits into an int exactly for a short body, or for one whose length is
negative. -/
theorem sum_fits_iff : (-2 ^ 31 ≤ (StreamNetDealer.headLen : Int) + head.lenInt ∧
      (StreamNetDealer.headLen : Int) + head.lenInt < 2 ^ 31) ↔
    head.len.toNat < maxBody ∨ 2 ^ 31 ≤ head.len.toNat := by
  have bound := head.len.toNat_lt
  simp only [StreamNetDealer.headLen, StreamNetDealer.lenInt, intOfBits, maxBody]
  split <;> omega

/-- With the sign bit set the sum is exact, and is negative until the last eight lengths. -/
theorem frameLen_of_signed (signed : 2 ^ 31 ≤ head.len.toNat) :
    head.frameLen = head.len.toNat - 2 ^ 32 + 8 := by
  have bound := head.len.toNat_lt
  simp only [StreamNetDealer.frameLen, StreamNetDealer.lenInt, StreamNetDealer.headLen, intAdd,
    intOfBits, Int.bmod_def]
  split <;> split <;> omega

/-- A buffer which has the frame has all that is read of it. -/
theorem inString_of_framed (enough : framedBuffer head len next rest = some (framed, rest')) :
    InString head.frameLen framed.bRecv := by
  unfold framedBuffer at enough
  split at enough
  · cases enough
  · split at enough
    · cases enough
    · next long =>
        cases enough
        simp only [Short, not_or, Int.not_lt] at long
        exact long

/-- A head that is there already is cut off when the sum is no longer than it. -/
theorem framedBuffer_of_wrapped (whole : 8 ≤ next.bRecv.length) (low : 0 ≤ head.frameLen)
    (high : head.frameLen < 8) : framedBuffer head len next rest = some (next, rest) := by
  have long : ¬ Short next.bRecv head.frameLen := by
    simp only [Short, not_or, Int.not_lt]
    omega
  unfold framedBuffer
  cases rest <;> simp only [readLoop, long, and_false, if_false]

/-- A frame is cut off for a length that fits only when it is below `maxBody`. -/
theorem frameLen_of_framed (fits : FrameFits head.len)
    (enough : framedBuffer head len next rest = some (framed, rest')) :
    head.frameLen = 8 + head.len.toNat := by
  rcases fits with small | ⟨signed, low⟩
  · exact frameLen_of_small head small
  · have frameLen := frameLen_of_signed signed
    have positive := (inString_of_framed enough).1
    omega

/-- A receive stays in range exactly when the length in the head fits. -/
theorem recvInRange_iff :
    RecvInRange netpack channel reads ↔
      ∀ head len next rest, unpackedHead netpack channel reads = some (head, len, next, rest) →
        FrameFits head.len := by
  constructor
  · intro range head len next rest unpacked
    rcases sum_fits_iff.mp (range.sum head len next rest unpacked) with small | signed
    · exact Or.inl small
    · refine Or.inr ⟨signed, ?_⟩
      -- For the last eight lengths a frame is cut off which does not hold its head.
      have frameLen := frameLen_of_signed signed
      refine Nat.lt_of_not_le fun last => ?_
      have bound := head.len.toNat_lt
      have cut := range.body head len next rest next rest unpacked
        (framedBuffer_of_wrapped (length_of_unpackedHead unpacked) (by omega) (by omega))
      rw [InString, List.length_take, StreamNetDealer.headLen] at cut
      omega
  · intro fits
    refine ⟨?_, fun _ _ _ _ _ _ _ enough => inString_of_framed enough, ?_, ?_⟩
    · intro head len next rest unpacked
      exact sum_fits_iff.mpr ((fits head len next rest unpacked).imp_right And.left)
    · intro head len next rest framed rest' unpacked enough
      have frameLen := frameLen_of_framed (fits head len next rest unpacked) enough
      have inside := (inString_of_framed enough).2
      rw [InString, List.length_take, StreamNetDealer.headLen]
      omega
    · intro head len next rest framed rest' message channel' reads' unpacked enough returned
      have frameLen := frameLen_of_framed (fits head len next rest unpacked) enough
      have inside := (inString_of_framed enough).2
      rw [recvPack_of_framed unpacked enough, splitFrame] at returned
      split at returned
      · cases returned
      · cases returned
        rw [List.length_drop, List.length_take, StreamNetDealer.headLen]
        omega

/-! ## Incoming bytes -/

/-- What the reads append to `_bRecv`, after `last` was appended. A read which fails appends `last`
once more, and the loop ends at a read without bytes. -/
def appended (last : Bytes) : List ReadOutcome → Bytes
  | [] => []
  | .bytes data _ :: reads => if data = [] then [] else data ++ appended data reads
  | .failed :: reads => if last = [] then [] else last ++ appended last reads

/-- The bytes of which the first eight are the head. -/
def incoming (channel : TcpChannelImpl) (reads : List ReadOutcome) : Bytes :=
  channel.bRecv ++ appended [] reads

/-- The first loop stops at the eighth incoming byte or behind the last one. -/
structure HeadLoopSpec (incoming : Bytes) (next : TcpChannelImpl) : Prop where
  before : next.bRecv <+: incoming
  all : next.bRecv.length < 8 → next.bRecv = incoming

/-- One read appends what `appended` says: `taken`, which is then in `_recvasio`. -/
theorem readLoop_cons {last taken : Bytes} {read : ReadOutcome}
    (reading : channel.readSome last.length read = (taken.length, next))
    (short : channel.bRecv.length < 8) :
    readLoop StreamNetDealer.headLen 0 last.length channel (read :: reads) =
      if taken = [] then some (0, next, reads)
      else
        readLoop StreamNetDealer.headLen 0 taken.length (next.appendRead taken.length) reads := by
  have waiting : 0 + 1 < retryCount ∧ Short channel.bRecv StreamNetDealer.headLen :=
    ⟨by decide, (short_headLen_iff channel.bRecv).mpr short⟩
  simp only [readLoop, if_pos waiting, reading, List.length_pos_iff]
  by_cases nothing : taken = []
  · subst nothing
    cases reads <;> simp [readLoop, retryCount]
  · rw [if_pos nothing, if_neg nothing]

/-- The loop of the head keeps the bytes which come, and all of them while the head is short. -/
theorem headLoop_spec {last : Bytes} (kept : channel.recvasio.take last.length = last) :
    match readLoop StreamNetDealer.headLen 0 last.length channel reads with
    | none => (channel.bRecv ++ appended last reads).length < 8
    | some (_, next, _) => HeadLoopSpec (channel.bRecv ++ appended last reads) next := by
  induction reads generalizing channel last with
  | nil =>
      simp only [readLoop, short_headLen_iff, appended, List.append_nil]
      split
      · next found =>
          split at found
          · next waiting => exact waiting.2
          · cases found
      · next found =>
          split at found
          · cases found
          · cases found
            exact ⟨List.prefix_refl _, fun _ => rfl⟩
  | cons read reads inductionHypothesis =>
      by_cases short : channel.bRecv.length < 8
      · obtain ⟨taken, next, reading, sameBuffer, kept', sameAppended⟩ :
            ∃ taken next, channel.readSome last.length read = (taken.length, next) ∧
              next.bRecv = channel.bRecv ∧ next.recvasio.take taken.length = taken ∧
              appended last (read :: reads) =
                if taken = [] then [] else taken ++ appended taken reads := by
          cases read with
          | bytes data fits => exact ⟨data, _, rfl, rfl, by simp, rfl⟩
          | failed => exact ⟨last, _, rfl, rfl, kept, rfl⟩
        rw [readLoop_cons reading short, sameAppended]
        by_cases nothing : taken = []
        · rw [if_pos nothing, if_pos nothing, List.append_nil, ← sameBuffer]
          exact ⟨List.prefix_refl _, fun _ => rfl⟩
        · rw [if_neg nothing, if_neg nothing, ← List.append_assoc]
          have grown : (next.appendRead taken.length).bRecv = channel.bRecv ++ taken := by
            rw [appendRead, kept', sameBuffer]
          rw [← grown]
          exact inductionHypothesis kept'
      · have done : readLoop StreamNetDealer.headLen 0 last.length channel (read :: reads) =
            some (last.length, channel, read :: reads) := by
          rw [readLoop, if_neg fun waiting => short ((short_headLen_iff _).mp waiting.2)]
        rw [done]
        exact ⟨List.prefix_append _ _, fun shorter => absurd shorter short⟩

/-- A head is unpacked when there are eight incoming bytes, and its length is in the first four. -/
theorem forall_unpackedHead_iff {P : UInt32 → Prop} :
    (∀ head len next rest, unpackedHead netpack channel reads = some (head, len, next, rest) →
      P head.len) ↔
    (8 ≤ (incoming channel reads).length → P (ntohl ((incoming channel reads).take 4))) := by
  have spec : match readLoop StreamNetDealer.headLen 0 0 { channel with bRecvMsg := [] } reads with
      | none => (incoming channel reads).length < 8
      | some (_, next, _) => HeadLoopSpec (incoming channel reads) next :=
    @headLoop_spec { channel with bRecvMsg := [] } reads [] rfl
  unfold unpackedHead
  cases found : readLoop StreamNetDealer.headLen 0 0 { channel with bRecvMsg := [] } reads with
  | none =>
      rw [found] at spec
      exact ⟨fun _ enough => absurd enough (Nat.not_le_of_lt spec),
        fun _ _ _ _ _ unpacked => by cases unpacked⟩
  | some ended =>
      obtain ⟨count, buffered, left⟩ := ended
      rw [found] at spec
      obtain ⟨before, all⟩ := spec
      dsimp only
      by_cases whole : StreamNetDealer.headLen ≤ buffered.bRecv.length
      · have first : (incoming channel reads).take 4 = buffered.bRecv.take 4 := by
          obtain ⟨behind, joined⟩ := before
          rw [← joined, List.take_append_of_le_length (Nat.le_trans (by decide) whole)]
        have enough : 8 ≤ (incoming channel reads).length := Nat.le_trans whole before.length_le
        rw [if_pos whole, unpack_of_length netpack whole, first]
        constructor
        · exact fun every _ => every _ _ _ _ rfl
        · intro fits head len next rest unpacked
          cases unpacked
          exact fits enough
      · rw [if_neg whole]
        have none : ¬ 8 ≤ (incoming channel reads).length := by
          rw [← all (Nat.lt_of_not_le whole)]
          exact whole
        exact ⟨fun _ enough => absurd enough none, fun _ _ _ _ _ unpacked => by cases unpacked⟩

end TcpChannelImpl

/-! ## Sending -/

/-- The states of a call of `sendPack`, whatever its writes do. -/
inductive Sends (message : NMessage) : SendStatus → Prop where
  | start : Sends message (sendPack message)
  | resume {call : SendPack} (outcome : WriteOutcome) (sending : Sends message (.sending call)) :
      Sends message (call.resume outcome).2

/-- Where the slices begin which a call of `sendPack` takes of its message. -/
inductive SendSlice (message : NMessage) : Int → Prop where
  /-- `string_view(src.begin() + 8, src.end())` in the log. -/
  | logged : SendSlice message 8
  /-- `src.data() + hadsend` in the second loop. -/
  | offered {call : SendPack} (sends : Sends message (.sending call))
      (inBody : call.inBody = true) : SendSlice message call.hadsend

def SendInRange (message : NMessage) : Prop :=
  ∀ offset, SendSlice message offset → InString offset message.body

/-- The second loop does not come to a second write. -/
def OneWrite (message : NMessage) : SendStatus → Prop
  | .sending call => call.message = message ∧
      (call.inBody = true → call.tryIndex = 1 ∧ call.hadsend = 0)
  | .returned _ | .undefined => True

/-- The loop of the body writes the message from one place on. -/
theorem oneWrite_bodyLoop {message : NMessage} {call : SendPack} (same : call.message = message)
    (first : call.tryIndex = 0 → call.hadsend = 0) : OneWrite message call.bodyLoop := by
  unfold SendPack.bodyLoop
  split
  · next again =>
      have zero : call.tryIndex = 0 := by
        have more := again.1
        simp only [retryCount] at more
        omega
      exact ⟨same, fun _ => ⟨by rw [zero], first zero⟩⟩
  · trivial

/-- The loop of the head writes the head from one place on. -/
theorem oneWrite_headLoop {message : NMessage} {call : SendPack} (same : call.message = message)
    (inHead : call.inBody = false) : OneWrite message call.headLoop := by
  unfold SendPack.headLoop
  split
  · exact ⟨same, fun inBody => absurd (inHead.symm.trans inBody) Bool.false_ne_true⟩
  · split
    · trivial
    · exact oneWrite_bodyLoop same fun _ => rfl

/-- Every state of a send has one write under way. -/
theorem oneWrite_of_sends {message : NMessage} {status : SendStatus}
    (sends : Sends message status) : OneWrite message status := by
  induction sends with
  | start =>
      by_cases loggable : Loggable message
      · rw [sendPack_of_loggable loggable]
        exact ⟨rfl, fun inBody => Bool.noConfusion inBody⟩
      · rw [sendPack_of_not_loggable loggable]
        trivial
  | @resume call outcome _ inductionHypothesis =>
      obtain ⟨same, first⟩ := inductionHypothesis
      simp only [SendPack.resume]
      cases inBody : call.inBody with
      | false => exact oneWrite_headLoop same rfl
      | true =>
          refine oneWrite_bodyLoop same fun zero => ?_
          exact absurd ((first inBody).1.symm.trans zero) Nat.one_ne_zero

/-- A send stays in range exactly for a body of eight bytes or more. -/
theorem sendInRange_iff {message : NMessage} :
    SendInRange message ↔ 8 ≤ message.body.length := by
  constructor
  · intro range
    have logged := (range 8 SendSlice.logged).2
    omega
  · intro enough offset slice
    cases slice with
    | logged => exact ⟨by decide, by omega⟩
    | offered sends inBody =>
        rw [((oneWrite_of_sends sends).2 inBody).2]
        exact ⟨Int.le_refl _, Int.natCast_nonneg _⟩

/-! ## Both ends -/

open TcpChannelImpl

/-- A call of `recvPack` is in range unless the head that comes in has a length which takes the sum
out of `int` or makes it too short for the head. One of `sendPack` is unless its message has fewer
than eight bytes. -/
theorem inRange_iff (netpack : StreamNetDealer) (channel : TcpChannelImpl)
    (reads : List ReadOutcome) (message : NMessage) :
    RecvInRange netpack channel reads ∧ SendInRange message ↔
      (8 ≤ (incoming channel reads).length →
        FrameFits (ntohl ((incoming channel reads).take 4))) ∧ 8 ≤ message.body.length :=
  and_congr (recvInRange_iff.trans forall_unpackedHead_iff) sendInRange_iff

/-- Length `0xffffffff` is taken for -1, and the frame of seven bytes does not hold its head. -/
theorem inRange_wrapped :
    (∀ netpack, recvPack netpack ⟨[0xff, 0xff, 0xff, 0xff, 0, 0, 0, 1], [], []⟩ [] =
        .thrown ⟨[1], [0xff, 0xff, 0xff, 0xff, 0, 0, 0], []⟩ []) ∧
      (∀ netpack, ¬ RecvInRange netpack ⟨[0xff, 0xff, 0xff, 0xff, 0, 0, 0, 1], [], []⟩ []) ∧
      ¬ SendInRange ⟨1, [65]⟩ := by
  refine ⟨fun _ => rfl, ?_, fun range => absurd (range 8 SendSlice.logged) (by decide)⟩
  intro netpack range
  have cut := range.body ⟨0xffffffff, 1⟩ 0 ⟨[0xff, 0xff, 0xff, 0xff, 0, 0, 0, 1], [], []⟩ []
    ⟨[0xff, 0xff, 0xff, 0xff, 0, 0, 0, 1], [], []⟩ [] rfl rfl
  exact absurd cut (by decide)

end SM.Network
