import SM.Network.TcpChannelImpl

/-!
# Reassembly of TCP messages

While every read makes progress, the bytes in `_bRecv` followed by the bytes
still to be read are one stream that the calls of `recvPack` consume from the
front. `recvPack_spec` relates one call to `streamFraming`, `recvAll_eq_take` relates
all of them, and `recvPack_reassembles` is the statement for messages which were packed.
-/

namespace SM.Network

open SM.Lib SM.Utils

namespace TcpChannelImpl

variable {channel : TcpChannelImpl} {reads : List ReadOutcome}

/-- The bytes a channel will hold once all reads are done. -/
def stream (channel : TcpChannelImpl) (reads : List ReadOutcome) : Bytes :=
  channel.bRecv ++ received reads

@[simp] theorem received_nil : received [] = [] := rfl

@[simp] theorem received_cons (read : ReadOutcome) (reads : List ReadOutcome) :
    received (read :: reads) = read.data ++ received reads := rfl

/-- A read with progress appends exactly the bytes read. -/
theorem readSome_progress (channel : TcpChannelImpl) {read : ReadOutcome}
    (progress : read.Progress) (len : Nat) :
    ∃ count next, channel.readSome len read = (count, next) ∧ 0 < count ∧
      (next.appendRead count).bRecv = channel.bRecv ++ read.data := by
  cases read with
  | failed => exact absurd rfl progress
  | bytes data fits =>
      have nonempty : 0 < data.length := List.length_pos_iff.mpr progress
      exact ⟨_, _, rfl, nonempty, by simp [appendRead, ReadOutcome.data]⟩

/-- With progress, a read loop stops only when it has what it needs, and loses no byte. -/
theorem readLoop_cases (channel : TcpChannelImpl) (need : Int)
    (progress : ∀ read ∈ reads, read.Progress) (len : Nat) :
    (readLoop need 0 len channel reads = none ∧ Short (channel.stream reads) need) ∨
      ∃ count next rest, readLoop need 0 len channel reads = some (count, next, rest) ∧
        ¬ Short next.bRecv need ∧ channel.bRecv <+: next.bRecv ∧ rest <:+ reads ∧
          next.stream rest = channel.stream reads := by
  induction reads generalizing channel len with
  | nil =>
      by_cases short : Short channel.bRecv need
      · exact .inl ⟨by simp [readLoop, retryCount, short], by simpa [stream] using short⟩
      · exact .inr ⟨len, channel, [], by simp [readLoop, short], short, List.prefix_refl _,
          List.suffix_refl _, rfl⟩
  | cons read reads inductionHypothesis =>
      by_cases short : Short channel.bRecv need
      · obtain ⟨count, next, readEq, positive, appended⟩ :=
          readSome_progress channel (progress read List.mem_cons_self) len
        have step : readLoop need 0 len channel (read :: reads) =
            readLoop need 0 count (next.appendRead count) reads := by
          simp [readLoop, retryCount, short, readEq, positive]
        have same : (next.appendRead count).stream reads = channel.stream (read :: reads) := by
          simp [stream, appended, List.append_assoc]
        rw [step, ← same]
        rcases inductionHypothesis (next.appendRead count)
          (fun other member => progress other (List.mem_cons_of_mem _ member)) count with
          stuck | ⟨count', next', rest, loopEq, enough, extended, suffix, kept⟩
        · exact .inl stuck
        · have grown : channel.bRecv <+: (next.appendRead count).bRecv :=
            ⟨read.data, appended.symm⟩
          exact .inr ⟨count', next', rest, loopEq, enough, grown.trans extended,
            suffix.trans (List.suffix_cons _ _), kept⟩
      · exact .inr ⟨len, channel, read :: reads, by simp [readLoop, short], short,
          List.prefix_refl _, List.suffix_refl _, rfl⟩

/-- A buffer is short of a head below eight bytes. -/
theorem short_headLen_iff (buffer : Bytes) :
    Short buffer StreamNetDealer.headLen ↔ buffer.length < 8 := by
  simp only [Short, StreamNetDealer.headLen]
  omega

/-- How one call of `recvPack` relates to the first message of the stream. -/
inductive CallSpec (channel : TcpChannelImpl) (reads : List ReadOutcome) : RecvPack → Prop where
  | returned {message next rest}
      (found : nextMessage (channel.stream reads) = some (message, next.stream rest))
      (suffix : rest <:+ reads) : CallSpec channel reads (.returned message next rest)
  | thrown {next rest} (stuck : nextMessage (channel.stream reads) = none) :
      CallSpec channel reads (.thrown next rest)
  | suspended (stuck : nextMessage (channel.stream reads) = none) :
      CallSpec channel reads .suspended

/-- The rest of a call started earlier on the same stream. -/
theorem CallSpec.resume {next : TcpChannelImpl} {rest : List ReadOutcome} {result : RecvPack}
    (spec : CallSpec next rest result) (suffix : rest <:+ reads)
    (kept : next.stream rest = channel.stream reads) : CallSpec channel reads result := by
  cases spec with
  | returned found suffix' => exact .returned (kept ▸ found) (suffix'.trans suffix)
  | thrown stuck => exact .thrown (kept ▸ stuck)
  | suspended stuck => exact .suspended (kept ▸ stuck)

/-- No message is found in less than a head. -/
theorem nextMessage_of_short {input : Bytes} (short : input.length < 8) :
    nextMessage input = none := by
  simp only [nextMessage]
  rw [if_neg]
  omega

/-- No message is found behind a length that is too large. -/
theorem nextMessage_of_large {input : Bytes} (large : maxBody ≤ (ntohl (input.take 4)).toNat) :
    nextMessage input = none := by
  simp only [nextMessage]
  rw [if_neg]
  omega

/-- Cutting a frame off a buffer which holds all of it cuts the first message off the stream. -/
theorem splitFrame_spec {netpack : StreamNetDealer} (head : 8 ≤ channel.bRecv.length)
    (len : netpack.len = ntohl (channel.bRecv.take 4))
    (no : netpack.no = ntohl ((channel.bRecv.drop 4).take 4))
    (enough : ¬ Short channel.bRecv netpack.frameLen) :
    CallSpec channel reads (splitFrame netpack channel reads) := by
  have headTake : (channel.stream reads).take 4 = channel.bRecv.take 4 :=
    List.take_append_of_le_length (by omega)
  by_cases small : netpack.len.toNat < maxBody
  · have frameLen := frameLen_of_small netpack small
    have bodyFits : 8 + netpack.len.toNat ≤ channel.bRecv.length := by
      simp only [Short, frameLen] at enough
      omega
    have cut : netpack.frameLen.toNat = 8 + netpack.len.toNat := by omega
    have noTake : ((channel.stream reads).drop 4).take 4 = (channel.bRecv.drop 4).take 4 := by
      rw [stream, List.drop_append_of_le_length (by omega),
        List.take_append_of_le_length (by rw [List.length_drop]; omega)]
    have bodyTake : ((channel.stream reads).drop 8).take netpack.len.toNat =
        (channel.bRecv.take (8 + netpack.len.toNat)).drop 8 := by
      rw [stream, List.drop_append_of_le_length head,
        List.take_append_of_le_length (by rw [List.length_drop]; omega), List.drop_take]
      simp
    have restDrop : (channel.stream reads).drop (8 + netpack.len.toNat) =
        channel.bRecv.drop (8 + netpack.len.toNat) ++ received reads := by
      rw [stream, List.drop_append_of_le_length bodyFits]
    have frameFits : ¬ (channel.bRecv.take (8 + netpack.len.toNat)).length < 8 := by
      rw [List.length_take]
      omega
    simp only [splitFrame, cut, StreamNetDealer.headLen, frameFits, if_false]
    refine .returned ?_ (List.suffix_refl _)
    simp only [nextMessage, headTake, ← len, noTake, ← no, bodyTake, restDrop]
    rw [if_pos]
    · rfl
    · simp only [stream, List.length_append]
      omega
  · have large : maxBody ≤ netpack.len.toNat := by omega
    have frameLen := frameLen_of_large netpack large
    have frameShort : (channel.bRecv.take netpack.frameLen.toNat).length < 8 := by
      rw [List.length_take]
      omega
    simp only [splitFrame, StreamNetDealer.headLen, frameShort, if_true]
    exact .thrown (nextMessage_of_large (by rw [headTake, ← len]; exact large))

/-- The body loop and the cut after it, once the head is in the buffer. -/
theorem recvBody_spec {netpack : StreamNetDealer} (head : 8 ≤ channel.bRecv.length)
    (len : netpack.len = ntohl (channel.bRecv.take 4))
    (no : netpack.no = ntohl ((channel.bRecv.drop 4).take 4))
    (progress : ∀ read ∈ reads, read.Progress) (count : Nat) :
    CallSpec channel reads (match readLoop netpack.frameLen 0 count channel reads with
      | none => .suspended
      | some (_, channel, reads) =>
          if Short channel.bRecv netpack.frameLen then
            .returned ⟨netpack.getNo, []⟩ channel reads
          else splitFrame netpack channel reads) := by
  have headTake : (channel.stream reads).take 4 = channel.bRecv.take 4 :=
    List.take_append_of_le_length (by omega)
  rcases readLoop_cases channel netpack.frameLen progress count with
    ⟨loopEq, short⟩ | ⟨_, next, rest, loopEq, enough, ⟨more, grown⟩, suffix, kept⟩
  · -- The stream ends inside the frame, or the declared length has no frame.
    rw [loopEq]
    refine .suspended ?_
    by_cases small : netpack.len.toNat < maxBody
    · have frameLen := frameLen_of_small netpack small
      simp only [Short, frameLen] at short
      simp only [nextMessage, headTake, ← len]
      rw [if_neg]
      omega
    · exact nextMessage_of_large (by rw [headTake, ← len]; omega)
  · simp only [loopEq, enough, if_false]
    -- The loop only appends, so the head of the buffer is unchanged.
    refine (splitFrame_spec ?_ ?_ ?_ enough).resume suffix kept
    · rw [← grown, List.length_append]
      omega
    · rw [len, ← grown, List.take_append_of_le_length (by omega)]
    · rw [no, ← grown, List.drop_append_of_le_length (by omega),
        List.take_append_of_le_length (by rw [List.length_drop]; omega)]

/-- One call of `recvPack` takes the first message off the stream, or does not return. -/
theorem recvPack_spec (netpack : StreamNetDealer) (channel : TcpChannelImpl)
    (progress : ∀ read ∈ reads, read.Progress) :
    CallSpec channel reads (recvPack netpack channel reads) := by
  unfold recvPack
  rcases readLoop_cases { channel with bRecvMsg := [] }
    StreamNetDealer.headLen progress 0 with
    ⟨loopEq, short⟩ | ⟨count, next, rest, loopEq, enough, _, suffix, kept⟩
  · rw [loopEq]
    exact .suspended (nextMessage_of_short ((short_headLen_iff _).mp short))
  · rw [short_headLen_iff] at enough
    have head : StreamNetDealer.headLen ≤ next.bRecv.length := by
      simp only [StreamNetDealer.headLen]
      omega
    simp only [loopEq, head, if_true, unpack_of_length netpack head]
    exact (recvBody_spec head rfl rfl
      (fun read member => progress read (suffix.subset member)) count).resume suffix kept

/-- Only a length that no frame has makes a call throw. -/
theorem large_of_thrown {netpack : StreamNetDealer} {next : TcpChannelImpl}
    {rest : List ReadOutcome} (progress : ∀ read ∈ reads, read.Progress)
    (thrown : recvPack netpack channel reads = .thrown next rest) :
    8 ≤ (channel.stream reads).length ∧
      maxBody ≤ (ntohl ((channel.stream reads).take 4)).toNat := by
  unfold recvPack at thrown
  rcases readLoop_cases { channel with bRecvMsg := [] } StreamNetDealer.headLen progress 0 with
    ⟨loopEq, _⟩ | ⟨count, headed, left, loopEq, enough, _, suffix, kept⟩
  · rw [loopEq] at thrown
    cases thrown
  · rw [short_headLen_iff] at enough
    have head : StreamNetDealer.headLen ≤ headed.bRecv.length := by
      simp only [StreamNetDealer.headLen]
      omega
    have same : channel.stream reads = headed.bRecv ++ received left := kept.symm
    rw [same, List.take_append_of_le_length (by omega), List.length_append]
    refine ⟨by omega, Nat.not_lt.mp fun small => ?_⟩
    simp only [loopEq, head, if_true, unpack_of_length netpack head] at thrown
    have frameLen := frameLen_of_small ⟨ntohl (headed.bRecv.take 4),
      ntohl ((headed.bRecv.drop 4).take 4)⟩ small
    rcases readLoop_cases headed (StreamNetDealer.frameLen ⟨ntohl (headed.bRecv.take 4),
      ntohl ((headed.bRecv.drop 4).take 4)⟩)
      (fun read member => progress read (suffix.subset member)) count with
      ⟨loopEq, _⟩ | ⟨_, full, last, loopEq, enough, _, _, _⟩
    · rw [loopEq] at thrown
      cases thrown
    · -- A buffer which is not short holds the head of the frame.
      simp only [loopEq, enough, if_false, splitFrame] at thrown
      rw [if_neg] at thrown
      · cases thrown
      · simp only [Short, frameLen, StreamNetDealer.headLen, List.length_take] at enough ⊢
        omega

/-- Successive calls return the messages of the stream in order. -/
theorem recvAll_eq_take (stack : List StreamNetDealer) (progress : ∀ read ∈ reads, read.Progress) :
    recvAll stack channel reads =
      (streamFraming.frames (channel.stream reads)).take stack.length := by
  induction stack generalizing channel reads with
  | nil => rfl
  | cons netpack stack inductionHypothesis =>
      have spec := recvPack_spec netpack channel progress
      unfold recvAll
      cases result : recvPack netpack channel reads with
      | returned message next rest =>
          rw [result] at spec
          cases spec with
          | returned found suffix =>
              have tail := @inductionHypothesis next rest
                (fun read member => progress read (suffix.subset member))
              rw [streamFraming.frames_of_some found]
              simp [tail]
      | thrown next rest =>
          rw [result] at spec
          cases spec with
          | thrown stuck => simp [streamFraming.frames_of_none stuck]
      | suspended =>
          rw [result] at spec
          cases spec with
          | suspended stuck => simp [streamFraming.frames_of_none stuck]

/-- Calls for which the stream has messages all return, and consume exactly these. -/
theorem recvPacks_spec (stack : List StreamNetDealer) (channel : TcpChannelImpl)
    (progress : ∀ read ∈ reads, read.Progress)
    (enough : stack.length ≤ (streamFraming.frames (channel.stream reads)).length) :
    ∃ next rest, recvPacks stack channel reads =
        some ((streamFraming.frames (channel.stream reads)).take stack.length, next, rest) ∧
      rest <:+ reads ∧
      channel.stream reads = streamFraming.encodeAll
        ((streamFraming.frames (channel.stream reads)).take stack.length) ++ next.stream rest := by
  induction stack generalizing channel reads with
  | nil => exact ⟨channel, reads, rfl, List.suffix_refl _, rfl⟩
  | cons netpack stack inductionHypothesis =>
      have spec := recvPack_spec netpack channel progress
      unfold recvPacks
      cases result : recvPack netpack channel reads with
      | returned message next rest =>
          rw [result] at spec
          cases spec with
          | returned found suffix =>
              have split := streamFraming.frames_of_some found
              obtain ⟨last, left, callsEq, suffix', streamEq⟩ :=
                @inductionHypothesis rest next
                  (fun read member => progress read (suffix.subset member))
                  (by rw [split] at enough; simpa using enough)
              obtain ⟨_, consumed⟩ := streamFraming.next_eq_some_iff.mp found
              refine ⟨last, left, ?_, suffix'.trans suffix, ?_⟩
              · rw [split]
                simp [callsEq]
              · rw [split, List.length_cons, List.take_succ_cons, Framing.encodeAll_cons,
                  List.append_assoc, ← streamEq, ← consumed]
      | thrown next rest =>
          rw [result] at spec
          cases spec with
          | thrown stuck => simp [streamFraming.frames_of_none stuck] at enough
      | suspended =>
          rw [result] at spec
          cases spec with
          | suspended stuck => simp [streamFraming.frames_of_none stuck] at enough

/-- However the bytes of a list of messages are cut into reads, the calls of `recvPack`
return exactly these messages in order, and what follows the messages returned so far is
kept for the later calls. -/
theorem recvPack_reassembles (messages : List NMessage) (reads : List ReadOutcome)
    (recvasio : Bytes) (stack : List StreamNetDealer)
    (short : ∀ message ∈ messages, message.body.length < maxBody)
    (progress : ∀ read ∈ reads, read.Progress)
    (cut : received reads = streamFraming.encodeAll messages)
    (calls : stack.length ≤ messages.length) :
    ∃ channel rest,
      recvPacks stack (new recvasio) reads = some (messages.take stack.length, channel, rest) ∧
        rest <:+ reads ∧
        channel.bRecv ++ received rest =
          streamFraming.encodeAll (messages.drop stack.length) := by
  have start : (new recvasio).stream reads = streamFraming.encodeAll messages := by
    rw [← cut]
    rfl
  have split : streamFraming.frames ((new recvasio).stream reads) = messages := by
    rw [start]
    exact streamFraming.frames_encodeAll short
  obtain ⟨channel, rest, callsEq, suffix, streamEq⟩ :=
    recvPacks_spec stack (new recvasio) progress (by rw [split]; exact calls)
  rw [split] at callsEq streamEq
  refine ⟨channel, rest, callsEq, suffix, ?_⟩
  have whole : streamFraming.encodeAll messages =
      streamFraming.encodeAll (messages.take stack.length) ++
        streamFraming.encodeAll (messages.drop stack.length) := by
    rw [← Framing.encodeAll_append, List.take_append_drop]
  rw [start, whole] at streamEq
  exact (List.append_cancel_left streamEq).symm

/-- Two messages, one without a body, in reads which end inside a head and span both frames. -/
theorem recvPack_reassembles_two :
    ∃ channel rest,
      recvPacks [⟨9, 9⟩, ⟨9, 9⟩] (new [])
          [.bytes [0, 0, 0] (by decide), .bytes [2, 0, 0, 0, 7, 65, 66, 0, 0, 0] (by decide),
            .bytes [0, 0, 0, 0, 8] (by decide)] =
        some ([⟨7, [65, 66]⟩, ⟨8, []⟩], channel, rest) ∧
      rest <:+ [.bytes [0, 0, 0] (by decide),
        .bytes [2, 0, 0, 0, 7, 65, 66, 0, 0, 0] (by decide),
        .bytes [0, 0, 0, 0, 8] (by decide)] ∧
      channel.bRecv ++ received rest = streamFraming.encodeAll [] :=
  recvPack_reassembles [⟨7, [65, 66]⟩, ⟨8, []⟩] _ [] [⟨9, 9⟩, ⟨9, 9⟩]
    (by decide) (by simp [ReadOutcome.Progress, ReadOutcome.data]) (by decide) (by decide)

/-- What a peer returns for the bytes of a connection, however they are cut into reads. -/
def PeerReturns (bytes : Bytes) (messages : List NMessage) : Prop :=
  ∀ (reads : List ReadOutcome) (recvasio : Bytes) (stack : List StreamNetDealer),
    (∀ read ∈ reads, read.Progress) → received reads = bytes → bytes.length ≤ stack.length →
      recvAll stack (new recvasio) reads = messages

/-- Reading one byte at a time. -/
def singleReads (bytes : Bytes) : List ReadOutcome :=
  bytes.map fun byte => .bytes [byte] (by simp)

/-- Every read of a single byte brings something. -/
theorem singleReads_progress (bytes : Bytes) : ∀ read ∈ singleReads bytes, read.Progress := by
  intro read member
  obtain ⟨byte, _, rfl⟩ := List.mem_map.mp member
  simp [ReadOutcome.Progress, ReadOutcome.data]

/-- Reads of single bytes bring all of them. -/
@[simp] theorem received_singleReads (bytes : Bytes) : received (singleReads bytes) = bytes := by
  induction bytes with
  | nil => rfl
  | cons byte rest inductionHypothesis =>
      simp [singleReads, ReadOutcome.data]
      exact inductionHypothesis

/-- A peer returns exactly the frames of the bytes it is sent. -/
theorem peerReturns_iff {bytes : Bytes} {messages : List NMessage} :
    PeerReturns bytes messages ↔ messages = streamFraming.frames bytes := by
  have enough (stack : List StreamNetDealer) (size : bytes.length ≤ stack.length) :
      (streamFraming.frames bytes).take stack.length = streamFraming.frames bytes := by
    rw [← Framing.framesWithin_eq_take, Framing.framesWithin_eq_frames _ size]
  constructor
  · intro returns
    have single := returns (singleReads bytes) [] (List.replicate bytes.length ⟨0, 0⟩)
      (singleReads_progress bytes) (received_singleReads bytes) (by simp)
    rw [recvAll_eq_take _ (singleReads_progress bytes)] at single
    simp only [stream, new, List.nil_append, received_singleReads] at single
    rw [← single, enough _ (by simp)]
  · rintro rfl reads recvasio stack progress cut size
    rw [recvAll_eq_take stack progress]
    simp only [stream, new, List.nil_append, cut]
    exact enough stack size

end TcpChannelImpl
end SM.Network
