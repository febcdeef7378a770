import SM.Network.TcpReceive

/-!
# Receive loop

The receive loop of `ChannelCombine::startIO` over a TCP channel. It hands every
pair that `recvPack` returns to a waiting `reqrep` or to the application. A pair
is also returned when a read failed, so the loop is faithful to the bytes it
read exactly as long as every read makes progress: `startIo_faithful` shows that
it is then, and that one failed read at a message end makes it deliver a message
which was never received.
-/

namespace SM.Network

open SM.Lib SM.Utils TcpChannelImpl

/-- Where `startIO` hands a returned pair. -/
inductive Delivery where
  /-- `notifyNetRepComplete` found a waiting `reqrep`. -/
  | netRep (packed : NMessage)
  /-- A coroutine is spawned to call the application. -/
  | appReq (packed : NMessage)
deriving DecidableEq

def Delivery.message : Delivery → NMessage
  | .netRep packed => packed
  | .appReq packed => packed

/-- What one turn of the loop finds: the indeterminate members of the local `_netpack`, and
the numbers a `reqrep` waits for. -/
structure Turn where
  netpack : StreamNetDealer
  waiting : UInt32 → Bool

/-- The loop of `startIO`. It ends when `recvPack` throws, since nothing catches here. -/
def startIo : List Turn → TcpChannelImpl → List ReadOutcome → List Delivery
  | [], _, _ => []
  | turn :: turns, channel, reads =>
      match recvPack turn.netpack channel reads with
      | .returned packed channel reads =>
          (if turn.waiting packed.no then .netRep packed else .appReq packed) ::
            startIo turns channel reads
      | _ => []

/-- Every delivered message is the next complete message of the bytes actually read. -/
def FaithfulRun (turns : List Turn) (recvasio : Bytes) (reads : List ReadOutcome) : Prop :=
  (startIo turns (new recvasio) reads).map Delivery.message <+:
    streamFraming.frames (received reads)

variable {channel : TcpChannelImpl} {reads : List ReadOutcome}

/-- The loop delivers what the calls of `recvPack` return, and nothing else. -/
theorem startIo_messages (turns : List Turn) :
    (startIo turns channel reads).map Delivery.message =
      recvAll (turns.map Turn.netpack) channel reads := by
  induction turns generalizing channel reads with
  | nil => rfl
  | cons turn turns inductionHypothesis =>
      simp only [startIo, List.map_cons, recvAll]
      cases recvPack turn.netpack channel reads with
      | returned packed next rest =>
          simp only [List.map_cons, inductionHypothesis, List.cons.injEq, and_true]
          split <;> rfl
      | thrown next rest => rfl
      | suspended => rfl

/-- Reads which all bring something make a faithful run. -/
theorem startIo_of_progress (turns : List Turn) (recvasio : Bytes)
    (progress : ∀ read ∈ reads, read.Progress) : FaithfulRun turns recvasio reads := by
  rw [FaithfulRun, startIo_messages, recvAll_eq_take _ progress]
  exact List.take_prefix _ _

/-! ## A failed read at a message end -/

/-- Reads which come later do not change a loop that ended. -/
theorem readLoop_append {need : Int} {tryIndex len count : Nat} {next : TcpChannelImpl}
    {rest : List ReadOutcome}
    (ended : readLoop need tryIndex len channel reads = some (count, next, rest))
    (more : List ReadOutcome) :
    readLoop need tryIndex len channel (reads ++ more) = some (count, next, rest ++ more) := by
  induction reads generalizing tryIndex len channel with
  | nil =>
      by_cases again : tryIndex + 1 < retryCount ∧ Short channel.bRecv need
      · simp [readLoop, again] at ended
      · simp only [readLoop, again, if_false, Option.some.injEq, Prod.mk.injEq] at ended
        obtain ⟨rfl, rfl, rfl⟩ := ended
        cases more <;> simp only [List.nil_append, readLoop, again, if_false]
  | cons read reads inductionHypothesis =>
      by_cases again : tryIndex + 1 < retryCount ∧ Short channel.bRecv need
      · simp only [readLoop, again, and_self, if_true, List.cons_append] at ended ⊢
        split at ended <;> simp_all
      · simp only [readLoop, again, if_false, Option.some.injEq, Prod.mk.injEq] at ended
        obtain ⟨rfl, rfl, rfl⟩ := ended
        simp only [List.cons_append, readLoop, again, if_false]

/-- A call which has returned does not depend on later reads. -/
theorem recvPack_append {netpack : StreamNetDealer} {message : NMessage} {next : TcpChannelImpl}
    {rest : List ReadOutcome} (ended : recvPack netpack channel reads = .returned message next rest)
    (more : List ReadOutcome) :
    recvPack netpack channel (reads ++ more) = .returned message next (rest ++ more) := by
  unfold recvPack at ended ⊢
  cases headEq : readLoop StreamNetDealer.headLen 0 0 { channel with bRecvMsg := [] } reads with
  | none => simp [headEq] at ended
  | some headed =>
      obtain ⟨len, headed, left⟩ := headed
      simp only [headEq, readLoop_append headEq] at ended ⊢
      split at ended
      · rename_i head
        simp only [head, if_true]
        cases unpacked : netpack.unpack headed.bRecv with
        | mk flag dealer =>
            cases flag with
            | false =>
                simp only [unpacked] at ended ⊢
                cases ended
                rfl
            | true =>
                simp only [unpacked] at ended ⊢
                cases bodyEq : readLoop dealer.frameLen 0 len headed left with
                | none => simp [bodyEq] at ended
                | some bodied =>
                    obtain ⟨count, bodied, left'⟩ := bodied
                    simp only [bodyEq, readLoop_append bodyEq] at ended ⊢
                    split at ended
                    · rename_i short
                      simp only [short, if_true]
                      cases ended
                      rfl
                    · rename_i short
                      simp only [short, if_false]
                      simp only [splitFrame] at ended ⊢
                      split at ended
                      · cases ended
                      · rename_i whole
                        simp only [whole, if_false]
                        cases ended
                        rfl
      · rename_i head
        simp only [head, if_false]
        cases ended
        rfl

/-- Calls which have returned do not depend on later reads. -/
theorem recvAll_append {stack : List StreamNetDealer} {messages : List NMessage}
    {next : TcpChannelImpl} {rest : List ReadOutcome}
    (calls : recvPacks stack channel reads = some (messages, next, rest))
    (later : List StreamNetDealer) (more : List ReadOutcome) :
    recvAll (stack ++ later) channel (reads ++ more) =
      messages ++ recvAll later next (rest ++ more) := by
  induction stack generalizing channel reads messages with
  | nil =>
      simp only [recvPacks, Option.some.injEq, Prod.mk.injEq] at calls
      obtain ⟨rfl, rfl, rfl⟩ := calls
      rfl
  | cons netpack stack inductionHypothesis =>
      unfold recvPacks at calls
      cases ended : recvPack netpack channel reads with
      | returned message headed left =>
          simp only [ended, Option.map_eq_some_iff, Prod.mk.injEq] at calls
          obtain ⟨⟨tail, final⟩, tailEq, rfl, rfl⟩ := calls
          simp only [List.cons_append, recvAll, recvPack_append ended, inductionHypothesis tailEq]
      | thrown headed left => simp [ended] at calls
      | suspended => simp [ended] at calls

/-- A call that starts on an empty buffer with a read without progress returns an empty body
under whatever number the local `_netpack` held. -/
theorem recvPack_of_failed {bad : ReadOutcome} (noProgress : ¬ bad.Progress)
    (netpack : StreamNetDealer) (empty : channel.bRecv = []) :
    ∃ next, recvPack netpack channel [bad] = .returned ⟨netpack.no, []⟩ next [] := by
  have stopped : ∃ next, readLoop 8 0 0 { channel with bRecvMsg := [] } [bad] =
      some (0, next, []) ∧ next.bRecv = [] := by
    have short : Short [] 8 := by decide
    cases bad with
    | failed =>
        refine ⟨{ channel with bRecvMsg := [] }, ?_, empty⟩
        simp [readLoop, retryCount, readSome, empty, short]
    | bytes data fits =>
        have nothing : data = [] := Classical.not_not.mp noProgress
        subst nothing
        refine ⟨{ channel with bRecvMsg := [] }, ?_, empty⟩
        simp [readLoop, retryCount, readSome, empty, short]
  obtain ⟨next, loopEq, nextEmpty⟩ := stopped
  refine ⟨next, ?_⟩
  simp [recvPack, StreamNetDealer.headLen, loopEq, nextEmpty, StreamNetDealer.getNo]

/-- Once every byte read has been returned in a message, the next read without progress makes
the loop deliver one message more. -/
theorem startIo_after_failed {messages : List NMessage} {turns : List Turn} {bad : ReadOutcome}
    (recvasio : Bytes) (short : ∀ message ∈ messages, message.body.length < maxBody)
    (progress : ∀ read ∈ reads, read.Progress)
    (cut : received reads = streamFraming.encodeAll messages)
    (noProgress : ¬ bad.Progress) (calls : turns.length = messages.length + 1) :
    ∃ no, (startIo turns (new recvasio) (reads ++ [bad])).map Delivery.message =
      messages ++ [⟨no, []⟩] := by
  obtain ⟨stack, last, stackEq⟩ : ∃ stack last, turns.map Turn.netpack = stack ++ [last] :=
    ⟨_, _, (List.dropLast_concat_getLast (by
      intro none
      simp [List.map_eq_nil_iff.mp none] at calls)).symm⟩
  have size : stack.length = messages.length := by
    have total := congrArg List.length stackEq
    simp only [List.length_map, List.length_append, List.length_singleton] at total
    omega
  have split : streamFraming.frames ((new recvasio).stream reads) = messages := by
    simp only [stream, new, List.nil_append, cut]
    exact streamFraming.frames_encodeAll short
  obtain ⟨next, rest, callsEq, suffix, streamEq⟩ :=
    recvPacks_spec stack (new recvasio) progress (by rw [split]; omega)
  rw [split, size, List.take_length] at callsEq streamEq
  -- Nothing is left over: the buffer is empty and every read was consumed.
  have leftover : next.stream rest = [] := by
    have whole : (new recvasio).stream reads = streamFraming.encodeAll messages ++ [] := by
      simp [stream, new, cut]
    exact (List.append_cancel_left (whole.symm.trans streamEq)).symm
  obtain ⟨empty, consumed⟩ := List.append_eq_nil_iff.mp leftover
  have done : rest = [] := by
    cases rest with
    | nil => rfl
    | cons read rest =>
        exact absurd (List.append_eq_nil_iff.mp consumed).1
          (progress read (suffix.subset List.mem_cons_self))
  subst done
  obtain ⟨final, lastEq⟩ := recvPack_of_failed noProgress last empty
  refine ⟨last.no, ?_⟩
  rw [startIo_messages, stackEq, recvAll_append callsEq]
  simp [recvAll, lastEq]

/-- In every run whose reads all make progress, each delivered message is the next complete
one of the bytes read. After such a run has delivered all it read, one more read that throws or
returns no bytes makes the loop deliver a message that was not received. -/
theorem startIo_faithful (turns : List Turn) (recvasio : Bytes) (reads : List ReadOutcome)
    (progress : ∀ read ∈ reads, ReadOutcome.Progress read) :
    FaithfulRun turns recvasio reads ∧
      ∀ messages later bad, (∀ message ∈ messages, message.body.length < maxBody) →
        received reads = streamFraming.encodeAll messages → ¬ ReadOutcome.Progress bad →
        later.length = messages.length + 1 → ¬ FaithfulRun later recvasio (reads ++ [bad]) := by
  refine ⟨startIo_of_progress turns recvasio progress, ?_⟩
  intro messages later bad short cut noProgress calls faithful
  obtain ⟨no, delivered⟩ := startIo_after_failed recvasio short progress cut noProgress calls
  have nothing : bad.data = [] := Classical.not_not.mp noProgress
  have frames : streamFraming.frames (received (reads ++ [bad])) = messages := by
    simp only [received, List.flatMap_append, List.flatMap_cons, List.flatMap_nil, nothing,
      List.append_nil]
    rw [← received, cut]
    exact streamFraming.frames_encodeAll short
  have longer := faithful.length_le
  rw [delivered, frames, List.length_append, List.length_singleton] at longer
  omega

/-- A connection which sends one message and is then closed. -/
theorem startIo_faithful_one_message :
    FaithfulRun [⟨⟨0, 7⟩, fun _ => false⟩] [] [.bytes [0, 0, 0, 1, 0, 0, 0, 5, 65] (by decide)] ∧
      ¬ FaithfulRun [⟨⟨0, 7⟩, fun _ => false⟩, ⟨⟨0, 7⟩, fun _ => false⟩] []
        [.bytes [0, 0, 0, 1, 0, 0, 0, 5, 65] (by decide), .failed] := by
  have both := startIo_faithful [⟨⟨0, 7⟩, fun _ => false⟩] []
    [.bytes [0, 0, 0, 1, 0, 0, 0, 5, 65] (by decide)]
    (by simp [ReadOutcome.Progress, ReadOutcome.data])
  exact ⟨both.1, both.2 [⟨5, [65]⟩] _ .failed (by decide) (by decide)
    (by simp [ReadOutcome.Progress, ReadOutcome.data]) rfl⟩

/-- A closed connection delivers a message without a body. A connection which is closed inside
a head delivers one too: the bytes of the last read are appended again. -/
theorem startIo_unfaithful_at_eof :
    ¬ FaithfulRun [⟨⟨0, 7⟩, fun _ => false⟩] [] [.failed] ∧
      ¬ FaithfulRun [⟨⟨0, 7⟩, fun _ => false⟩] [] [.bytes [0, 0, 0, 0] (by decide), .failed] := by
  have closed : (startIo [⟨⟨0, 7⟩, fun _ => false⟩] (new []) [.failed]).map Delivery.message =
      [⟨7, []⟩] := by decide
  have cut : (startIo [⟨⟨0, 7⟩, fun _ => false⟩] (new [])
      [.bytes [0, 0, 0, 0] (by decide), .failed]).map Delivery.message = [⟨0, []⟩] := by decide
  constructor
  · intro faithful
    have longer := faithful.length_le
    rw [closed] at longer
    exact absurd longer (by decide)
  · intro faithful
    have longer := faithful.length_le
    rw [cut] at longer
    exact absurd longer (by decide)

end SM.Network
