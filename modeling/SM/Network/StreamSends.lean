import SM.Network.TcpChannel

/-!
# Sends of a TCP stream handler

`TcpStreamHandler.sendPack` writes a frame piece by piece. What is thrown in between ends the loop
and is caught, but the flag that is returned was true from the start. `sendPack_tells_iff` says for
which outcomes of the writes it is right.
-/

namespace SM.Network

open SM.Utils

/-- One turn of the loop of `sendPack`. -/
inductive SendTurn where
  /-- `async_send` took so many bytes; `async_wait`, which is called after a part, did not throw if
  the flag says so. -/
  | sent (count : Nat) (waited : Bool)
  /-- `async_send` threw. -/
  | threw
deriving DecidableEq

namespace TcpStreamHandler

/-- `_packnethead`; nothing after a failed assertion. -/
def packnethead (assertions : Bool) (handler : TcpStreamHandler) (packlen : UInt32) :
    Option Bytes :=
  if assertions ∧ ¬packlen < 0xffffffff then none
  else
    match handler.nethead with
    | .fixPackLenPlaceHolder => some (packuint32String [] packlen)
    | .noPlaceHolderFixLen =>
        if assertions ∧ packlen ≠ handler.curpacklen then none else some []
    | .noPlaceHolderVarLen => some []

/-- The loop over the turns to come: the bytes it wrote, and `_sendbuf` after it. There is no result
while it waits for a turn to end. -/
def sendLoop : List SendTurn → Bytes → Option (Bytes × Bytes)
  | _, [] => some ([], [])
  | [], _ => none
  | .threw :: _, sendbuf => some ([], sendbuf)
  | .sent count waited :: turns, sendbuf =>
      let len := min count sendbuf.length
      if len ≠ sendbuf.length ∧ waited = false then some (sendbuf.take len, sendbuf)
      else
        (sendLoop turns (sendbuf.drop len)).map fun (written, left) =>
          (sendbuf.take len ++ written, left)

/-- The value returned by `sendPack`, the bytes it wrote, and `_sendbuf` after it. -/
structure SendEnd where
  bret : Bool
  written : Bytes
  sendbuf : Bytes
deriving DecidableEq

def sendPack (assertions : Bool) (handler : TcpStreamHandler) (msg : Bytes)
    (turns : List SendTurn) : Option SendEnd := do
  let bret := true
  let head ← handler.packnethead assertions (UInt32.ofNat msg.length)
  let (written, sendbuf) ← sendLoop turns (head ++ msg)
  return ⟨bret, written, sendbuf⟩

/-- The flag is true exactly if the frame was written, each byte once and in order. -/
def Tells (frame : Bytes) (ended : SendEnd) : Prop :=
  ended.bret = true ↔ ended.written = frame

/-- The bytes which the turns can take up to the first that throws. -/
def capacity : List SendTurn → Nat
  | [] => 0
  | .threw :: _ => 0
  | .sent count waited :: turns => count + if waited then capacity turns else 0

variable {assertions : Bool} {handler : TcpStreamHandler} {msg sendbuf written left : Bytes}
  {turns : List SendTurn} {ended : SendEnd} {count : Nat}

/-- A turn that sends all or can go on. -/
theorem sendLoop_sent {waited : Bool} (filled : sendbuf ≠ []) :
    sendLoop (.sent count waited :: turns) sendbuf =
      if min count sendbuf.length ≠ sendbuf.length ∧ waited = false then
        some (sendbuf.take (min count sendbuf.length), sendbuf)
      else
        (sendLoop turns (sendbuf.drop (min count sendbuf.length))).map fun (written, left) =>
          (sendbuf.take (min count sendbuf.length) ++ written, left) := by
  cases sendbuf with
  | nil => exact absurd rfl filled
  | cons byte rest => rfl

/-- A front part is completed by the rest alone. -/
theorem take_append_eq_iff {more : Bytes} :
    sendbuf.take count ++ more = sendbuf ↔ more = sendbuf.drop count := by
  constructor
  · intro joined
    exact List.append_cancel_left (joined.trans (List.take_append_drop count sendbuf).symm)
  · rintro rfl
    exact List.take_append_drop count sendbuf

/-- A turn that takes a part and cannot go on has written the front of the buffer, but not all. -/
theorem broken_written (part : min count sendbuf.length ≠ sendbuf.length) :
    sendbuf.take (min count sendbuf.length) <+: sendbuf ∧
      (sendbuf.take (min count sendbuf.length) = sendbuf ↔
        sendbuf.length ≤ capacity (.sent count false :: turns)) := by
  refine ⟨List.take_prefix _ _, iff_of_false ?_ ?_⟩
  · intro whole
    have length := congrArg List.length whole
    rw [List.length_take] at length
    omega
  · rw [capacity, if_neg Bool.false_ne_true]
    omega

/-- What a turn leaves fits into the others if and only if all fits. -/
theorem rest_le_capacity_iff {waited : Bool} {size : Nat}
    (unbroken : ¬(min count size ≠ size ∧ waited = false)) :
    size - min count size ≤ capacity turns ↔
      size ≤ capacity (.sent count waited :: turns) := by
  rw [capacity]
  cases waited with
  | true =>
      rw [if_pos rfl]
      omega
  | false =>
      -- The turn took all that was left, so that nothing was waited for.
      have all : min count size = size := Decidable.not_not.mp fun part => unbroken ⟨part, rfl⟩
      rw [if_neg Bool.false_ne_true]
      omega

/-- The loop writes the front of its buffer, and all of it if and only if the turns can take as many
bytes before one of them throws. -/
theorem sendLoop_written (returned : sendLoop turns sendbuf = some (written, left)) :
    written <+: sendbuf ∧ (written = sendbuf ↔ sendbuf.length ≤ capacity turns) := by
  induction turns generalizing sendbuf written left with
  | nil =>
      cases sendbuf with
      | nil =>
          cases returned
          exact ⟨List.prefix_rfl, iff_of_true rfl (Nat.zero_le _)⟩
      | cons byte rest => cases returned
  | cons turn turns inductionHypothesis =>
      by_cases empty : sendbuf = []
      · subst empty
        cases returned
        exact ⟨List.prefix_rfl, iff_of_true rfl (Nat.zero_le _)⟩
      · cases turn with
        | threw =>
            cases sendbuf with
            | nil => exact absurd rfl empty
            | cons byte rest =>
                cases returned
                refine ⟨List.nil_prefix, iff_of_false (List.cons_ne_nil _ _).symm ?_⟩
                exact Nat.not_succ_le_zero _
        | sent count waited =>
            rw [sendLoop_sent empty] at returned
            by_cases broken : min count sendbuf.length ≠ sendbuf.length ∧ waited = false
            · rw [if_pos broken] at returned
              cases returned
              obtain ⟨part, rfl⟩ := broken
              exact broken_written part
            · rw [if_neg broken] at returned
              obtain ⟨⟨more, rest⟩, looped, values⟩ := Option.map_eq_some_iff.mp returned
              cases values
              obtain ⟨⟨unsent, joined⟩, whole⟩ := inductionHypothesis looped
              refine ⟨⟨unsent, ?_⟩, ?_⟩
              · rw [List.append_assoc, joined, List.take_append_drop]
              · rw [take_append_eq_iff, whole, List.length_drop]
                exact rest_le_capacity_iff broken

/-- What a call which has returned has done. -/
theorem sendPack_eq_some (returned : handler.sendPack assertions msg turns = some ended) :
    ∃ head, handler.packnethead assertions (UInt32.ofNat msg.length) = some head ∧
      ended.bret = true ∧ sendLoop turns (head ++ msg) = some (ended.written, ended.sendbuf) := by
  obtain ⟨head, packed, returned⟩ := Option.bind_eq_some_iff.mp returned
  obtain ⟨⟨written, sendbuf⟩, looped, values⟩ := Option.bind_eq_some_iff.mp returned
  cases values
  exact ⟨head, packed, rfl, looped⟩

/-- A head and a message are what the other side packs. -/
theorem packnethead_append {head : Bytes}
    (packed : handler.packnethead assertions (UInt32.ofNat msg.length) = some head) :
    head ++ msg = TcpChannel.packnet handler.nethead msg := by
  unfold packnethead at packed
  split at packed
  · cases packed
  · cases mode : handler.nethead with
    | fixPackLenPlaceHolder =>
        simp only [mode] at packed
        cases packed
        rfl
    | noPlaceHolderFixLen =>
        simp only [mode] at packed
        split at packed
        · cases packed
        · cases packed
          rfl
    | noPlaceHolderVarLen =>
        simp only [mode] at packed
        cases packed
        rfl

/-- The flag tells whether the frame was written if and only if the writes before the first
exception can take all of it. -/
theorem sendPack_tells_iff (assertions : Bool) (handler : TcpStreamHandler) (msg : Bytes)
    (turns : List SendTurn) (ended : SendEnd)
    (returned : handler.sendPack assertions msg turns = some ended) :
    Tells (TcpChannel.packnet handler.nethead msg) ended ↔
      (TcpChannel.packnet handler.nethead msg).length ≤ capacity turns := by
  obtain ⟨head, packed, bret, looped⟩ := sendPack_eq_some returned
  rw [packnethead_append packed] at looped
  rw [Tells, ← (sendLoop_written looped).2, iff_true_left bret]

/-- A message of one byte, in two parts. -/
theorem sendPack_tells_iff_parts :
    Tells (TcpChannel.packnet .fixPackLenPlaceHolder [7]) ⟨true, [0, 0, 0, 1, 7], []⟩ ↔
      (TcpChannel.packnet .fixPackLenPlaceHolder [7]).length ≤
        capacity [.sent 3 true, .sent 2 true] :=
  sendPack_tells_iff true { nethead := .fixPackLenPlaceHolder } [7] [.sent 3 true, .sent 2 true]
    ⟨true, [0, 0, 0, 1, 7], []⟩ (by decide)

/-- A connection that is lost after three bytes of the length is reported as a success. -/
theorem sendPack_cut_short :
    sendPack true { nethead := .fixPackLenPlaceHolder } [7] [.sent 3 true, .threw] =
        some ⟨true, [0, 0, 0], [1, 7]⟩ ∧
      ¬Tells (TcpChannel.packnet .fixPackLenPlaceHolder [7]) ⟨true, [0, 0, 0], [1, 7]⟩ := by
  refine ⟨by decide, ?_⟩
  intro tells
  exact absurd (tells.mp rfl) (by decide)

end TcpStreamHandler

end SM.Network
