import SM.Inc.JsonProgress

/-!
# In front of the text

`fill_escape_char` counts back from where the reader is. An escape which the end of the text cuts
off is counted with all its characters, so its bytes go in front of the text: three at most, and
never without an error. `next_advances` says so of every token.
-/

namespace SM.Inc

open SM.Utils

namespace Reader

variable {reader : Reader}

/-! ## The bytes in front -/

/-- At most three bytes in front of the text were written, and none without an error. -/
structure Spares (reader after : Reader) : Prop where
  far : after.front.drop 3 = reader.front.drop 3
  width : after.front.length = reader.front.length
  fine : after.error = false → reader.error = false ∧ after.front = reader.front

/-- A step which writes nothing in front, and leaves the error flag, spares it. -/
theorem Spares.of_same {other : Reader} (front : other.front = reader.front)
    (error : other.error = reader.error) : reader.Spares other :=
  ⟨by rw [front], by rw [front], fun fine => ⟨error ▸ fine, front⟩⟩

/-- Doing nothing spares the bytes in front. -/
theorem Spares.refl (reader : Reader) : reader.Spares reader := .of_same rfl rfl

/-- Two steps which spare the bytes in front spare them together. -/
theorem Spares.trans {middle after : Reader} (first : reader.Spares middle)
    (second : middle.Spares after) : reader.Spares after := by
  refine ⟨second.far.trans first.far, second.width.trans first.width, fun fine => ?_⟩
  obtain ⟨before, same⟩ := second.fine fine
  exact ⟨(first.fine before).1, same.trans (first.fine before).2⟩

/-- An error alone writes nothing. -/
theorem fail_spares (reader : Reader) : reader.Spares reader.fail :=
  ⟨rfl, rfl, fun fine => Bool.noConfusion fine⟩

/-- An error that may come writes nothing. -/
theorem fail_if_spares (failing : Prop) [Decidable failing] (reader : Reader) :
    reader.Spares (if failing then reader.fail else reader) := by
  split
  · exact fail_spares reader
  · exact .refl reader

@[simp] theorem take_front (reader : Reader) : reader.take.front = reader.front := by
  rw [Reader.take]
  split <;> rfl

/-- Taking a character writes nothing in front. -/
theorem take_spares (reader : Reader) : reader.Spares reader.take :=
  .of_same (take_front reader) (take_error reader)

/-- Skipping characters writes nothing in front. -/
theorem skip_spares (reader : Reader) : reader.Spares reader.skip := by
  rw [skip]
  generalize reader.left + 1 = turns
  induction turns generalizing reader with
  | zero => exact .refl reader
  | succ turns inductionHypothesis =>
      rw [skip.loop]
      split
      · exact (take_spares reader).trans (inductionHypothesis _)
      · exact .refl reader

/-! ## Escapes -/

/-- The reader is at its end, and an escape was cut off there. -/
structure Cut (reader : Reader) : Prop where
  mark : reader.endMark = true
  error : reader.error = true

/-- What is counted for the escapes so far lies inside the text, but where one was cut off. -/
def Room (reader : Reader) (escCount : Nat) : Prop :=
  escCount < reader.offset ∨ reader.Cut ∧ escCount ≤ reader.offset + 3

/-- A byte which is written at most three places in front of the text, behind an error. -/
theorem fillEscapeChar_spares {count : Nat}
    (near : count ≤ reader.offset ∨ reader.error = true ∧ count ≤ reader.offset + 3) (c : UInt8) :
    reader.Spares (reader.fillEscapeChar count c) := by
  rw [fillEscapeChar]
  split_ifs with none inside
  · exact .refl reader
  · exact .of_same rfl rfl
  · obtain ⟨error, bound⟩ := near.resolve_left inside
    refine ⟨List.drop_set_of_lt (by omega), List.length_set, fun fine => ?_⟩
    exact Bool.noConfusion (fine.symm.trans error)

/-- Bytes which are written at most three places in front, behind an error. -/
theorem fillAll_spares {count : Nat}
    (near : count ≤ reader.offset ∨ reader.error = true ∧ count ≤ reader.offset + 3) (out : Bytes) :
    reader.Spares (reader.fillAll count out) := by
  induction out generalizing reader count with
  | nil => exact .refl reader
  | cons c out inductionHypothesis =>
      refine (fillEscapeChar_spares near c).trans (inductionHypothesis ?_)
      rw [fillEscapeChar_offset, fillEscapeChar_error]
      exact near.imp (fun inside => by omega) fun ⟨error, bound⟩ => ⟨error, by omega⟩

/-- Reading the value of a digit writes nothing. -/
theorem charToHex_spares (reader : Reader) (v : UInt8) : reader.Spares (reader.charToHex v).2 := by
  unfold charToHex
  dsimp only
  exact fail_if_spares _ reader

/-- Reading a digit writes nothing in front. -/
theorem readHex_spares (reader : Reader) : reader.Spares reader.readHex.2 := by
  rw [readHex]
  exact (charToHex_spares reader _).trans (take_spares _)

/-- Reading a code writes nothing in front. -/
theorem readUtf_spares (reader : Reader) : reader.Spares reader.readUtf.2 := by
  simp only [readUtf]
  exact (((readHex_spares reader).trans (readHex_spares _)).trans (readHex_spares _)).trans
    (readHex_spares _)

@[simp] theorem charToHex_endMark (reader : Reader) (v : UInt8) :
    (reader.charToHex v).2.endMark = reader.endMark := by
  unfold charToHex
  dsimp only
  split_ifs <;> rfl

@[simp] theorem charToHex_offset (reader : Reader) (v : UInt8) :
    (reader.charToHex v).2.offset = reader.offset := by
  unfold charToHex
  dsimp only
  split_ifs <;> rfl

/-- At the end of the text a zero is read, which is no digit. -/
theorem readHex_cut (mark : reader.endMark = true) :
    reader.readHex.2.Cut ∧ reader.readHex.2.offset = reader.offset := by
  have zero : reader.read = 0 := by rw [Reader.read, mark, if_pos rfl]
  have failed : reader.charToHex reader.read = (16, reader.fail) := by
    rw [zero]
    rfl
  have stays : reader.fail.take = reader.fail := by
    rw [Reader.take, if_pos (show reader.fail.endMark = true from mark)]
  rw [readHex, failed]
  dsimp only
  rw [stays]
  exact ⟨⟨mark, rfl⟩, rfl⟩

/-- So many characters were taken from a place on, or the text was at its end before. -/
def Took (place count : Nat) (reader : Reader) : Prop :=
  reader.offset = place + count ∨ reader.Cut ∧ place ≤ reader.offset

/-- Reading a digit takes one character more. -/
theorem Took.readHex {place count : Nat} (took : Took place count reader) :
    Took place (count + 1) reader.readHex.2 := by
  cases mark : reader.endMark with
  | true =>
      obtain ⟨cut, same⟩ := readHex_cut mark
      refine .inr ⟨cut, ?_⟩
      rw [same]
      exact took.elim (fun place => by omega) And.right
  | false =>
      have whole : reader.offset = place + count :=
        took.resolve_right fun cut => Bool.noConfusion (mark.symm.trans cut.1.mark)
      left
      rw [Reader.readHex]
      dsimp only
      rw [take_offset (by rw [charToHex_endMark, mark]), charToHex_offset, whole, Nat.add_assoc]

/-- Reading a code takes four characters. -/
theorem readUtf_took (reader : Reader) : Took reader.offset 4 reader.readUtf.2 := by
  have start : Took reader.offset 0 reader := .inl rfl
  simp only [readUtf]
  exact start.readHex.readHex.readHex.readHex

/-- An error takes no character. -/
theorem Took.fail_if {place count : Nat} (took : Took place count reader) (failing : Prop)
    [Decidable failing] : Took place count (if failing then reader.fail else reader) := by
  split
  · exact took.imp id fun ⟨cut, bound⟩ => ⟨⟨cut.mark, rfl⟩, bound⟩
  · exact took

@[simp] theorem fillAll_offset (reader : Reader) (count : Nat) (out : Bytes) :
    (reader.fillAll count out).offset = reader.offset := by
  induction out generalizing reader count with
  | nil => rfl
  | cons c out inductionHypothesis => rw [fillAll, inductionHypothesis, fillEscapeChar_offset]

@[simp] theorem fillAll_endMark (reader : Reader) (count : Nat) (out : Bytes) :
    (reader.fillAll count out).endMark = reader.endMark := by
  induction out generalizing reader count with
  | nil => rfl
  | cons c out inductionHypothesis => rw [fillAll, inductionHypothesis, fillEscapeChar_endMark]

/-- The bytes of an escape go where it stood, and in front of the text when it was cut off. -/
theorem Took.fillAll {place escCount : Nat} (took : Took place 4 reader)
    (room : escCount + 3 ≤ place) (out : Bytes) :
    reader.Spares (reader.fillAll (escCount + 6) out) ∧
      (reader.fillAll (escCount + 6) out).Room (escCount + 6 - out.length) := by
  constructor
  · refine fillAll_spares ?_ out
    exact took.imp (fun whole => by omega) fun ⟨cut, bound⟩ => ⟨cut.error, by omega⟩
  · rw [Room, fillAll_offset]
    refine took.imp (fun whole => by omega) fun ⟨cut, bound⟩ => ⟨?_, by omega⟩
    exact ⟨(fillAll_endMark ..).trans cut.mark, (fillAll_error ..).trans cut.error⟩

/-- An escape writes at most three bytes in front, and leaves room for the next one. -/
theorem escapeUtf8_spares {escCount : Nat} (room : escCount + 3 ≤ reader.offset) :
    reader.Spares (reader.escapeUtf8 escCount).2 ∧
      (reader.escapeUtf8 escCount).2.Room (reader.escapeUtf8 escCount).1 := by
  have read := readUtf_spares reader
  have took := readUtf_took reader
  unfold escapeUtf8
  generalize reader.readUtf = both at read took
  obtain ⟨utf1, after⟩ := both
  dsimp only at read took ⊢
  obtain ⟨filled, roomy⟩ := (took.fail_if (0x80000 ≤ utf1 ∧ utf1 < 0x110000)).fillAll room (utf8 utf1)
  exact ⟨(read.trans (fail_if_spares _ after)).trans filled, roomy⟩

/-! ## Strings -/

/-- A reader whose text was cut off takes nothing. -/
theorem take_cut (cut : reader.Cut) : reader.take = reader := by
  rw [Reader.take, if_pos cut.mark]

/-- Taking a character does not go back. -/
theorem offset_le_take (reader : Reader) : reader.offset ≤ reader.take.offset := by
  rw [Reader.take]
  split
  · exact Nat.le_refl _
  · exact Nat.le_succ _

/-- Where a character is read there is no cut. -/
theorem Room.lt {escCount : Nat} (room : reader.Room escCount) (running : reader.endMark = false) :
    escCount < reader.offset :=
  room.resolve_right fun cut => Bool.noConfusion (running.symm.trans cut.1.mark)

/-- Where the next character is not zero the text is not at its end. -/
theorem running_of_read (nonzero : reader.read ≠ 0) : reader.endMark = false := by
  cases mark : reader.endMark with
  | false => rfl
  | true => exact absurd (by rw [Reader.read, mark, if_pos rfl]) nonzero

/-- A character is written behind what is done, and taken. -/
theorem Room.fill_take {escCount : Nat} (room : reader.Room escCount) (c : UInt8) :
    reader.Spares (reader.fillEscapeChar escCount c).take ∧
      (reader.fillEscapeChar escCount c).take.Room escCount := by
  have near : escCount ≤ reader.offset ∨ reader.error = true ∧ escCount ≤ reader.offset + 3 :=
    room.imp Nat.le_of_lt fun ⟨cut, bound⟩ => ⟨cut.error, bound⟩
  refine ⟨(fillEscapeChar_spares near c).trans (take_spares _), ?_⟩
  have offset := fillEscapeChar_offset reader escCount c
  rcases room with inside | ⟨cut, bound⟩
  · have onward := offset_le_take (reader.fillEscapeChar escCount c)
    exact .inl (by omega)
  · have filled : (reader.fillEscapeChar escCount c).Cut :=
      ⟨(fillEscapeChar_endMark ..).trans cut.mark, (fillEscapeChar_error ..).trans cut.error⟩
    rw [take_cut filled]
    exact .inr ⟨filled, by omega⟩

/-- An escape of one letter: it is written where its backslash stood. -/
theorem escape_spares {escCount : Nat} (inside : escCount + 1 < reader.offset) (c : UInt8) :
    reader.Spares (reader.fillEscapeChar (escCount + 1) c).take ∧
      (reader.fillEscapeChar (escCount + 1) c).take.Room (escCount + 1) :=
  Room.fill_take (.inl inside) c

/-- What an escape with four digits needs in front of it: the backslash and its letter. -/
theorem escape_room {escCount : Nat} (room : reader.Room escCount) (backslash : reader.read = 0x5c) :
    escCount + 1 < reader.take.offset ∧
      (reader.take.read = 0x75 → escCount + 3 ≤ reader.take.take.offset) := by
  have nonzero : reader.read ≠ 0 := by
    rw [backslash]
    decide
  have running := running_of_read nonzero
  have inside := room.lt running
  have offset := take_offset running
  refine ⟨by omega, fun letter => ?_⟩
  have behind : reader.take.read ≠ 0 := by
    rw [letter]
    decide
  have more := take_offset (running_of_read behind)
  omega

/-- The loop of a quoted string spares the bytes in front as long as there is room. -/
theorem quoteLoop_spares (turns : Nat) {escCount : Nat} (room : reader.Room escCount) :
    reader.Spares (quoteLoop turns reader escCount reader.read) := by
  induction turns generalizing reader escCount with
  | zero => exact .refl reader
  | succ turns inductionHypothesis =>
      have taken := take_spares reader
      rw [quoteLoop]
      split
      · exact fail_spares reader
      · split
        · rename_i backslash
          obtain ⟨inside, behind⟩ := escape_room room backslash
          dsimp only
          split
          · rename_i letter
            obtain ⟨escaped, roomy⟩ := escapeUtf8_spares (behind letter)
            exact ((taken.trans (take_spares _)).trans escaped).trans (inductionHypothesis roomy)
          · split
            · exact taken.trans (fail_spares _)
            · rename_i letter _
              obtain ⟨filled, roomy⟩ := escape_spares inside letter
              exact (taken.trans filled).trans (inductionHypothesis roomy)
        · split
          · exact .of_same (take_front _) (take_error _)
          · obtain ⟨filled, roomy⟩ := room.fill_take reader.read
            exact filled.trans (inductionHypothesis roomy)

/-- The loop of a string without quotes spares the bytes in front as long as there is room. -/
theorem stringLoop_spares (turns : Nat) {escCount : Nat} {c : UInt8} (room : reader.Room escCount)
    (known : c = reader.read ∨ c = 0x75) :
    reader.Spares (stringLoop turns reader escCount c) := by
  induction turns generalizing reader escCount c with
  | zero => exact .refl reader
  | succ turns inductionHypothesis =>
      have taken := take_spares reader
      rw [stringLoop]
      split
      · exact fail_spares reader
      · split
        · rename_i backslash
          have read : reader.read = 0x5c :=
            known.elim (fun same => same.symm.trans backslash)
              fun letter => absurd (letter.symm.trans backslash) (by decide)
          obtain ⟨inside, behind⟩ := escape_room room read
          dsimp only
          split
          · rename_i letter
            obtain ⟨escaped, roomy⟩ := escapeUtf8_spares (behind letter)
            exact ((taken.trans (take_spares _)).trans escaped).trans
              (inductionHypothesis roomy (.inr letter))
          · have checked := fail_if_spares (unescape reader.take.read = none) reader.take
            have same : (if unescape reader.take.read = none then reader.take.fail
                else reader.take).offset = reader.take.offset := by split <;> rfl
            obtain ⟨filled, roomy⟩ := escape_spares (lt_of_lt_of_eq inside same.symm)
              ((unescape reader.take.read).getD reader.take.read)
            exact ((taken.trans checked).trans filled).trans (inductionHypothesis roomy (.inl rfl))
        · split
          · exact .of_same rfl rfl
          · obtain ⟨filled, roomy⟩ := room.fill_take c
            exact filled.trans (inductionHypothesis roomy (.inl rfl))

/-- A quoted string spares the bytes in front of the text. -/
theorem parserQuoteString_spares (further : 0 < reader.take.offset) :
    reader.Spares reader.parserQuoteString := by
  have opened : reader.Spares (reader.take.startToken .string) :=
    .of_same (take_front reader) (take_error reader)
  exact opened.trans (quoteLoop_spares _ (.inl further))

/-- A string without quotes spares the bytes in front of the text. -/
theorem parserString_spares (running : reader.endMark = false) :
    reader.Spares reader.parserString := by
  have opened : reader.Spares (reader.startToken .string).take :=
    .of_same (take_front _) (take_error _)
  have further : 0 < (reader.startToken .string).take.offset := by
    have opened : (reader.startToken .string).endMark = false := running
    rw [take_offset opened]
    exact Nat.succ_pos _
  exact opened.trans (stringLoop_spares _ (.inl further) (.inl rfl))

/-! ## Numbers and comments -/

/-- A digit writes nothing in front. -/
theorem digit_spares (reader : Reader) (c : UInt8) : reader.Spares (reader.digit c) := by
  rw [digit]
  split
  · exact .of_same rfl rfl
  · exact .of_same rfl rfl
  · exact .of_same rfl rfl
  · exact .refl reader

/-- A decimal point writes nothing in front. -/
theorem point_spares (reader : Reader) : reader.Spares reader.point := by
  rw [point]
  split
  · exact .of_same rfl rfl
  · exact .of_same rfl rfl
  · exact fail_spares reader
  · exact .refl reader

/-- The loop of a number writes nothing in front. -/
theorem numberLoop_spares (turns : Nat) (reader : Reader) (c : UInt8) :
    reader.Spares (numberLoop turns reader c) := by
  induction turns generalizing reader c with
  | zero => exact .refl reader
  | succ turns inductionHypothesis =>
      rw [numberLoop]
      split
      · exact ((digit_spares reader c).trans (take_spares _)).trans (inductionHypothesis _ _)
      · split
        · exact ((point_spares reader).trans (take_spares _)).trans (inductionHypothesis _ _)
        · exact .of_same rfl rfl

/-- A number writes nothing in front. -/
theorem parserNumber_spares (reader : Reader) (type : TokenType) (bits : UInt64) (neg : Bool) :
    reader.Spares (reader.parserNumber type bits neg) := by
  let opened : Reader := { reader.startToken type with
    token := { (reader.startToken type).token with bits, neg } }
  have taken : reader.Spares opened.take := .of_same (take_front _) (take_error _)
  exact taken.trans (numberLoop_spares _ _ _)

/-- A comment to the end of the line writes nothing in front. -/
theorem lineLoop_spares (turns : Nat) (reader : Reader) :
    reader.Spares (lineLoop turns reader) := by
  induction turns generalizing reader with
  | zero => exact .refl reader
  | succ turns inductionHypothesis =>
      rw [lineLoop]
      split
      · exact (take_spares reader).trans (inductionHypothesis _)
      · exact .refl reader

/-- A comment in marks writes nothing in front. -/
theorem blockLoop_spares (turns : Nat) (reader : Reader) :
    reader.Spares (blockLoop turns reader).1 := by
  induction turns generalizing reader with
  | zero => exact .refl reader
  | succ turns inductionHypothesis =>
      have taken := take_spares reader
      rw [blockLoop]
      split
      · dsimp only
        split
        · exact taken.trans (take_spares _)
        · exact taken.trans (inductionHypothesis _)
      · split
        · exact .refl reader
        · exact taken.trans (inductionHypothesis _)

/-! ## Tokens -/

/-- A token spares the bytes in front, if the loop does behind a comment. -/
theorem nextToken_spares {again : Reader → Reader} (live : reader.Live)
    (spares : ∀ {after : Reader}, after.Live → after.Spares (again after)) :
    reader.Spares (reader.nextToken reader.read again) := by
  unfold nextToken
  dsimp only
  split
  · exact .of_same rfl rfl
  · rename_i nonzero
    have running := running_of_read nonzero
    have taken := take_spares reader
    have opened := take_moves live
    have second := opened.trans (take_moves opened.live)
    have further : 0 < reader.take.offset := by
      rw [take_offset running]
      exact Nat.succ_pos _
    -- A string behind a slash, which is an error.
    have quoted {after : Reader} (moved : reader.take.Moves after) :
        after.Spares after.fail.parserQuoteString := by
      have onward := offset_le_take after.fail
      have offset : after.fail.offset = after.offset := rfl
      have place := moved.offset
      exact (fail_spares after).trans (parserQuoteString_spares (by omega))
    split
    · exact .of_same (take_front _) (take_error _)
    · split
      · split
        · have line := lineLoop_spares (reader.take.left + 1) reader.take.take
          have live := (lineLoop_moves (reader.take.left + 1) second.live).live
          exact ((taken.trans (take_spares _)).trans line).trans (spares live)
        · split
          · have block := (taken.trans (take_spares _)).trans
              (blockLoop_spares (reader.take.left + 1) reader.take.take)
            have moved := (take_moves opened.live).trans
              (blockLoop_moves (reader.take.left + 1) second.live)
            split
            · rename_i after found
              rw [found] at block
              exact block
            · rename_i after found
              rw [found] at block moved
              have failed := fail_moves moved.live
              have live := (parserQuoteString_moves failed.live).live
              exact (block.trans (quoted moved)).trans (spares live)
          · exact taken.trans (quoted (.refl opened.live))
      · split
        · exact parserQuoteString_spares further
        · split
          · exact parserNumber_spares reader _ _ _
          · split
            · exact parserNumber_spares reader _ _ _
            · exact parserString_spares running

/-- The loop over the comments in front of a token spares the bytes in front of the text. -/
theorem nextLoop_spares (turns : Nat) (live : reader.Live) :
    reader.Spares (nextLoop turns reader) := by
  induction turns generalizing reader with
  | zero => exact .refl reader
  | succ turns inductionHypothesis =>
      have skipped := skip_moves live
      have first := skipped.trans (cleared_moves skipped.live)
      have before : reader.Spares reader.skip.cleared :=
        (skip_spares reader).trans (.of_same rfl rfl)
      exact before.trans (nextToken_spares first.live inductionHypothesis)

/-! ## Both sides of the text -/

/-- What a parser does to a reader: it does not go back, does not touch the memory behind the text,
and writes at most the three bytes in front of it, which is an error. -/
structure Advances (reader after : Reader) : Prop extends Moves reader after, Spares reader after

/-- Doing nothing goes forward and spares the bytes in front. -/
theorem Advances.refl (live : reader.Live) : reader.Advances reader := ⟨.refl live, .refl reader⟩

/-- Two steps which go forward and spare the bytes in front do so together. -/
theorem Advances.trans {middle after : Reader} (first : reader.Advances middle)
    (second : middle.Advances after) : reader.Advances after :=
  ⟨first.toMoves.trans second.toMoves, first.toSpares.trans second.toSpares⟩

/-- An error goes forward and spares the bytes in front. -/
theorem fail_advances (live : reader.Live) : reader.Advances reader.fail :=
  ⟨fail_moves live, fail_spares reader⟩

/-- A token is read inside the text, and one which is cut off is an error. -/
theorem next_advances (live : reader.Live) : reader.Advances reader.next :=
  ⟨(next_onward live).sound, nextLoop_spares _ live⟩

end Reader
end SM.Inc
