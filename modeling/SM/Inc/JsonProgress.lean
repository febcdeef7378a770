import SM.Inc.JsonStrings

/-!
# Reading on

What `next` does with any text: an error stays, and the reader moves on or is at its end. The loops
of a token never run out of turns: `quoteLoop_congr` and its like.
-/

namespace SM.Inc

open SM.Utils

namespace Reader

variable {reader : Reader}

/-! ## Errors -/

/-- Skipping blanks leaves the error flag. -/
@[simp] theorem skip_error (reader : Reader) : reader.skip.error = reader.error := by
  rw [skip]
  generalize reader.left + 1 = turns
  induction turns generalizing reader with
  | zero => rfl
  | succ turns inductionHypothesis =>
      rw [skip.loop]
      split
      · rw [inductionHypothesis, take_error]
      · rfl

/-- A digit forgets no error. -/
theorem charToHex_error (v : UInt8) (error : reader.error = true) :
    (reader.charToHex v).2.error = true := by
  unfold charToHex
  dsimp only
  generalize (if 0x80 ≤ v then reader.outside v else if v < 0x66 then table v else 16) = digit
  split
  · rfl
  · exact error

/-- Reading a digit forgets no error. -/
theorem readHex_error (error : reader.error = true) : reader.readHex.2.error = true := by
  rw [readHex]
  simpa using charToHex_error reader.read error

/-- Reading a code forgets no error. -/
theorem readUtf_error (error : reader.error = true) : reader.readUtf.2.error = true := by
  simp only [readUtf]
  exact readHex_error (readHex_error (readHex_error (readHex_error error)))

/-- An escape forgets no error. -/
theorem escapeUtf8_error (escCount : Nat) (error : reader.error = true) :
    (reader.escapeUtf8 escCount).2.error = true := by
  have read := readUtf_error error
  unfold escapeUtf8
  dsimp only
  rw [fillAll_error]
  split
  · rfl
  · exact read

/-- The loop of a quoted string forgets no error. -/
theorem quoteLoop_error (turns : Nat) (escCount : Nat) (c : UInt8) (error : reader.error = true) :
    (quoteLoop turns reader escCount c).error = true := by
  induction turns generalizing reader escCount c with
  | zero => exact error
  | succ turns inductionHypothesis =>
      rw [quoteLoop]
      split
      · rfl
      · split
        · dsimp only
          split
          · exact inductionHypothesis _ _ (escapeUtf8_error _ (by simpa using error))
          · split
            · rfl
            · exact inductionHypothesis _ _ (by simpa using error)
        · split
          · simpa [endString] using error
          · exact inductionHypothesis _ _ (by simpa using error)

/-- The loop of a string without quotes forgets no error. -/
theorem stringLoop_error (turns : Nat) (escCount : Nat) (c : UInt8) (error : reader.error = true) :
    (stringLoop turns reader escCount c).error = true := by
  induction turns generalizing reader escCount c with
  | zero => exact error
  | succ turns inductionHypothesis =>
      rw [stringLoop]
      split
      · rfl
      · split
        · dsimp only
          split
          · exact inductionHypothesis _ _ (escapeUtf8_error _ (by simpa using error))
          · refine inductionHypothesis _ _ ?_
            simp only [take_error, fillEscapeChar_error]
            split
            · rfl
            · simpa using error
        · split
          · exact error
          · exact inductionHypothesis _ _ (by simpa using error)

/-- A digit of a number leaves the error flag. -/
theorem digit_error (c : UInt8) : (reader.digit c).error = reader.error := by
  rw [digit]
  split <;> rfl

/-- A decimal point forgets no error. -/
theorem point_error (error : reader.error = true) : reader.point.error = true := by
  rw [point]
  split
  · exact error
  · exact error
  · rfl
  · exact error

/-- The loop of a number forgets no error. -/
theorem numberLoop_error (turns : Nat) (c : UInt8) (error : reader.error = true) :
    (numberLoop turns reader c).error = true := by
  induction turns generalizing reader c with
  | zero => exact error
  | succ turns inductionHypothesis =>
      rw [numberLoop]
      split
      · exact inductionHypothesis _ (by rw [take_error, digit_error, error])
      · split
        · exact inductionHypothesis _ (by rw [take_error, point_error error])
        · exact error

/-- A comment to the end of the line forgets no error. -/
theorem lineLoop_error (turns : Nat) (error : reader.error = true) :
    (lineLoop turns reader).error = true := by
  induction turns generalizing reader with
  | zero => exact error
  | succ turns inductionHypothesis =>
      rw [lineLoop]
      split
      · exact inductionHypothesis (by simpa using error)
      · exact error

/-- A comment in marks forgets no error. -/
theorem blockLoop_error (turns : Nat) (error : reader.error = true) :
    (blockLoop turns reader).1.error = true := by
  induction turns generalizing reader with
  | zero => exact error
  | succ turns inductionHypothesis =>
      rw [blockLoop]
      split
      · dsimp only
        split
        · simpa using error
        · exact inductionHypothesis (by simpa using error)
      · split
        · exact error
        · exact inductionHypothesis (by simpa using error)

/-- A quoted string forgets no error. -/
theorem parserQuoteString_error (error : reader.error = true) :
    reader.parserQuoteString.error = true :=
  quoteLoop_error _ _ _ (by simpa [startToken] using error)

/-- A token forgets no error, if the loop does not behind a comment. -/
theorem nextToken_error (c : UInt8) {again : Reader → Reader}
    (stays : ∀ reader : Reader, reader.error = true → (again reader).error = true)
    (error : reader.error = true) : (reader.nextToken c again).error = true := by
  unfold nextToken
  dsimp only
  split_ifs
  · exact error
  · simpa [single, startToken] using error
  · exact stays _ (lineLoop_error _ (by simpa using error))
  · have block := @blockLoop_error reader.take.take (reader.take.left + 1) (by simpa using error)
    split
    · rename_i after found
      rw [found] at block
      exact block
    · exact stays _ (parserQuoteString_error rfl)
  · exact parserQuoteString_error rfl
  · exact parserQuoteString_error error
  · exact numberLoop_error _ _ (by simpa [startToken] using error)
  · exact numberLoop_error _ _ (by simpa [startToken] using error)
  · exact stringLoop_error _ _ _ (by simpa [startToken] using error)

/-- No token takes an error back. -/
theorem next_error (error : reader.error = true) : reader.next.error = true := by
  rw [next]
  generalize reader.left + 1 = turns
  induction turns generalizing reader with
  | zero => exact error
  | succ turns inductionHypothesis =>
      rw [nextLoop]
      exact nextToken_error _ (fun _ error => inductionHypothesis error)
        (by simpa [cleared] using error)

/-! ## Progress -/

/-- The mark stands at the end of the text and at a zero in it. -/
structure Live (reader : Reader) : Prop where
  inside : reader.offset ≤ reader.len
  running : reader.endMark = false → reader.offset < reader.len ∧ reader.byte reader.offset ≠ 0
  ended : reader.endMark = true → reader.offset < reader.len → reader.byte reader.offset = 0

/-- A live reader reads zero at its end alone. -/
theorem Live.read_ne_zero (live : reader.Live) : reader.read ≠ 0 ↔ reader.endMark = false := by
  rw [Reader.read]
  split
  · rename_i mark
    simp [mark]
  · rename_i mark
    have open' : reader.endMark = false := by simpa using mark
    simpa [open'] using (live.running open').2

/-- A change of the token or of the flags. -/
theorem Live.of_same {other : Reader} (live : reader.Live) (memory : other.memory = reader.memory)
    (len : other.len = reader.len) (offset : other.offset = reader.offset)
    (mark : other.endMark = reader.endMark) : other.Live := by
  have same (index : Nat) : other.byte index = reader.byte index := by rw [byte, byte, memory]
  refine ⟨?_, ?_, ?_⟩
  · rw [offset, len]
    exact live.inside
  · rw [offset, len, mark, same]
    exact live.running
  · rw [offset, len, mark, same]
    exact live.ended

/-- The reader is still sound and has not gone back, and the memory behind the text is what it
was. -/
structure Moves (reader after : Reader) : Prop where
  live : after.Live
  len : after.len = reader.len
  offset : reader.offset ≤ after.offset
  behind : after.memory.drop reader.len = reader.memory.drop reader.len
  size : after.memory.length = reader.memory.length

/-- A live reader stays live where it is. -/
theorem Moves.refl (live : reader.Live) : reader.Moves reader :=
  ⟨live, rfl, Nat.le_refl _, rfl, rfl⟩

/-- Two steps go forward together. -/
theorem Moves.trans {middle after : Reader} (first : reader.Moves middle)
    (second : middle.Moves after) : reader.Moves after :=
  ⟨second.live, second.len.trans first.len, Nat.le_trans first.offset second.offset, by
    rw [← first.behind, ← first.len, second.behind], second.size.trans first.size⟩

/-- The byte behind the text stays. -/
theorem Moves.byte_len {after : Reader} (advances : reader.Moves after) :
    after.byte after.len = reader.byte reader.len := by
  have same := congrArg List.head? advances.behind
  rw [List.head?_drop, List.head?_drop] at same
  rw [byte, byte, List.getD_eq_getElem?_getD, List.getD_eq_getElem?_getD, advances.len, same]

/-- What is left of the text does not grow. -/
theorem Moves.left {after : Reader} (advances : reader.Moves after) :
    after.left ≤ reader.left := by
  have offset := advances.offset
  rw [Reader.left, Reader.left, advances.len]
  omega

/-- A step which leaves the text and the place goes forward. -/
theorem Moves.of_same {other : Reader} (live : reader.Live)
    (memory : other.memory = reader.memory) (len : other.len = reader.len)
    (offset : other.offset = reader.offset) (mark : other.endMark = reader.endMark) :
    reader.Moves other :=
  ⟨live.of_same memory len offset mark, len, Nat.le_of_eq offset.symm, by rw [memory],
    by rw [memory]⟩

/-- An error does not go back. -/
theorem fail_moves (live : reader.Live) : reader.Moves reader.fail :=
  .of_same live rfl rfl rfl rfl

/-- Taking a character goes forward. -/
theorem take_moves (live : reader.Live) : reader.Moves reader.take := by
  rw [Reader.take]
  split
  · exact .refl live
  · rename_i mark
    have bound := (live.running (by simpa using mark)).1
    refine ⟨⟨by dsimp only; omega, ?_, ?_⟩, rfl, Nat.le_succ _, rfl, rfl⟩
    · dsimp only
      rw [Bool.or_eq_false_iff, decide_eq_false_iff_not, beq_eq_false_iff_ne]
      rintro ⟨more, nonzero⟩
      exact ⟨by omega, nonzero⟩
    · dsimp only
      rw [Bool.or_eq_true, decide_eq_true_eq, beq_iff_eq]
      rintro (last | zero) more
      · omega
      · exact zero

/-- Before the end one character is taken. -/
theorem take_offset (running : reader.endMark = false) :
    reader.take.offset = reader.offset + 1 := by
  rw [Reader.take, running]
  rfl

/-- Before the end less is left behind a character. -/
theorem take_left (live : reader.Live) (running : reader.endMark = false) :
    reader.take.left < reader.left := by
  have bound := (live.running running).1
  have len := (take_moves live).len
  rw [Reader.left, Reader.left, take_offset running, len]
  omega

/-- Writing a byte in front of the place does not go back. -/
theorem fillEscapeChar_moves (live : reader.Live) (count : Nat) (c : UInt8) :
    reader.Moves (reader.fillEscapeChar count c) := by
  rw [fillEscapeChar]
  split_ifs with none inFront
  · exact .refl live
  · have inside := live.inside
    have before : reader.offset - count < reader.offset := by omega
    have same (index : Nat) (large : reader.offset ≤ index) :
        (reader.memory.set (reader.offset - count) c).getD index 0 = reader.byte index := by
      rw [byte, List.getD_eq_getElem?_getD, List.getD_eq_getElem?_getD,
        List.getElem?_set_ne (by omega)]
    refine ⟨⟨inside, ?_, ?_⟩, rfl, Nat.le_refl _, ?_, List.length_set⟩
    · dsimp only [byte]
      rw [same _ (Nat.le_refl _)]
      exact live.running
    · dsimp only [byte]
      rw [same _ (Nat.le_refl _)]
      exact live.ended
    · dsimp only
      rw [List.drop_set, if_pos (by omega)]
  · exact .of_same live rfl rfl rfl rfl

@[simp] theorem fillEscapeChar_endMark (reader : Reader) (count : Nat) (c : UInt8) :
    (reader.fillEscapeChar count c).endMark = reader.endMark := by
  rw [fillEscapeChar]
  split_ifs <;> rfl

/-- Writing bytes in front of the place does not go back. -/
theorem fillAll_moves (live : reader.Live) (count : Nat) (out : Bytes) :
    reader.Moves (reader.fillAll count out) := by
  induction out generalizing reader count with
  | nil => exact .refl live
  | cons c out inductionHypothesis =>
      have first := fillEscapeChar_moves live count c
      exact first.trans (inductionHypothesis first.live _)

/-- Reading a digit goes forward. -/
theorem readHex_moves (live : reader.Live) : reader.Moves reader.readHex.2 := by
  have checked : reader.Moves (reader.charToHex reader.read).2 := by
    unfold charToHex
    dsimp only
    generalize (if 0x80 ≤ reader.read then reader.outside reader.read
      else if reader.read < 0x66 then table reader.read else 16) = digit
    split
    · exact fail_moves live
    · exact .refl live
  rw [readHex]
  exact checked.trans (take_moves checked.live)

/-- Reading a code goes forward. -/
theorem readUtf_moves (live : reader.Live) : reader.Moves reader.readUtf.2 := by
  have first := readHex_moves live
  have second := readHex_moves first.live
  have third := readHex_moves second.live
  have fourth := readHex_moves third.live
  simp only [readUtf]
  exact ((first.trans second).trans third).trans fourth

/-- An escape goes forward. -/
theorem escapeUtf8_moves (live : reader.Live) (escCount : Nat) :
    reader.Moves (reader.escapeUtf8 escCount).2 := by
  have read := readUtf_moves live
  have checked : reader.readUtf.2.Moves
      (if 0x80000 ≤ reader.readUtf.1 ∧ reader.readUtf.1 < 0x110000 then reader.readUtf.2.fail
        else reader.readUtf.2) := by
    split
    · exact fail_moves read.live
    · exact .refl read.live
  have both := read.trans checked
  simp only [escapeUtf8]
  exact both.trans (fillAll_moves both.live _ _)

/-- A character of a string or an escape is written and taken. -/
theorem fill_take_moves (live : reader.Live) (count : Nat) (c : UInt8) :
    reader.Moves (reader.fillEscapeChar count c).take :=
  have filled := fillEscapeChar_moves live count c
  filled.trans (take_moves filled.live)

/-- The end of a string does not go back. -/
theorem endString_moves (live : reader.Live) (escCount : Nat) :
    reader.Moves (reader.endString escCount) :=
  .of_same live rfl rfl rfl rfl

/-- The loop of a quoted string goes forward. -/
theorem quoteLoop_moves (turns escCount : Nat) (c : UInt8) (live : reader.Live) :
    reader.Moves (quoteLoop turns reader escCount c) := by
  induction turns generalizing reader escCount c with
  | zero => exact .refl live
  | succ turns inductionHypothesis =>
      have taken := take_moves live
      rw [quoteLoop]
      split
      · exact fail_moves live
      · split
        · dsimp only
          split
          · have both := taken.trans (take_moves taken.live)
            have escaped := both.trans (escapeUtf8_moves both.live escCount)
            exact escaped.trans (inductionHypothesis _ _ escaped.live)
          · split
            · exact taken.trans (fail_moves taken.live)
            · rename_i letter _
              have filled := taken.trans
                (fill_take_moves taken.live (escCount + 1) letter)
              exact filled.trans (inductionHypothesis _ _ filled.live)
        · split
          · have ended := endString_moves live escCount
            exact ended.trans (take_moves ended.live)
          · have filled := fill_take_moves live escCount c
            exact filled.trans (inductionHypothesis _ _ filled.live)

/-- The loop of a string without quotes goes forward. -/
theorem stringLoop_moves (turns escCount : Nat) (c : UInt8) (live : reader.Live) :
    reader.Moves (stringLoop turns reader escCount c) := by
  induction turns generalizing reader escCount c with
  | zero => exact .refl live
  | succ turns inductionHypothesis =>
      have taken := take_moves live
      rw [stringLoop]
      split
      · exact fail_moves live
      · split
        · dsimp only
          split
          · have both := taken.trans (take_moves taken.live)
            have escaped := both.trans (escapeUtf8_moves both.live escCount)
            exact escaped.trans (inductionHypothesis _ _ escaped.live)
          · have checked : reader.Moves
                (if unescape reader.take.read = none then reader.take.fail else reader.take) := by
              split
              · exact taken.trans (fail_moves taken.live)
              · exact taken
            have filled := checked.trans (fill_take_moves checked.live
              (escCount + 1) ((unescape reader.take.read).getD reader.take.read))
            exact filled.trans (inductionHypothesis _ _ filled.live)
        · split
          · exact endString_moves live escCount
          · have filled := fill_take_moves live escCount c
            exact filled.trans (inductionHypothesis _ _ filled.live)

/-- A digit of a number does not go back. -/
theorem digit_moves (live : reader.Live) (c : UInt8) : reader.Moves (reader.digit c) := by
  rw [digit]
  split
  · exact .of_same live rfl rfl rfl rfl
  · exact .of_same live rfl rfl rfl rfl
  · exact .of_same live rfl rfl rfl rfl
  · exact .refl live

/-- A decimal point does not go back. -/
theorem point_moves (live : reader.Live) : reader.Moves reader.point := by
  rw [point]
  split
  · exact .of_same live rfl rfl rfl rfl
  · exact .of_same live rfl rfl rfl rfl
  · exact fail_moves live
  · exact .refl live

/-- The loop of a number goes forward. -/
theorem numberLoop_moves (turns : Nat) (c : UInt8) (live : reader.Live) :
    reader.Moves (numberLoop turns reader c) := by
  induction turns generalizing reader c with
  | zero => exact .refl live
  | succ turns inductionHypothesis =>
      rw [numberLoop]
      split
      · have digit := digit_moves live c
        have taken := digit.trans (take_moves digit.live)
        exact taken.trans (inductionHypothesis _ taken.live)
      · split
        · have point := point_moves live
          have taken := point.trans (take_moves point.live)
          exact taken.trans (inductionHypothesis _ taken.live)
        · exact endString_moves live 0

/-- A comment to the end of the line goes forward. -/
theorem lineLoop_moves (turns : Nat) (live : reader.Live) :
    reader.Moves (lineLoop turns reader) := by
  induction turns generalizing reader with
  | zero => exact .refl live
  | succ turns inductionHypothesis =>
      have taken := take_moves live
      rw [lineLoop]
      split
      · exact taken.trans (inductionHypothesis taken.live)
      · exact .refl live

/-- A comment in marks goes forward. -/
theorem blockLoop_moves (turns : Nat) (live : reader.Live) :
    reader.Moves (blockLoop turns reader).1 := by
  induction turns generalizing reader with
  | zero => exact .refl live
  | succ turns inductionHypothesis =>
      have taken := take_moves live
      rw [blockLoop]
      split
      · dsimp only
        split
        · exact taken.trans (take_moves taken.live)
        · exact taken.trans (inductionHypothesis taken.live)
      · split
        · exact .refl live
        · exact taken.trans (inductionHypothesis taken.live)

/-- Skipping blanks goes forward. -/
theorem skip_moves (live : reader.Live) : reader.Moves reader.skip := by
  rw [skip]
  generalize reader.left + 1 = turns
  induction turns generalizing reader with
  | zero => exact .refl live
  | succ turns inductionHypothesis =>
      have taken := take_moves live
      rw [skip.loop]
      split
      · exact taken.trans (inductionHypothesis taken.live)
      · exact .refl live

/-! ## Enough turns -/

/-- A character of a string is taken. -/
theorem fill_take_left (live : reader.Live) (running : reader.endMark = false) (count : Nat)
    (c : UInt8) : (reader.fillEscapeChar count c).take.left < reader.left := by
  have filled := fillEscapeChar_moves live count c
  have shorter := take_left filled.live (by rw [fillEscapeChar_endMark, running])
  exact Nat.lt_of_lt_of_le shorter filled.left

/-- Each turn of a string takes a character, so there is no need for more turns than characters. -/
theorem quoteLoop_congr {turns other : Nat} (escCount : Nat) (live : reader.Live)
    (enough : reader.left < turns) (enough' : reader.left < other) :
    quoteLoop turns reader escCount reader.read = quoteLoop other reader escCount reader.read := by
  induction turns generalizing reader escCount other with
  | zero => exact absurd enough (Nat.not_lt_zero _)
  | succ turns inductionHypothesis =>
      obtain ⟨other, rfl⟩ : ∃ less, other = less + 1 := ⟨other - 1, by omega⟩
      have taken := take_moves live
      have further {after : Reader} (escCount : Nat) (advances : reader.Moves after)
          (shorter : after.left < reader.left) :
          quoteLoop turns after escCount after.read = quoteLoop other after escCount after.read :=
        inductionHypothesis escCount advances.live (by omega) (by omega)
      rw [quoteLoop, quoteLoop]
      split
      · rfl
      · rename_i filled
        have running := live.read_ne_zero.mp fun zero => filled (.inl zero)
        have shorter := take_left live running
        split
        · dsimp only
          split
          · have second := take_moves taken.live
            have escaped := second.trans (escapeUtf8_moves second.live escCount)
            exact further _ (taken.trans escaped) (Nat.lt_of_le_of_lt escaped.left shorter)
          · split
            · rfl
            · rename_i letter _
              have filled := fill_take_moves taken.live (escCount + 1) letter
              exact further _ (taken.trans filled) (Nat.lt_of_le_of_lt filled.left shorter)
        · split
          · rfl
          · exact further _ (fill_take_moves live _ _)
              (fill_take_left live running _ _)

/-- Behind an escape in a string without quotes the letter of the escape needs a turn of its own. -/
theorem stringLoop_congr {turns other : Nat} (escCount : Nat) (c : UInt8) (live : reader.Live)
    (enough : c = reader.read ∧ 2 * reader.left < turns ∧ 2 * reader.left < other ∨
      c = 0x75 ∧ 2 * reader.left + 1 < turns ∧ 2 * reader.left + 1 < other) :
    stringLoop turns reader escCount c = stringLoop other reader escCount c := by
  induction turns generalizing reader escCount c other with
  | zero => omega
  | succ turns inductionHypothesis =>
      obtain ⟨other, rfl⟩ : ∃ less, other = less + 1 := ⟨other - 1, by omega⟩
      have taken := take_moves live
      have filled := fill_take_moves live escCount c
      rcases enough with ⟨rfl, enough, enough'⟩ | ⟨rfl, enough, enough'⟩
      · rw [stringLoop, stringLoop]
        split
        · rfl
        · rename_i nonzero
          have running := live.read_ne_zero.mp nonzero
          have shorter := take_left live running
          split
          · dsimp only
            split
            · rename_i letter
              have second := take_moves taken.live
              have escaped := second.trans (escapeUtf8_moves second.live escCount)
              have left := escaped.left
              exact inductionHypothesis _ _ escaped.live
                (.inr ⟨letter, by omega, by omega⟩)
            · have checked : reader.take.Moves
                  (if unescape reader.take.read = none then reader.take.fail else reader.take) := by
                split
                · exact fail_moves taken.live
                · exact .refl taken.live
              have both := checked.trans (fill_take_moves checked.live (escCount + 1)
                ((unescape reader.take.read).getD reader.take.read))
              have left := both.left
              exact inductionHypothesis _ _ both.live
                (.inl ⟨rfl, by omega, by omega⟩)
          · split
            · rfl
            · have less := fill_take_left live running escCount reader.read
              exact inductionHypothesis _ _ filled.live
                (.inl ⟨rfl, by omega, by omega⟩)
      · have left := filled.left
        exact inductionHypothesis _ _ filled.live
          (.inl ⟨rfl, by omega, by omega⟩)

/-- More turns than characters left make no difference for a number. -/
theorem numberLoop_congr {turns other : Nat} (live : reader.Live) (enough : reader.left < turns)
    (enough' : reader.left < other) :
    numberLoop turns reader reader.read = numberLoop other reader reader.read := by
  induction turns generalizing reader other with
  | zero => exact absurd enough (Nat.not_lt_zero _)
  | succ turns inductionHypothesis =>
      obtain ⟨other, rfl⟩ : ∃ less, other = less + 1 := ⟨other - 1, by omega⟩
      have further {after : Reader} (advances : reader.Moves after)
          (running : after.endMark = false) :
          numberLoop turns after.take after.take.read =
            numberLoop other after.take after.take.read := by
        have shorter := take_left advances.live running
        have left := advances.left
        exact inductionHypothesis (take_moves advances.live).live (by omega) (by omega)
      rw [numberLoop, numberLoop]
      split
      · rename_i digits
        have running := live.read_ne_zero.mp fun zero => by simp [zero, isDigit] at digits
        have mark : (reader.digit reader.read).endMark = reader.endMark := by
          rw [digit]
          split <;> rfl
        exact further (digit_moves live _) (mark.trans running)
      · split
        · rename_i dot
          have running := live.read_ne_zero.mp (by rw [dot]; decide)
          have mark : reader.point.endMark = reader.endMark := by
            rw [point]
            split <;> rfl
          exact further (point_moves live) (mark.trans running)
        · rfl

/-- More turns than characters left make no difference for a comment to the end of the line. -/
theorem lineLoop_congr {turns other : Nat} (live : reader.Live) (enough : reader.left < turns)
    (enough' : reader.left < other) : lineLoop turns reader = lineLoop other reader := by
  induction turns generalizing reader other with
  | zero => exact absurd enough (Nat.not_lt_zero _)
  | succ turns inductionHypothesis =>
      obtain ⟨other, rfl⟩ : ∃ less, other = less + 1 := ⟨other - 1, by omega⟩
      rw [lineLoop, lineLoop]
      split
      · rename_i more
        have shorter := take_left live (live.read_ne_zero.mp more.2)
        exact inductionHypothesis (take_moves live).live (by omega) (by omega)
      · rfl

/-- More turns than characters left make no difference for a comment in marks. -/
theorem blockLoop_congr {turns other : Nat} (live : reader.Live) (enough : reader.left < turns)
    (enough' : reader.left < other) : blockLoop turns reader = blockLoop other reader := by
  induction turns generalizing reader other with
  | zero => exact absurd enough (Nat.not_lt_zero _)
  | succ turns inductionHypothesis =>
      obtain ⟨other, rfl⟩ : ∃ less, other = less + 1 := ⟨other - 1, by omega⟩
      have further (some : reader.read ≠ 0) :
          blockLoop turns reader.take = blockLoop other reader.take := by
        have shorter := take_left live (live.read_ne_zero.mp some)
        exact inductionHypothesis (take_moves live).live (by omega) (by omega)
      rw [blockLoop, blockLoop]
      split
      · rename_i star
        dsimp only
        split
        · rfl
        · exact further (by rw [star]; decide)
      · split
        · rfl
        · rename_i nonzero
          exact further nonzero

/-- More turns than characters left make no difference for blanks. -/
theorem skip_congr {turns other : Nat} (live : reader.Live) (enough : reader.left < turns)
    (enough' : reader.left < other) : skip.loop turns reader = skip.loop other reader := by
  induction turns generalizing reader other with
  | zero => exact absurd enough (Nat.not_lt_zero _)
  | succ turns inductionHypothesis =>
      obtain ⟨other, rfl⟩ : ∃ less, other = less + 1 := ⟨other - 1, by omega⟩
      rw [skip.loop, skip.loop]
      split
      · rename_i blank
        have running := live.read_ne_zero.mp fun zero => by simp [zero, isBlank] at blank
        have shorter := take_left live running
        exact inductionHypothesis (take_moves live).live (by omega) (by omega)
      · rfl

/-! ## The type of a token -/

/-- A digit leaves the token. -/
theorem charToHex_token (reader : Reader) (v : UInt8) :
    (reader.charToHex v).2.token = reader.token := by
  unfold charToHex
  dsimp only
  generalize (if 0x80 ≤ v then reader.outside v else if v < 0x66 then table v else 16) = digit
  split <;> rfl

/-- Reading a digit leaves the token. -/
theorem readHex_token (reader : Reader) : reader.readHex.2.token = reader.token := by
  rw [readHex]
  simpa using charToHex_token reader reader.read

/-- An error leaves the token. -/
theorem fail_token (reader : Reader) : reader.fail.token = reader.token := rfl

/-- An escape leaves the token. -/
theorem escapeUtf8_token (reader : Reader) (escCount : Nat) :
    (reader.escapeUtf8 escCount).2.token = reader.token := by
  have read : reader.readUtf.2.token = reader.token := by
    simp only [readUtf]
    rw [readHex_token, readHex_token, readHex_token, readHex_token]
  simp only [escapeUtf8, fillAll_token]
  split
  · rw [fail_token, read]
  · exact read

/-- The loop of a quoted string leaves the type of the token. -/
theorem quoteLoop_type (turns : Nat) (reader : Reader) (escCount : Nat) (c : UInt8) :
    (quoteLoop turns reader escCount c).token.type = reader.token.type := by
  induction turns generalizing reader escCount c with
  | zero => rfl
  | succ turns inductionHypothesis =>
      rw [quoteLoop]
      split
      · rfl
      · split
        · dsimp only
          split
          · rw [inductionHypothesis, escapeUtf8_token, take_token, take_token]
          · split
            · rw [fail, take_token]
            · rw [inductionHypothesis, take_token, fillEscapeChar_token, take_token]
        · split
          · rw [take_token, endString]
          · rw [inductionHypothesis, take_token, fillEscapeChar_token]

/-- The loop of a string without quotes leaves the type of the token. -/
theorem stringLoop_type (turns : Nat) (reader : Reader) (escCount : Nat) (c : UInt8) :
    (stringLoop turns reader escCount c).token.type = reader.token.type := by
  induction turns generalizing reader escCount c with
  | zero => rfl
  | succ turns inductionHypothesis =>
      rw [stringLoop]
      split
      · rfl
      · split
        · dsimp only
          split
          · rw [inductionHypothesis, escapeUtf8_token, take_token, take_token]
          · rw [inductionHypothesis, take_token, fillEscapeChar_token]
            split
            · rw [fail, take_token]
            · rw [take_token]
        · split
          · rfl
          · rw [inductionHypothesis, take_token, fillEscapeChar_token]

/-- A number does not end the text. -/
theorem numberLoop_type (turns : Nat) (reader : Reader) (c : UInt8)
    (number : reader.token.type ≠ .end') : (numberLoop turns reader c).token.type ≠ .end' := by
  induction turns generalizing reader c with
  | zero => exact number
  | succ turns inductionHypothesis =>
      rw [numberLoop]
      split
      · refine inductionHypothesis _ _ ?_
        rw [take_token, digit]
        split <;> exact number
      · split
        · refine inductionHypothesis _ _ ?_
          rw [take_token, point]
          split
          · exact TokenType.noConfusion
          · exact TokenType.noConfusion
          · exact number
          · exact number
        · exact number

/-- A comment to the end of the line leaves the token. -/
theorem lineLoop_token (turns : Nat) (reader : Reader) :
    (lineLoop turns reader).token = reader.token := by
  induction turns generalizing reader with
  | zero => rfl
  | succ turns inductionHypothesis =>
      rw [lineLoop]
      split
      · rw [inductionHypothesis, take_token]
      · rfl

/-- A comment in marks leaves the token. -/
theorem blockLoop_token (turns : Nat) (reader : Reader) :
    (blockLoop turns reader).1.token = reader.token := by
  induction turns generalizing reader with
  | zero => rfl
  | succ turns inductionHypothesis =>
      rw [blockLoop]
      split
      · dsimp only
        split
        · rw [take_token, take_token]
        · rw [inductionHypothesis, take_token]
      · split
        · rfl
        · rw [inductionHypothesis, take_token]

/-! ## The next token -/

/-- The end of the text is reached, and the token stands there. -/
def Ended (reader : Reader) : Prop := reader.read = 0 ∧ reader.token.str = reader.offset

/-- What a call of `next` has done. A reader which was at its end before may have an older token. -/
structure Onward (reader after : Reader) : Prop where
  sound : reader.Moves after
  moves : after.left < reader.left ∨ after.token.type = .end' ∧ after.Ended
  stops : after.token.type = .end' → after.Ended ∨ reader.token.type = .end'

/-- A step forward to a token which is not the end comes onward. -/
theorem Onward.of_moves {after : Reader} (advances : reader.Moves after)
    (moves : after.left < reader.left) (type : after.token.type ≠ .end') : reader.Onward after :=
  ⟨advances, .inl moves, fun ended => absurd ended type⟩

/-- Starting a token does not go back. -/
theorem startToken_moves (live : reader.Live) (type : TokenType) :
    reader.Moves (reader.startToken type) :=
  .of_same live rfl rfl rfl rfl

/-- A quoted string goes forward behind its quote. -/
theorem parserQuoteString_moves (live : reader.Live) :
    reader.take.Moves reader.parserQuoteString := by
  have started := startToken_moves (take_moves live).live .string
  exact started.trans (quoteLoop_moves _ _ _ started.live)

/-- A quoted string is a string. -/
theorem parserQuoteString_type (reader : Reader) :
    reader.parserQuoteString.token.type = .string := by
  rw [parserQuoteString, quoteLoop_type]
  rfl

/-- A string without quotes comes onward. -/
theorem parserString_onward (live : reader.Live) (running : reader.endMark = false) :
    reader.Onward reader.parserString := by
  have started := startToken_moves live .string
  have taken := started.trans (take_moves started.live)
  have opened : (reader.startToken .string).endMark = false := running
  have read := stringLoop_moves (2 * (reader.startToken .string).take.left + 1) 0
    (reader.startToken .string).take.read taken.live
  have shorter : (reader.startToken .string).take.left < reader.left :=
    take_left started.live running
  have left := read.left
  refine .of_moves (taken.trans read) (Nat.lt_of_le_of_lt left shorter) ?_
  rw [parserString, stringLoop_type, take_token]
  exact TokenType.noConfusion

/-- A number comes onward. -/
theorem parserNumber_onward (live : reader.Live) (running : reader.endMark = false)
    {type : TokenType} (number : type ≠ .end') (bits : UInt64) (neg : Bool) :
    reader.Onward (reader.parserNumber type bits neg) := by
  let opened : Reader := { reader.startToken type with
    token := { (reader.startToken type).token with bits, neg } }
  have started : reader.Moves opened := .of_same live rfl rfl rfl rfl
  have taken := started.trans (take_moves started.live)
  have read := numberLoop_moves (opened.take.left + 1) opened.take.read taken.live
  have shorter : opened.take.left < reader.left := take_left started.live running
  refine .of_moves (taken.trans read) (Nat.lt_of_le_of_lt read.left shorter) ?_
  refine numberLoop_type _ _ _ ?_
  rw [take_token]
  exact number

/-- A token comes onward, if the loop does behind a comment. -/
theorem nextToken_onward {again : Reader → Reader} (live : reader.Live)
    (onward : ∀ {after : Reader}, after.Live → after.left < reader.left → after.Onward (again after)) :
    reader.Onward (reader.nextToken reader.read again) := by
  unfold nextToken
  dsimp only
  split
  · rename_i zero
    exact ⟨.of_same live rfl rfl rfl rfl, .inr ⟨rfl, zero, rfl⟩, fun _ => .inl ⟨zero, rfl⟩⟩
  · rename_i nonzero
    have running := live.read_ne_zero.mp nonzero
    have taken := take_moves live
    have shorter := take_left live running
    -- A token behind a comment.
    have later {after : Reader} (advances : reader.take.Moves after)
        (type : after.token.type = .end' → reader.token.type = .end') :
        reader.Onward (again after) := by
      have left := advances.left
      have next := onward advances.live (by omega)
      have nextLeft := next.sound.left
      exact ⟨(taken.trans advances).trans next.sound, .inl (by omega),
        fun ended => (next.stops ended).imp_right type⟩
    -- A string in quotes.
    have quoted {after : Reader} (advances : reader.Moves after)
        (short : after.take.left < reader.left) :
        reader.Onward after.parserQuoteString := by
      have read := parserQuoteString_moves advances.live
      refine .of_moves ((advances.trans (take_moves advances.live)).trans read)
        (Nat.lt_of_le_of_lt read.left short) ?_
      rw [parserQuoteString_type]
      exact TokenType.noConfusion
    have failed := taken.trans (fail_moves taken.live)
    have failedTake := take_moves failed.live
    have second := take_moves taken.live
    split
    · have single : reader.Moves (reader.single .ctrl) := .of_same live rfl rfl rfl rfl
      refine .of_moves (single.trans (take_moves single.live))
        (take_left single.live running) ?_
      rw [take_token]
      exact TokenType.noConfusion
    · split
      · split
        · refine later (second.trans (lineLoop_moves _ second.live)) ?_
          rw [lineLoop_token, take_token, take_token]
          exact id
        · split
          · have block := second.trans
              (blockLoop_moves (reader.take.left + 1) second.live)
            have token := blockLoop_token (reader.take.left + 1) reader.take.take
            split
            · rename_i after found
              rw [found] at block token
              refine ⟨taken.trans block, .inl (Nat.lt_of_le_of_lt block.left shorter), fun ended => ?_⟩
              rw [token, take_token, take_token] at ended
              exact .inr ended
            · rename_i after found
              rw [found] at block
              have failed := block.trans (fail_moves block.live)
              have read := parserQuoteString_moves failed.live
              refine later ((failed.trans (take_moves failed.live)).trans read) fun ended => ?_
              rw [parserQuoteString_type] at ended
              exact absurd ended TokenType.noConfusion
          · exact quoted failed (Nat.lt_of_le_of_lt failedTake.left shorter)
      · split
        · exact quoted (.refl live) shorter
        · split
          · exact parserNumber_onward live running TokenType.noConfusion _ _
          · split
            · exact parserNumber_onward live running TokenType.noConfusion _ _
            · exact parserString_onward live running

/-- Only behind a comment is there a second token. -/
theorem nextToken_congr {again other : Reader → Reader} (live : reader.Live)
    (same : ∀ {after : Reader}, after.Live → after.left < reader.left →
      again after = other after) :
    reader.nextToken reader.read again = reader.nextToken reader.read other := by
  unfold nextToken
  dsimp only
  split
  · rfl
  · rename_i nonzero
    have running := live.read_ne_zero.mp nonzero
    have taken := take_moves live
    have shorter := take_left live running
    have second := take_moves taken.live
    split
    · rfl
    · split
      · split
        · have line := second.trans (lineLoop_moves (reader.take.left + 1) second.live)
          exact same line.live (Nat.lt_of_le_of_lt line.left shorter)
        · split
          · have block := second.trans (blockLoop_moves (reader.take.left + 1) second.live)
            split
            · rfl
            · rename_i after found
              rw [found] at block
              have failed := block.trans (fail_moves block.live)
              have read := (failed.trans (take_moves failed.live)).trans
                (parserQuoteString_moves failed.live)
              exact same read.live (Nat.lt_of_le_of_lt read.left shorter)
          · rfl
      · rfl

/-- Clearing the token does not go back. -/
theorem cleared_moves (live : reader.Live) : reader.Moves reader.cleared :=
  .of_same live rfl rfl rfl rfl

/-- Skipping blanks leaves the token. -/
theorem skip_token (reader : Reader) : reader.skip.token = reader.token := by
  rw [skip]
  generalize reader.left + 1 = turns
  induction turns generalizing reader with
  | zero => rfl
  | succ turns inductionHypothesis =>
      rw [skip.loop]
      split
      · rw [inductionHypothesis, take_token]
      · rfl

/-- The loop over the comments comes onward, or to the end of the text. -/
theorem nextLoop_onward {turns : Nat} (live : reader.Live) (enough : reader.left < turns) :
    reader.Onward (nextLoop turns reader) := by
  induction turns generalizing reader with
  | zero => exact absurd enough (Nat.not_lt_zero _)
  | succ turns inductionHypothesis =>
      have skipped := skip_moves live
      have first := skipped.trans (cleared_moves skipped.live)
      have left := first.left
      have onward := nextToken_onward first.live fun {after} sound shorter =>
        inductionHypothesis sound (by omega)
      refine ⟨first.trans onward.sound, ?_, ?_⟩
      · exact onward.moves.imp_left fun shorter => Nat.lt_of_lt_of_le shorter left
      · intro ended
        refine (onward.stops ended).imp_right fun type => ?_
        rw [← type, cleared, skip_token]

/-- There are never more comments in front of a token than characters. -/
theorem nextLoop_congr {turns other : Nat} (live : reader.Live) (enough : reader.left < turns)
    (enough' : reader.left < other) : nextLoop turns reader = nextLoop other reader := by
  induction turns generalizing reader other with
  | zero => exact absurd enough (Nat.not_lt_zero _)
  | succ turns inductionHypothesis =>
      obtain ⟨other, rfl⟩ : ∃ less, other = less + 1 := ⟨other - 1, by omega⟩
      have skipped := skip_moves live
      have first := skipped.trans (cleared_moves skipped.live)
      have left := first.left
      rw [nextLoop, nextLoop]
      exact nextToken_congr first.live fun sound shorter =>
        inductionHypothesis sound (by omega) (by omega)

/-- The next token comes onward, or is the end of the text. -/
theorem next_onward (live : reader.Live) : reader.Onward reader.next :=
  nextLoop_onward live (Nat.lt_succ_self _)

/-- At the end of the text the next token is the end. -/
theorem next_of_read_zero (zero : reader.read = 0) : reader.next = reader.cleared.single .end' := by
  have skipped : reader.skip = reader := by
    rw [skip, skip.loop, zero]
    rfl
  have read : reader.cleared.read = 0 := zero
  rw [next, nextLoop, skipped, nextToken, if_pos read]

/-- A sound reader whose token says where it is, of a text with no comma right behind it. -/
structure Settled (reader : Reader) : Prop where
  live : reader.Live
  quiet : reader.byte reader.len ≠ 0x2c
  stopped : reader.token.type = .end' → reader.Ended

/-- A settled reader is settled at its next token. -/
theorem Settled.next (settled : reader.Settled) : reader.next.Settled := by
  have onward := next_onward settled.live
  have quiet : reader.next.byte reader.next.len ≠ 0x2c := by
    rw [onward.sound.byte_len]
    exact settled.quiet
  refine ⟨onward.sound.live, quiet, fun ended => ?_⟩
  rcases onward.stops ended with done | before
  · exact done
  · have zero := (settled.stopped before).1
    rw [next_of_read_zero zero]
    exact ⟨zero, rfl⟩

/-- How many tokens can still come. -/
def pending (reader : Reader) : Nat := if reader.token.type = .end' then 0 else reader.left + 1

/-- With the next token no more is pending than was left. -/
theorem next_pending_le_left (live : reader.Live) : reader.next.pending ≤ reader.left := by
  rw [pending]
  split
  · exact Nat.zero_le _
  · rename_i more
    exact (next_onward live).moves.resolve_right fun ended => more ended.1

/-- Before the end less is pending with the next token. -/
theorem Settled.next_pending_lt (settled : reader.Settled) (more : reader.token.type ≠ .end') :
    reader.next.pending < reader.pending := by
  have less := next_pending_le_left settled.live
  have before : reader.pending = reader.left + 1 := if_neg more
  omega

/-- With the next token no more is pending. -/
theorem Settled.next_pending_le (settled : reader.Settled) :
    reader.next.pending ≤ reader.pending := by
  by_cases ended : reader.token.type = .end'
  · rw [next_of_read_zero (settled.stopped ended).1]
    exact Nat.zero_le _
  · exact Nat.le_of_lt (settled.next_pending_lt ended)

/-- At its end the reader does not see a comma. -/
theorem Settled.first_ne (settled : reader.Settled) (ended : reader.token.type = .end') :
    reader.first ≠ 0x2c := by
  obtain ⟨zero, place⟩ := settled.stopped ended
  have live := settled.live
  rw [first, place]
  by_cases mark : reader.endMark = true
  · rcases Nat.lt_or_ge reader.offset reader.len with before | behind
    · rw [live.ended mark before]
      decide
    · have last : reader.offset = reader.len := Nat.le_antisymm live.inside behind
      rw [last]
      exact settled.quiet
  · have running : reader.endMark = false := by simpa using mark
    exact absurd (live.read_ne_zero.mpr running) (not_not_intro zero)

end Reader
end SM.Inc
