import Mathlib.Tactic.ByContra
import Mathlib.Tactic.SplitIfs
import SM.Inc.JsonReader
import SM.Inc.StringStream

/-!
# Strings of what was written

The loop of `parser_quote_string` on a string which `write_str` has written. Its unescaping in place
gives the text which `readBack` gives without a buffer: `quoteLoop_spec`.
-/

namespace SM.Inc

open SM.Utils StringStream

namespace Reader

variable {reader : Reader} {rest done : Bytes} {c x : UInt8} {esc : Nat}

/-! ## What is left of the text -/

/-- The text is read up to the given rest, which has no zero. -/
structure At (reader : Reader) (rest : Bytes) : Prop where
  ahead : (reader.memory.take reader.len).drop reader.offset = rest
  inside : reader.len ≤ reader.memory.length
  filled : 0 < reader.len
  clean : 0 ∉ rest
  mark : reader.endMark = rest.isEmpty

/-- What is left is the text ahead. -/
theorem At.left (stands : reader.At rest) : reader.left = rest.length := by
  have size := congrArg List.length stands.ahead
  have inside := stands.inside
  rw [List.length_drop, List.length_take] at size
  rw [Reader.left]
  omega

/-- Where text is ahead the place is inside of the text. -/
theorem At.offset_lt (stands : reader.At (c :: rest)) : reader.offset < reader.len := by
  have size := stands.left
  rw [Reader.left, List.length_cons] at size
  omega

/-- The byte at the place is the first one ahead. -/
theorem At.byte_eq (stands : reader.At (c :: rest)) : reader.byte reader.offset = c := by
  have bound := stands.offset_lt
  have found : ((reader.memory.take reader.len).drop reader.offset)[0]? = some c := by
    rw [stands.ahead]
    rfl
  rw [List.getElem?_drop, Nat.add_zero, List.getElem?_take_of_lt bound] at found
  rw [byte, List.getD_eq_getElem?_getD, found]
  rfl

/-- The first byte ahead is read. -/
theorem At.read_cons (stands : reader.At (c :: rest)) : reader.read = c := by
  rw [Reader.read, stands.mark]
  exact stands.byte_eq

/-- Zero is read where nothing is ahead. -/
theorem At.read_nil (stands : reader.At []) : reader.read = 0 := by
  rw [Reader.read, stands.mark]
  rfl

/-- The text ahead has no zero. -/
theorem At.nonzero (stands : reader.At (c :: rest)) : c ≠ 0 := by
  rintro rfl
  exact stands.clean List.mem_cons_self

/-- One character is taken. -/
theorem At.take_eq (stands : reader.At (c :: rest)) :
    reader.take = { reader with offset := reader.offset + 1, endMark := rest.isEmpty } := by
  have size := stands.left
  have bound := stands.offset_lt
  have filled := stands.filled
  have inside := stands.inside
  have running : reader.endMark = false := stands.mark
  rw [Reader.left, List.length_cons] at size
  rw [Reader.take, running]
  simp only [Bool.false_eq_true, if_false]
  congr 1
  cases rest with
  | nil =>
      rw [List.length_nil] at size
      simp only [List.isEmpty_nil, Bool.or_eq_true, decide_eq_true_eq]
      exact .inl ⟨filled, by omega⟩
  | cons d rest =>
      rw [List.length_cons] at size
      have dropped := congrArg (List.drop 1) stands.ahead
      rw [List.drop_drop, List.drop_succ_cons, List.drop_zero] at dropped
      have found : ((reader.memory.take reader.len).drop (reader.offset + 1))[0]? = some d := by
        rw [dropped]
        rfl
      rw [List.getElem?_drop, Nat.add_zero, List.getElem?_take_of_lt (by omega)] at found
      have value : reader.byte (reader.offset + 1) = d := by
        rw [byte, List.getD_eq_getElem?_getD, found]
        rfl
      have nonzero : d ≠ 0 := by
        rintro rfl
        exact stands.clean (List.mem_cons_of_mem _ List.mem_cons_self)
      have more : ¬ (0 < reader.len ∧ reader.len ≤ reader.offset + 1) := by omega
      simp [value, nonzero, more]

/-- Taking a character leaves what follows it. -/
theorem At.take (stands : reader.At (c :: rest)) : reader.take.At rest := by
  have dropped := congrArg (List.drop 1) stands.ahead
  rw [List.drop_drop, List.drop_succ_cons, List.drop_zero] at dropped
  rw [stands.take_eq]
  exact ⟨dropped, stands.inside, stands.filled,
    fun member => stands.clean (List.mem_cons_of_mem _ member), rfl⟩

/-- A change of the token or of the flags. -/
theorem At.of_same {other : Reader} (stands : reader.At rest) (memory : other.memory = reader.memory)
    (len : other.len = reader.len) (offset : other.offset = reader.offset)
    (mark : other.endMark = reader.endMark) : other.At rest := by
  refine ⟨?_, ?_, ?_, stands.clean, ?_⟩
  · rw [memory, len, offset]
    exact stands.ahead
  · rw [memory, len]
    exact stands.inside
  · rw [len]
    exact stands.filled
  · rw [mark]
    exact stands.mark

/-- Nothing is skipped where no blank is ahead. -/
theorem At.skip (stands : reader.At (c :: rest)) (filled : isBlank c = false) :
    reader.skip = reader := by
  rw [Reader.skip, skip.loop, stands.read_cons, filled]
  rfl

/-- Nothing is skipped where nothing is ahead. -/
theorem At.skip_nil (stands : reader.At []) : reader.skip = reader := by
  rw [Reader.skip, skip.loop, stands.read_nil]
  rfl

/-! ## Writing in place -/

/-- The characters of the token are done, and its escapes have saved some. -/
structure Holds (reader : Reader) (done : Bytes) (esc : Nat) : Prop where
  place : reader.token.str + done.length + esc = reader.offset
  text : (reader.memory.drop reader.token.str).take done.length = done

/-- Writing a byte leaves the token. -/
@[simp] theorem fillEscapeChar_token (reader : Reader) (esc : Nat) (c : UInt8) :
    (reader.fillEscapeChar esc c).token = reader.token := by
  rw [fillEscapeChar]
  split_ifs <;> rfl

/-- Writing a byte leaves the place. -/
@[simp] theorem fillEscapeChar_offset (reader : Reader) (esc : Nat) (c : UInt8) :
    (reader.fillEscapeChar esc c).offset = reader.offset := by
  rw [fillEscapeChar]
  split_ifs <;> rfl

/-- Writing a byte leaves the error flag. -/
@[simp] theorem fillEscapeChar_error (reader : Reader) (esc : Nat) (c : UInt8) :
    (reader.fillEscapeChar esc c).error = reader.error := by
  rw [fillEscapeChar]
  split_ifs <;> rfl

/-- Writing a byte keeps the length of the memory. -/
@[simp] theorem length_fillEscapeChar (reader : Reader) (esc : Nat) (c : UInt8) :
    (reader.fillEscapeChar esc c).memory.length = reader.memory.length := by
  rw [fillEscapeChar]
  split_ifs
  · rfl
  · exact List.length_set
  · rfl

/-- A byte which is written behind the place leaves what is ahead. -/
theorem At.fill (stands : reader.At rest) (esc : Nat) (c : UInt8) (inside : esc ≤ reader.offset) :
    (reader.fillEscapeChar esc c).At rest := by
  rw [fillEscapeChar]
  split
  · exact stands
  · rename_i some
    refine ⟨?_, ?_, stands.filled, stands.clean, stands.mark⟩
    · have before : reader.offset - esc < reader.offset := by omega
      dsimp only
      rw [List.take_set, List.drop_set_of_lt before, stands.ahead]
    · rw [List.length_set]
      exact stands.inside

/-- A character is written behind what is done, or stands there already. -/
theorem Holds.fill (holds : reader.Holds done esc) (c : UInt8) (free : 0 < esc)
    (stands : reader.offset ≤ reader.memory.length) :
    (reader.fillEscapeChar esc c).Holds (done ++ [c]) (esc - 1) := by
  have place := holds.place
  have index : reader.offset - esc = reader.token.str + done.length := by omega
  rw [fillEscapeChar, if_neg (by omega), if_pos (by omega)]
  refine ⟨?_, ?_⟩
  · simp only [List.length_append, List.length_singleton]
    omega
  · simp only [index]
    have inside : done.length < (reader.memory.drop reader.token.str).length := by
      rw [List.length_drop]
      omega
    rw [List.drop_set, if_neg (by omega), Nat.add_sub_cancel_left, List.length_append,
      List.length_singleton, List.take_add_one, List.take_set_of_le (Nat.le_refl _), holds.text,
      List.getElem?_set_self inside]
    rfl

/-- What was written stays where the memory does. -/
theorem Holds.of_same {other : Reader} (holds : reader.Holds done esc)
    (memory : other.memory = reader.memory) (token : other.token.str = reader.token.str)
    (count : Nat) {saved : Nat} (offset : other.offset = reader.offset + count)
    (total : saved = esc + count) : other.Holds done saved := by
  refine ⟨?_, ?_⟩
  · rw [token, offset, total, ← holds.place, Nat.add_assoc _ esc]
  · rw [memory, token]
    exact holds.text

/-- A character of a string: it is written where the escapes before it leave room. -/
theorem Holds.put (holds : reader.Holds done esc) (stands : reader.At (x :: rest)) (c : UInt8)
    (same : esc = 0 → c = x) :
    (reader.fillEscapeChar esc c).take.Holds (done ++ [c]) esc ∧
      (reader.fillEscapeChar esc c).take.At rest := by
  have place := holds.place
  have inside : reader.offset < reader.memory.length :=
    Nat.lt_of_lt_of_le stands.offset_lt stands.inside
  have filled := stands.fill esc c (by omega)
  refine ⟨?_, filled.take⟩
  rw [filled.take_eq]
  by_cases zero : esc = 0
  · -- The character stands where it belongs.
    obtain rfl := same zero
    subst zero
    rw [fillEscapeChar, if_pos rfl]
    have index : reader.token.str + done.length = reader.offset := place
    have found : (reader.memory.drop reader.token.str)[done.length]? = some c := by
      have value := stands.byte_eq
      rw [byte, List.getD_eq_getElem?_getD, List.getElem?_eq_getElem inside] at value
      rw [List.getElem?_drop, index, List.getElem?_eq_getElem inside, ← value]
      rfl
    refine ⟨?_, ?_⟩
    · simp only [List.length_append, List.length_singleton]
      omega
    · dsimp only
      rw [List.length_append, List.length_singleton, List.take_add_one, holds.text, found]
      rfl
  · have written := holds.fill c (Nat.pos_of_ne_zero zero) (Nat.le_of_lt inside)
    have again : esc = esc - 1 + 1 := by omega
    refine written.of_same ?_ ?_ 1 ?_ again <;> rfl

/-- The characters of an escape go behind what is done. -/
theorem Holds.fillAll (out : Bytes) (holds : reader.Holds done esc) (room : out.length ≤ esc)
    (stands : reader.At rest) (inside : reader.offset ≤ reader.memory.length) :
    (reader.fillAll esc out).Holds (done ++ out) (esc - out.length) ∧
      (reader.fillAll esc out).At rest := by
  induction out generalizing reader done esc with
  | nil => exact ⟨by simpa [Reader.fillAll] using holds, stands⟩
  | cons c out inductionHypothesis =>
      rw [List.length_cons] at room
      have place := holds.place
      obtain ⟨placed, stays⟩ := inductionHypothesis (holds.fill c (by omega) inside) (by omega)
        (stands.fill esc c (by omega)) (by simpa using inside)
      rw [List.append_assoc, List.singleton_append] at placed
      rw [Reader.fillAll, List.length_cons, Nat.add_comm out.length, ← Nat.sub_sub]
      exact ⟨placed, stays⟩

/-! ## Hexadecimal digits -/

/-- The value of a hexadecimal digit is read back. -/
theorem charToHex_hexTable {digit : UInt8} (small : digit < 16) (reader : Reader) :
    reader.charToHex (hexTable digit) = (digit, reader) := by
  have known : ∀ number < 16, ¬ 0x80 ≤ hexTable (UInt8.ofNat number) ∧
      hexTable (UInt8.ofNat number) < 0x66 ∧
      table (hexTable (UInt8.ofNat number)) = UInt8.ofNat number ∧
      ¬ 15 < (UInt8.ofNat number).toInt8 := by decide
  have checked := known digit.toNat small
  rw [UInt8.ofNat_toNat] at checked
  obtain ⟨ascii, below, value, valid⟩ := checked
  simp only [charToHex, if_neg ascii, if_pos below, value, if_neg valid]

/-- A hexadecimal digit is read with its value. -/
theorem readHex_hexTable {digit : UInt8} (small : digit < 16)
    (stands : reader.At (hexTable digit :: rest)) :
    reader.readHex = (charToU64 digit, reader.take) := by
  rw [readHex, stands.read_cons, charToHex_hexTable small]

/-- The code of a control character and the byte behind it. -/
def code (c c1 : UInt8) : UInt64 := c.toUInt64 * 256 + c1.toUInt64

/-- A digit does not change with its width. -/
theorem charToU64_small {digit : UInt8} (small : digit.toNat < 16) :
    (charToU64 digit).toNat = digit.toNat := by
  have known : ∀ number < 16, (charToU64 (UInt8.ofNat number)).toNat = number := by decide
  have checked := known digit.toNat small
  rwa [UInt8.ofNat_toNat] at checked

/-- Two hexadecimal digits are one byte. -/
theorem hexByte_value (c : UInt8) :
    c >>> 4 < 16 ∧ c &&& 0xf < 16 ∧
      charToU64 (c >>> 4) * 16 + charToU64 (c &&& 0xf) = c.toUInt64 := by
  have bound := c.toNat_lt
  have high : (c >>> 4).toNat = c.toNat / 16 := by
    simp [Nat.shiftRight_eq_div_pow]
  have low : (c &&& 0xf).toNat = c.toNat % 16 := by
    rw [UInt8.toNat_and]
    exact Nat.and_two_pow_sub_one_eq_mod c.toNat 4
  refine ⟨UInt8.lt_iff_toNat_lt.mpr ?_, UInt8.lt_iff_toNat_lt.mpr ?_, UInt64.toNat_inj.mp ?_⟩
  · rw [high]
    exact Nat.div_lt_of_lt_mul bound
  · rw [low]
    exact Nat.mod_lt _ (by decide)
  · rw [UInt64.toNat_add, UInt64.toNat_mul, charToU64_small (by omega), charToU64_small (by omega),
      high, low]
    simp
    omega

/-- A shift by four places multiplies by sixteen. -/
theorem shift_four (value : UInt64) : value <<< 4 = value * 16 := by
  apply UInt64.toNat_inj.mp
  simp [Nat.shiftLeft_eq]

/-- The code of two bytes is read back. -/
theorem readUtf_hexByte {c1 : UInt8} (stands : reader.At (hexByte c ++ hexByte c1 ++ rest)) :
    reader.readUtf = (code c c1, reader.take.take.take.take) := by
  obtain ⟨high, low, value⟩ := hexByte_value c
  obtain ⟨high1, low1, value1⟩ := hexByte_value c1
  have first := stands.take
  have second := first.take
  have third := second.take
  simp only [readUtf, readHex_hexTable high stands, readHex_hexTable low first,
    readHex_hexTable high1 second, readHex_hexTable low1 third, shift_four, Prod.mk.injEq, and_true]
  rw [code, ← value, ← value1]
  grind

/-! ## Quoted strings -/

/-- What comes back from the text of a string: a zero ends it, a backslash cannot be read, and a
control character without a letter of its own makes one code with the byte behind it. -/
def readBack : Bytes → Option Bytes
  | [] => some []
  | c :: rest =>
      if c = 0 then some []
      else if c = 0x5c then none
      else if escape c = 0x75 then
        match rest with
        | [] => some [c]
        | c1 :: rest => (readBack rest).map (utf8 (code c c1) ++ ·)
      else (readBack rest).map (c :: ·)

/-- Neither a zero nor a backslash, and no control character without a letter of its own but at the
end. -/
def Plain (str : Bytes) : Prop :=
  (∀ c ∈ str, c ≠ 0 ∧ c ≠ 0x5c) ∧ ∀ c ∈ str.dropLast, escape c ≠ 0x75

/-- Behind a zero nothing is read back. -/
theorem readBack_zero : readBack (0 :: rest) = some [] := by
  rw [readBack.eq_def]
  rfl

/-- A backslash is not read back. -/
theorem readBack_backslash : readBack (0x5c :: rest) = none := by
  rw [readBack.eq_def]
  rfl

/-- A control character at the end is read back as it is. -/
theorem readBack_last (nonzero : c ≠ 0) (readable : c ≠ 0x5c) (control : escape c = 0x75) :
    readBack [c] = some [c] := by
  rw [readBack.eq_def]
  simp [nonzero, readable, control]

/-- A control character is read back together with the character behind it. -/
theorem readBack_control {c1 : UInt8} (nonzero : c ≠ 0) (readable : c ≠ 0x5c)
    (control : escape c = 0x75) :
    readBack (c :: c1 :: rest) = (readBack rest).map (utf8 (code c c1) ++ ·) := by
  rw [readBack.eq_def]
  simp [nonzero, readable, control]

/-- Every other character is read back as it is. -/
theorem readBack_other (nonzero : c ≠ 0) (readable : c ≠ 0x5c) (other : escape c ≠ 0x75) :
    readBack (c :: rest) = (readBack rest).map (c :: ·) := by
  rw [readBack.eq_def]
  simp only [nonzero, readable, other, if_false]

/-- Taking a character leaves the memory. -/
@[simp] theorem take_memory (reader : Reader) : reader.take.memory = reader.memory := by
  rw [Reader.take]
  split <;> rfl

/-- Taking a character leaves the token. -/
@[simp] theorem take_token (reader : Reader) : reader.take.token = reader.token := by
  rw [Reader.take]
  split <;> rfl

/-- Taking a character leaves the error flag. -/
@[simp] theorem take_error (reader : Reader) : reader.take.error = reader.error := by
  rw [Reader.take]
  split <;> rfl

/-- Taking a character goes one place on. -/
theorem At.take_offset (stands : reader.At (c :: rest)) :
    reader.take.offset = reader.offset + 1 := by
  rw [stands.take_eq]

/-- Writing bytes leaves the token. -/
@[simp] theorem fillAll_token (reader : Reader) (count : Nat) (out : Bytes) :
    (reader.fillAll count out).token = reader.token := by
  induction out generalizing reader count with
  | nil => rfl
  | cons c out inductionHypothesis => rw [fillAll, inductionHypothesis, fillEscapeChar_token]

/-- Writing bytes leaves the error flag. -/
@[simp] theorem fillAll_error (reader : Reader) (count : Nat) (out : Bytes) :
    (reader.fillAll count out).error = reader.error := by
  induction out generalizing reader count with
  | nil => rfl
  | cons c out inductionHypothesis => rw [fillAll, inductionHypothesis, fillEscapeChar_error]

/-- A code has at most four bytes. -/
theorem length_utf8_le (utf1 : UInt64) : (utf8 utf1).length ≤ 4 := by
  rw [utf8]
  split
  · simp
  · split
    · simp
    · split <;> simp

/-- A code of two bytes has sixteen bits. -/
theorem code_lt (c c1 : UInt8) : (code c c1).toNat < 65536 := by
  have bound := c.toNat_lt
  have bound1 := c1.toNat_lt
  have power : (256 : UInt64).toNat = 256 := rfl
  rw [code, UInt64.toNat_add, UInt64.toNat_mul, UInt8.toNat_toUInt64, UInt8.toNat_toUInt64, power]
  omega

/-- The hexadecimal digits behind a backslash and the letter `u`. -/
theorem escapeUtf8_spec {c1 : UInt8} (holds : reader.Holds done (esc + 2))
    (stands : reader.At (hexByte c ++ hexByte c1 ++ rest)) :
    ∃ saved after, reader.escapeUtf8 esc = (saved, after) ∧
      after.Holds (done ++ utf8 (code c c1)) saved ∧ after.At rest ∧
      after.token = reader.token ∧ after.error = reader.error := by
  have first := stands.take
  have second := first.take
  have third := second.take
  have fourth := third.take
  have small : ¬ (0x80000 ≤ code c c1 ∧ code c c1 < 0x110000) := by
    rintro ⟨large, _⟩
    have bound := code_lt c c1
    have least : 0x80000 ≤ (code c c1).toNat := UInt64.le_iff_toNat_le.mp large
    omega
  have read : reader.take.take.take.take.Holds done (esc + 6) := by
    refine holds.of_same (by simp) (by simp) 4 ?_ (by omega)
    rw [third.take_offset, second.take_offset, first.take_offset, stands.take_offset]
  have inside : reader.take.take.take.take.offset ≤ reader.take.take.take.take.memory.length := by
    rw [third.take_offset, take_memory]
    exact Nat.lt_of_lt_of_le third.offset_lt third.inside
  have short := length_utf8_le (code c c1)
  obtain ⟨written, ahead⟩ := read.fillAll (utf8 (code c c1)) (by omega) fourth inside
  refine ⟨_, _, by rw [escapeUtf8, readUtf_hexByte stands], ?_⟩
  simp only [if_neg small]
  exact ⟨written, ahead, by simp, by simp⟩

/-- The string ends with what was done and the given text, or in an error. -/
def Quoted (reader after : Reader) (done rest : Bytes) : Option Bytes → Prop
  | some out => after.At rest ∧ after.text = done ++ out ∧
      after.token.type = reader.token.type ∧ after.error = reader.error
  | none => after.error = true

/-- A step that leaves token and error flag, and has written some bytes, puts them in front of what
is read. -/
theorem Quoted.of_step {other after : Reader} {more : Bytes} {out : Option Bytes}
    (quoted : Quoted other after (done ++ more) rest out) (token : other.token = reader.token)
    (error : other.error = reader.error) :
    Quoted reader after done rest (out.map (more ++ ·)) := by
  cases out with
  | none => exact quoted
  | some out =>
      obtain ⟨ahead, text, type, same⟩ := quoted
      exact ⟨ahead, by rw [text, List.append_assoc], type.trans (congrArg Token.type token),
        same.trans error⟩

/-- The closing quote ends the string. -/
theorem quoteLoop_end {turns : Nat} (holds : reader.Holds done esc)
    (stands : reader.At (0x22 :: rest)) :
    Quoted reader (quoteLoop (turns + 1) reader esc reader.read) done rest (some []) := by
  have place := holds.place
  have size : reader.offset - esc - reader.token.str = done.length := by omega
  have after : (reader.endString esc).At (0x22 :: rest) := stands.of_same rfl rfl rfl rfl
  rw [stands.read_cons]
  have ended : quoteLoop (turns + 1) reader esc 0x22 = (reader.endString esc).take := rfl
  rw [ended]
  refine ⟨after.take, ?_, by rw [take_token]; rfl, by rw [take_error]; rfl⟩
  rw [Reader.text, take_memory, take_token, List.append_nil]
  simp only [endString, size]
  exact holds.text

/-- An escaped backslash is an error. -/
theorem quoteLoop_backslash {turns : Nat} (stands : reader.At (0x5c :: 0x5c :: rest)) :
    (quoteLoop (turns + 1) reader esc reader.read).error = true := by
  rw [stands.read_cons]
  have unknown : (if (0x5c : UInt8) = 0x2f ∨ (0x5c : UInt8) = 0x22 then some 0x5c
      else unescape 0x5c) = none := by decide
  rw [quoteLoop, if_neg (by decide), if_pos rfl]
  dsimp only
  rw [stands.take.read_cons, if_neg (by decide), unknown]
  rfl

/-- A plain character is written to its place. -/
theorem quoteLoop_plain {turns : Nat} (stands : reader.At (c :: rest)) (plain : escape c = 0) :
    quoteLoop (turns + 1) reader esc reader.read =
      quoteLoop turns (reader.fillEscapeChar esc c).take esc
        (reader.fillEscapeChar esc c).take.read := by
  have line : c ≠ 0x0a := by
    rintro rfl
    exact absurd plain (by decide)
  have backslash : c ≠ 0x5c := by
    rintro rfl
    exact absurd plain (by decide)
  have quote : c ≠ 0x22 := by
    rintro rfl
    exact absurd plain (by decide)
  rw [stands.read_cons, quoteLoop, if_neg (not_or.mpr ⟨stands.nonzero, line⟩), if_neg backslash,
    if_neg quote]

/-- The letters behind a backslash are read as the characters they were written for. -/
theorem unescape_escape (special : escape c ≠ 0) (short : escape c ≠ 0x75)
    (readable : c ≠ 0x5c) :
    (if escape c = 0x2f ∨ escape c = 0x22 then some (escape c) else unescape (escape c)) =
      some c := by
  unfold escape at special short ⊢
  split_ifs at special short ⊢ <;> simp_all <;> decide

/-- A character behind a backslash is written to its place. -/
theorem quoteLoop_short {turns : Nat} (stands : reader.At (0x5c :: escape c :: rest))
    (special : escape c ≠ 0) (short : escape c ≠ 0x75) (readable : c ≠ 0x5c) :
    quoteLoop (turns + 1) reader esc reader.read =
      quoteLoop turns (reader.take.fillEscapeChar (esc + 1) c).take (esc + 1)
        (reader.take.fillEscapeChar (esc + 1) c).take.read := by
  rw [stands.read_cons, quoteLoop, if_neg (by decide), if_pos rfl]
  dsimp only
  rw [stands.take.read_cons, if_neg short, unescape_escape special short readable]

/-- An escape of two bytes is written to its place as its code. -/
theorem quoteLoop_control {turns : Nat} {c1 : UInt8}
    (stands : reader.At ([0x5c, 0x75] ++ hexByte c ++ hexByte c1 ++ rest))
    (holds : reader.Holds done esc) :
    ∃ saved after, quoteLoop (turns + 1) reader esc reader.read =
        quoteLoop turns after saved after.read ∧
      after.Holds (done ++ utf8 (code c c1)) saved ∧ after.At rest ∧
      after.token = reader.token ∧ after.error = reader.error := by
  have letter := stands.take
  have digits : reader.take.take.At (hexByte c ++ hexByte c1 ++ rest) := letter.take
  have moved : reader.take.take.Holds done (esc + 2) := by
    refine holds.of_same (by simp) (by simp) 2 ?_ rfl
    rw [letter.take_offset, stands.take_offset]
  obtain ⟨saved, after, escaped, written, ahead, token, error⟩ := escapeUtf8_spec moved digits
  refine ⟨saved, after, ?_, written, ahead, by simpa using token, by simpa using error⟩
  rw [stands.read_cons, quoteLoop, if_neg (by decide), if_pos rfl]
  dsimp only
  rw [letter.read_cons, if_pos rfl, escaped]

/-- A character which is escaped by its code is a control character. -/
theorem small_of_escape (control : escape c = 0x75) : c.toNat < 0x20 := by
  by_contra large
  have above : ¬ c < 0x20 := fun below => large below
  unfold escape at control
  split_ifs at control <;> simp_all

/-- The code of a control character alone is the character. -/
theorem utf8_code_zero (small : c.toNat < 0x20) : utf8 (code 0 c) = [c] := by
  have same : code 0 c = c.toUInt64 := by simp [code]
  have below : c.toUInt64 < 0x80 := by
    rw [UInt64.lt_iff_toNat_lt, UInt8.toNat_toUInt64]
    exact Nat.lt_trans small (by decide)
  rw [same, utf8, if_pos below]
  simp

/-- The characters of a string are unescaped where they stand. -/
theorem quoteLoop_spec (str : Bytes) {turns : Nat} (enough : (escapeText str).length < turns)
    (holds : reader.Holds done esc) (stands : reader.At (escapeText str ++ 0x22 :: rest)) :
    Quoted reader (quoteLoop turns reader esc reader.read) done rest (readBack str) := by
  induction str using readBack.induct generalizing reader done esc turns with
  | case1 =>
      obtain ⟨turns, rfl⟩ := Nat.exists_eq_add_of_lt enough
      exact quoteLoop_end holds stands
  | case2 str =>
      rw [escapeText_zero] at stands enough
      obtain ⟨turns, rfl⟩ := Nat.exists_eq_add_of_lt enough
      rw [readBack_zero]
      exact quoteLoop_end holds stands
  | case3 str nonzero =>
      rw [escapeText_short (by decide) (by decide) (by decide)] at stands enough
      obtain ⟨turns, rfl⟩ := Nat.exists_eq_add_of_lt enough
      rw [readBack_backslash]
      exact quoteLoop_backslash stands
  | case4 c nonzero readable control =>
      -- The last character has its own code, behind two zeros.
      have zeros : [0x5c, 0x75, 0x30, 0x30] ++ hexByte c = [0x5c, 0x75] ++ hexByte 0 ++ hexByte c :=
        rfl
      rw [escapeText_last nonzero control, zeros] at stands enough
      obtain ⟨turns, rfl⟩ : ∃ less, turns = less + 2 := ⟨turns - 2, by simp at enough; omega⟩
      obtain ⟨saved, after, step, written, ahead, token, error⟩ := quoteLoop_control stands holds
      rw [utf8_code_zero (small_of_escape control)] at written
      rw [readBack_last nonzero readable control, step]
      exact (quoteLoop_end written ahead).of_step token error
  | case5 c nonzero readable control c1 str inductionHypothesis =>
      rw [escapeText_control nonzero control] at stands enough
      obtain ⟨turns, rfl⟩ : ∃ less, turns = less + 1 := ⟨turns - 1, by omega⟩
      rw [List.append_assoc] at stands
      obtain ⟨saved, after, step, written, ahead, token, error⟩ := quoteLoop_control stands holds
      rw [readBack_control nonzero readable control, step]
      simp only [List.length_append, List.length_cons, List.length_nil] at enough
      exact (inductionHypothesis (by omega) written ahead).of_step token error
  | case6 c str nonzero readable other inductionHypothesis =>
      obtain ⟨turns, rfl⟩ : ∃ less, turns = less + 1 := ⟨turns - 1, by omega⟩
      rw [readBack_other nonzero readable other]
      by_cases plain : escape c = 0
      · rw [escapeText_plain nonzero plain] at stands enough
        obtain ⟨written, ahead⟩ := holds.put stands c fun _ => rfl
        rw [quoteLoop_plain stands plain]
        exact (inductionHypothesis (by simpa using enough) written ahead).of_step (by simp) (by simp)
      · rw [escapeText_short nonzero plain other] at stands enough
        have letter := stands.take
        have moved : reader.take.Holds done (esc + 1) :=
          holds.of_same (by simp) (by simp) 1 stands.take_offset rfl
        obtain ⟨written, ahead⟩ := moved.put letter c fun none => absurd none (Nat.succ_ne_zero esc)
        rw [quoteLoop_short stands plain other readable]
        simp only [List.length_append, List.length_cons, List.length_nil] at enough
        exact (inductionHypothesis (by omega) written ahead).of_step (by simp) (by simp)

/-- A string starts with nothing written. -/
theorem At.startToken (stands : reader.At rest) (type : TokenType) :
    (reader.startToken type).At rest ∧ (reader.startToken type).Holds [] 0 := by
  exact ⟨stands.of_same rfl rfl rfl rfl, rfl, rfl⟩

end Reader
end SM.Inc
