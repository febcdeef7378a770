import SM.Inc.Itoa
import SM.Inc.JsonStrings

/-!
# Tokens of what was written

What `next` makes of the characters in front of it: `next_ctrl`, `next_string`, `next_number`.
-/

namespace SM.Inc

open SM.Lib SM.Utils StringStream

namespace Reader

variable {reader : Reader} {rest done : Bytes} {c : UInt8}

/-! ## Tokens -/

/-- The token is of the type and has the text, and the rest is not read yet. -/
structure Stands (reader : Reader) (type : TokenType) (text rest : Bytes) : Prop where
  ahead : reader.At rest
  type_eq : reader.token.type = type
  text_eq : reader.text = text

/-- Clearing the token leaves what is ahead. -/
theorem At.cleared (stands : reader.At rest) : reader.cleared.At rest :=
  stands.of_same rfl rfl rfl rfl

/-- Where no blank is ahead the next token starts there. -/
theorem At.next_eq (stands : reader.At (c :: rest)) (filled : isBlank c = false) :
    reader.next = reader.cleared.nextToken c (nextLoop reader.left) := by
  rw [next, nextLoop, stands.skip filled, stands.cleared.read_cons]

/-- A bracket, a comma or a colon is a token of its own. -/
theorem next_ctrl (stands : reader.At (c :: rest)) (ctrl : isCtrl c = true) :
    reader.next.Stands .ctrl [c] rest ∧ reader.next.error = reader.error := by
  have filled : isBlank c = false := by
    unfold isCtrl at ctrl
    simp only [Bool.or_eq_true, beq_iff_eq] at ctrl
    rcases ctrl with ((((rfl | rfl) | rfl) | rfl) | rfl) | rfl <;> rfl
  have reached : reader.next = (reader.cleared.single .ctrl).take := by
    rw [stands.next_eq filled, nextToken, if_neg stands.nonzero, if_pos ctrl]
  have single : (reader.cleared.single .ctrl).At (c :: rest) := stands.of_same rfl rfl rfl rfl
  rw [reached]
  refine ⟨⟨single.take, by rw [take_token]; rfl, ?_⟩, by rw [take_error]; rfl⟩
  have inside := stands.offset_lt.trans_le stands.inside
  have value := stands.byte_eq
  rw [byte, List.getD_eq_getElem?_getD, List.getElem?_eq_getElem inside] at value
  rw [Reader.text, take_memory, take_token]
  change (reader.memory.drop reader.offset).take 1 = [c]
  rw [List.drop_eq_getElem_cons inside, List.take_succ_cons, List.take_zero]
  exact congrArg (fun first => [first]) value

/-- Where nothing is ahead the next token is the end. -/
theorem next_end (stands : reader.At []) :
    reader.next.token.type = .end' ∧ reader.next.text.length ≤ 1 ∧
      reader.next.error = reader.error := by
  have reached : reader.next = reader.cleared.single .end' := by
    rw [next, nextLoop, stands.skip_nil, stands.cleared.read_nil, nextToken, if_pos rfl]
  rw [reached]
  refine ⟨rfl, ?_, rfl⟩
  rw [Reader.text, List.length_take]
  exact Nat.min_le_left _ _

/-- The token is the string which came back, if one did. -/
def Reads (reader after : Reader) (rest : Bytes) : Option Bytes → Prop
  | some out => after.Stands .string out rest ∧ after.error = reader.error
  | none => after.error = true

/-- A printed string is read back. -/
theorem next_string (str : Bytes) (stands : reader.At (0x22 :: (escapeText str ++ 0x22 :: rest))) :
    Reads reader reader.next rest (readBack str) := by
  have reached : reader.next = reader.cleared.parserQuoteString := by
    rw [stands.next_eq rfl]
    rfl
  obtain ⟨opened, empty⟩ := stands.cleared.take.startToken .string
  have enough : (escapeText str).length < (reader.cleared.take.startToken .string).left + 1 := by
    rw [opened.left, List.length_append]
    omega
  have quoted := quoteLoop_spec str enough empty opened
  rw [reached, parserQuoteString]
  cases found : readBack str with
  | none =>
      rw [found] at quoted
      exact quoted
  | some out =>
      rw [found] at quoted
      obtain ⟨ahead, text, type, error⟩ := quoted
      exact ⟨⟨ahead, type, text⟩, error.trans (take_error _)⟩

/-! ## Numbers -/

/-- What does not belong to a number. -/
def EndsNumber (rest : Bytes) : Prop := ∀ c ∈ rest.head?, isDigit c = false ∧ c ≠ 0x2e

/-- The character of a digit has its value. -/
theorem digit_char {d : Nat} (small : d < 10) :
    isDigit (UInt8.ofNat (0x30 + d)) = true ∧ (UInt8.ofNat (0x30 + d) - 0x30).toNat = d := by
  have known : ∀ d < 10, isDigit (UInt8.ofNat (0x30 + d)) = true ∧
      (UInt8.ofNat (0x30 + d) - 0x30).toNat = d := by decide
  exact known d small

/-- At the place itself nothing is written. -/
theorem fillEscapeChar_zero (reader : Reader) (c : UInt8) : reader.fillEscapeChar 0 c = reader := rfl

/-- The number ends with what was done and the given text. -/
structure Numbered (reader after : Reader) (done text rest : Bytes) (bits : UInt64) : Prop where
  ahead : after.At rest
  text_eq : after.text = done ++ text
  token_eq : after.token = { reader.token with
    bits, len := done.length + text.length }
  error_eq : after.error = reader.error

/-- The loop of a number takes its digits and adds up their value. -/
theorem numberLoop_spec (ds : List Nat) {turns : Nat} (small : ∀ d ∈ ds, d < 10)
    (enough : ds.length < turns)
    (kind : reader.token.type = .int ∨ reader.token.type = .uint) (holds : reader.Holds done 0)
    (stands : reader.At (numeralText ds ++ rest)) (stop : EndsNumber rest) :
    Numbered reader (numberLoop turns reader reader.read) done (numeralText ds) rest
      (ds.foldl (fun bits d => bits * 10 + UInt64.ofNat d) reader.token.bits) := by
  induction ds generalizing reader done turns with
  | nil =>
      obtain ⟨turns, rfl⟩ : ∃ less, turns = less + 1 :=
        ⟨turns - 1, by rw [List.length_nil] at enough; omega⟩
      have place := holds.place
      have size : reader.offset - 0 - reader.token.str = done.length := by omega
      have ended : numberLoop (turns + 1) reader reader.read = reader.endString 0 := by
        rw [numberLoop]
        cases rest with
        | nil =>
            have zero : reader.read = 0 := stands.read_nil
            rw [zero]
            rfl
        | cons c rest =>
            have char : reader.read = c := stands.read_cons
            obtain ⟨other, point⟩ := stop c rfl
            rw [char, other, if_neg Bool.false_ne_true, if_neg point]
      rw [ended]
      refine ⟨stands.of_same rfl rfl rfl rfl, ?_, ?_, rfl⟩
      · rw [Reader.text]
        simp only [endString, size]
        simpa [numeralText] using holds.text
      · simp only [endString, size, numeralText, List.map_nil, List.length_nil, Nat.add_zero]
        rfl
  | cons d ds inductionHypothesis =>
      obtain ⟨turns, rfl⟩ : ∃ less, turns = less + 1 := ⟨turns - 1, by omega⟩
      obtain ⟨isDigit, value⟩ := digit_char (small d List.mem_cons_self)
      let c := UInt8.ofNat (0x30 + d)
      let next : Reader := { reader with
        token := { reader.token with bits := reader.token.bits * 10 + UInt64.ofNat d } }
      have digit : reader.digit c = next := by
        rw [Reader.digit]
        rcases kind with int | uint
        · rw [int]
          simp only [c, value, next]
        · rw [uint]
          simp only [c, value, next]
      have char : reader.read = c := stands.read_cons
      have moved : next.Holds done 0 := ⟨holds.place, holds.text⟩
      have standing : next.At (c :: (numeralText ds ++ rest)) := stands.of_same rfl rfl rfl rfl
      obtain ⟨written, ahead⟩ := moved.put standing c fun _ => rfl
      rw [fillEscapeChar_zero] at written ahead
      have shorter : ds.length < turns := by simpa using enough
      have further := inductionHypothesis (fun d member => small d (List.mem_cons_of_mem _ member))
        shorter (by simpa [next] using kind) written ahead
      have step : numberLoop (turns + 1) reader reader.read =
          numberLoop turns next.take next.take.read := by
        rw [char, numberLoop, if_pos isDigit, digit]
      rw [step]
      refine ⟨further.ahead, ?_, ?_, ?_⟩
      · rw [further.text_eq, List.append_assoc]
        rfl
      · rw [further.token_eq, take_token]
        simp only [next, numeralText, List.length_append, List.map_cons, List.length_cons,
          List.foldl_cons, List.length_map, List.length_nil, Token.mk.injEq, true_and, and_true]
        omega
      · rw [further.error_eq, take_error]

/-- The token is a number with the given bits. -/
structure Counts (reader after : Reader) (type : TokenType) (rest : Bytes) (bits : UInt64)
    (neg : Bool) : Prop where
  ahead : after.At rest
  type_eq : after.token.type = type
  bits_eq : after.token.bits = bits
  neg_eq : after.token.neg = neg
  error_eq : after.error = reader.error

/-- The digits of a number are its token, with their value. -/
theorem parserNumber_spec (ds : List Nat) (small : ∀ d ∈ ds, d < 10) {type : TokenType}
    (kind : type = .int ∨ type = .uint) (bits : UInt64) (neg : Bool)
    (stands : reader.At (c :: (numeralText ds ++ rest))) (stop : EndsNumber rest) :
    Counts reader (reader.parserNumber type bits neg) type rest
      (ds.foldl (fun bits d => bits * 10 + UInt64.ofNat d) bits) neg := by
  obtain ⟨_, empty⟩ := stands.startToken type
  let opened : Reader := { reader.startToken type with
    token := { (reader.startToken type).token with bits, neg } }
  have holds : opened.Holds [] 0 := ⟨empty.place, empty.text⟩
  have standing : opened.At (c :: (numeralText ds ++ rest)) := stands.of_same rfl rfl rfl rfl
  obtain ⟨written, ahead⟩ := holds.put standing c fun _ => rfl
  rw [fillEscapeChar_zero] at written ahead
  have kept : opened.take.token = { reader.token with type, str := reader.offset, bits, neg } := by
    rw [take_token]
    rfl
  have enough : ds.length < opened.take.left + 1 := by
    rw [ahead.left, List.length_append, numeralText, List.length_map]
    omega
  have numbered := numberLoop_spec ds small enough (by rw [kept]; exact kind) written ahead stop
  have token := numbered.token_eq
  rw [kept] at token
  refine ⟨numbered.ahead, ?_, ?_, ?_, numbered.error_eq.trans (take_error _)⟩
  · exact congrArg Token.type token
  · exact congrArg Token.bits token
  · exact congrArg Token.neg token

/-- The value of digits in 64 bits is their number there. -/
theorem foldl_bits (ds : List Nat) (number : Nat) :
    ds.foldl (fun bits d => bits * 10 + UInt64.ofNat d) (UInt64.ofNat number) =
      UInt64.ofNat (ds.foldl (fun number d => number * 10 + d) number) := by
  induction ds generalizing number with
  | nil => rfl
  | cons d ds inductionHypothesis =>
      rw [List.foldl_cons, List.foldl_cons, ← inductionHypothesis, UInt64.ofNat_add,
        UInt64.ofNat_mul]
      rfl

/-- A numeral is read as its number, as far as that has room in 64 bits. -/
theorem next_number (number : Nat) (stands : reader.At (Inc.decimal number ++ rest))
    (stop : EndsNumber rest) :
    Counts reader reader.next .uint rest (UInt64.ofNat number) false := by
  obtain ⟨d, ds, split⟩ := List.exists_cons_of_ne_nil (Numerals.numeral_ne_nil 10 number)
  have small : ∀ digit ∈ d :: ds, digit < 10 := by
    intro digit member
    exact Numerals.digit_lt_of_mem (by decide) (split ▸ member)
  have total := @Numerals.value_numeral 10 (by decide) number
  rw [split, Numerals.value, List.foldl_cons, Nat.zero_mul, Nat.zero_add] at total
  rw [Inc.decimal, split, numeralText, List.map_cons] at stands
  obtain ⟨isDigit, value⟩ := digit_char (small d List.mem_cons_self)
  obtain ⟨filled, other, comment, quote⟩ : isBlank (UInt8.ofNat (0x30 + d)) = false ∧
      isCtrl (UInt8.ofNat (0x30 + d)) = false ∧ UInt8.ofNat (0x30 + d) ≠ 0x2f ∧
      UInt8.ofNat (0x30 + d) ≠ 0x22 := by
    have known : ∀ d < 10, isBlank (UInt8.ofNat (0x30 + d)) = false ∧
        isCtrl (UInt8.ofNat (0x30 + d)) = false ∧ UInt8.ofNat (0x30 + d) ≠ 0x2f ∧
        UInt8.ofNat (0x30 + d) ≠ 0x22 := by decide
    exact known d (small d List.mem_cons_self)
  have reached : reader.next = reader.cleared.parserNumber .uint (UInt64.ofNat d) false := by
    rw [At.next_eq stands filled, nextToken, if_neg stands.nonzero, other,
      if_neg Bool.false_ne_true, if_neg comment, if_neg quote, if_pos isDigit, value]
  have counted := parserNumber_spec ds (fun digit member => small digit (List.mem_cons_of_mem _ member))
    (.inr rfl) (UInt64.ofNat d) false stands.cleared stop
  rw [foldl_bits, total] at counted
  rw [reached]
  exact ⟨counted.ahead, counted.type_eq, counted.bits_eq, counted.neg_eq, counted.error_eq⟩

/-- A negative numeral is read with its number and its sign. -/
theorem next_negative (number : Nat) (stands : reader.At (0x2d :: (Inc.decimal number ++ rest)))
    (stop : EndsNumber rest) :
    Counts reader reader.next .int rest (UInt64.ofNat number) true := by
  have small : ∀ digit ∈ Numerals.numeral 10 number, digit < 10 := fun digit member =>
    Numerals.digit_lt_of_mem (by decide) member
  have total := @Numerals.value_numeral 10 (by decide) number
  have reached : reader.next = reader.cleared.parserNumber .int 0 true := by
    rw [stands.next_eq rfl]
    rfl
  have counted := parserNumber_spec (Numerals.numeral 10 number) small (.inl rfl) 0 true
    stands.cleared stop
  have zero : (0 : UInt64) = UInt64.ofNat 0 := rfl
  rw [zero, foldl_bits, ← Numerals.value, total] at counted
  rw [reached]
  exact ⟨counted.ahead, counted.type_eq, counted.bits_eq, counted.neg_eq, counted.error_eq⟩

end Reader
end SM.Inc
