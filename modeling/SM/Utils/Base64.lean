import SM.Utils.PackInt

/-!
# Base64

What the code relies on of its base64 library, as a structure of an encoder and a decoder, and the
one of RFC 4648 as an instance.
-/

namespace SM.Utils

/-- The alphabet of base64. -/
def base64Digit (value : Nat) : UInt8 :=
  if value < 26 then UInt8.ofNat (65 + value)
  else if value < 52 then UInt8.ofNat (71 + value)
  else if value < 62 then UInt8.ofNat (value - 4)
  else if value = 62 then 43
  else 47

/-- Three bytes are four digits of six bits, and the last ones are filled up. -/
def base64 : Bytes → Bytes
  | [] => []
  | [first] =>
      [base64Digit (first.toNat / 4), base64Digit (first.toNat % 4 * 16), 61, 61]
  | [first, second] =>
      [base64Digit (first.toNat / 4), base64Digit (first.toNat % 4 * 16 + second.toNat / 16),
        base64Digit (second.toNat % 16 * 4), 61]
  | first :: second :: third :: rest =>
      base64Digit (first.toNat / 4) ::
        base64Digit (first.toNat % 4 * 16 + second.toNat / 16) ::
        base64Digit (second.toNat % 16 * 4 + third.toNat / 64) ::
        base64Digit (third.toNat % 64) :: base64 rest

/-- The value of a digit. -/
def base64Value (digit : UInt8) : Option Nat :=
  if 65 ≤ digit ∧ digit ≤ 90 then some (digit.toNat - 65)
  else if 97 ≤ digit ∧ digit ≤ 122 then some (digit.toNat - 71)
  else if 48 ≤ digit ∧ digit ≤ 57 then some (digit.toNat + 4)
  else if digit = 43 then some 62
  else if digit = 47 then some 63
  else none

/-- The bytes of groups of four digits, of which the last may be filled up. -/
def base64Bytes : Bytes → Option Bytes
  | [] => some []
  | digit0 :: digit1 :: digit2 :: digit3 :: rest => do
      let value0 ← base64Value digit0
      let value1 ← base64Value digit1
      let first := UInt8.ofNat (value0 * 4 + value1 / 16)
      if digit2 = 61 ∧ digit3 = 61 ∧ rest = [] then
        return [first]
      let value2 ← base64Value digit2
      let second := UInt8.ofNat (value1 % 16 * 16 + value2 / 4)
      if digit3 = 61 ∧ rest = [] then
        return [first, second]
      let value3 ← base64Value digit3
      let bytes ← base64Bytes rest
      return first :: second :: UInt8.ofNat (value2 % 4 * 64 + value3) :: bytes
  | _ => none

/-! ## Decoding -/

/-- A digit has its value. -/
theorem base64Value_digit {value : Nat} (small : value < 64) :
    base64Value (base64Digit value) = some value := by
  have all : ∀ index : Fin 64, base64Value (base64Digit index) = some index := by decide
  exact all ⟨value, small⟩

/-- No digit is the filler. -/
theorem base64Digit_ne_filler (value : Nat) : base64Digit value ≠ 61 := by
  by_cases small : value < 64
  · have all : ∀ index : Fin 64, base64Digit index ≠ 61 := by decide
    exact all ⟨value, small⟩
  · have beyond : ¬value < 26 ∧ ¬value < 52 ∧ ¬value < 62 ∧ value ≠ 62 := by omega
    simp [base64Digit, beyond]

/-- A byte is its number. -/
theorem ofNat_of_toNat {byte : UInt8} {value : Nat} (same : value = byte.toNat) :
    UInt8.ofNat value = byte := by
  rw [same, UInt8.ofNat_toNat]

/-- The first byte of a group is in its first two digits. -/
theorem first_of_digits (first : UInt8) {next : Nat} (small : next < 16) :
    UInt8.ofNat (first.toNat / 4 * 4 + (first.toNat % 4 * 16 + next) / 16) = first :=
  ofNat_of_toNat (by omega)

/-- The second of three bytes is in the second and the third digit. -/
theorem second_of_digits (second : UInt8) (before : Nat) {next : Nat} (small : next < 4) :
    UInt8.ofNat ((before * 16 + second.toNat / 16) % 16 * 16 +
      (second.toNat % 16 * 4 + next) / 4) = second := by
  have byte := second.toNat_lt
  exact ofNat_of_toNat (by omega)

/-- The third of three bytes is in the third and the fourth digit. -/
theorem third_of_digits (third : UInt8) (before : Nat) :
    UInt8.ofNat ((before * 4 + third.toNat / 64) % 4 * 64 + third.toNat % 64) = third := by
  have byte := third.toNat_lt
  exact ofNat_of_toNat (by omega)

/-- Bytes are decoded from their encoding. -/
theorem base64Bytes_base64 (bytes : Bytes) : base64Bytes (base64 bytes) = some bytes := by
  induction bytes using base64.induct with
  | case1 => rfl
  | case2 first =>
      have small := first.toNat_lt
      have value0 : base64Value (base64Digit (first.toNat / 4)) = some (first.toNat / 4) :=
        base64Value_digit (by omega)
      have value1 : base64Value (base64Digit (first.toNat % 4 * 16)) =
          some (first.toNat % 4 * 16) := base64Value_digit (by omega)
      have byte0 : UInt8.ofNat (first.toNat / 4 * 4 + first.toNat % 4 * 16 / 16) = first :=
        @first_of_digits first 0 (by decide)
      simp only [base64, base64Bytes, value0, value1, byte0, Option.bind_eq_bind,
        Option.bind_some, and_self, if_true]
      rfl
  | case3 first second =>
      have firstSmall := first.toNat_lt
      have secondSmall := second.toNat_lt
      have value0 : base64Value (base64Digit (first.toNat / 4)) = some (first.toNat / 4) :=
        base64Value_digit (by omega)
      have value1 : base64Value (base64Digit (first.toNat % 4 * 16 + second.toNat / 16)) =
          some (first.toNat % 4 * 16 + second.toNat / 16) := base64Value_digit (by omega)
      have value2 : base64Value (base64Digit (second.toNat % 16 * 4)) =
          some (second.toNat % 16 * 4) := base64Value_digit (by omega)
      have byte0 := @first_of_digits first (second.toNat / 16) (by omega)
      have byte1 : UInt8.ofNat ((first.toNat % 4 * 16 + second.toNat / 16) % 16 * 16 +
          second.toNat % 16 * 4 / 4) = second := @second_of_digits second _ 0 (by decide)
      simp only [base64, base64Bytes, value0, value1, value2, byte0, byte1, Option.bind_eq_bind,
        Option.bind_some, base64Digit_ne_filler, false_and, if_false, and_self, if_true]
      rfl
  | case4 first second third rest inductionHypothesis =>
      have firstSmall := first.toNat_lt
      have secondSmall := second.toNat_lt
      have thirdSmall := third.toNat_lt
      have value0 : base64Value (base64Digit (first.toNat / 4)) = some (first.toNat / 4) :=
        base64Value_digit (by omega)
      have value1 : base64Value (base64Digit (first.toNat % 4 * 16 + second.toNat / 16)) =
          some (first.toNat % 4 * 16 + second.toNat / 16) := base64Value_digit (by omega)
      have value2 : base64Value (base64Digit (second.toNat % 16 * 4 + third.toNat / 64)) =
          some (second.toNat % 16 * 4 + third.toNat / 64) := base64Value_digit (by omega)
      have value3 : base64Value (base64Digit (third.toNat % 64)) = some (third.toNat % 64) :=
        base64Value_digit (by omega)
      have byte0 := @first_of_digits first (second.toNat / 16) (by omega)
      have byte1 := @second_of_digits second (first.toNat % 4) (third.toNat / 64) (by omega)
      have byte2 := third_of_digits third (second.toNat % 16)
      simp only [base64, base64Bytes, value0, value1, value2, value3, byte0, byte1, byte2,
        inductionHypothesis, Option.bind_eq_bind, Option.bind_some, base64Digit_ne_filler,
        false_and, if_false]
      rfl

/-- Different bytes have different encodings. -/
theorem base64_inj {left right : Bytes} (same : base64 left = base64 right) : left = right := by
  have decoded := congrArg base64Bytes same
  rw [base64Bytes_base64, base64Bytes_base64] at decoded
  exact Option.some.inj decoded

/-- Every three bytes begun are four characters. -/
theorem length_base64 (bytes : Bytes) :
    (base64 bytes).length = 4 * ((bytes.length + 2) / 3) := by
  induction bytes using base64.induct with
  | case1 => rfl
  | case2 first => simp [base64]
  | case3 first second => simp [base64]
  | case4 first second third rest inductionHypothesis =>
      simp only [base64, List.length_cons, inductionHypothesis]
      omega

/-- An encoding has as many fillers as bytes are missing from the last three. -/
theorem base64_padded (bytes : Bytes) : ∃ digits, 61 ∉ digits ∧
    base64 bytes = digits ++ List.replicate ((3 - bytes.length % 3) % 3) 61 := by
  induction bytes using base64.induct with
  | case1 => exact ⟨[], List.not_mem_nil, rfl⟩
  | case2 first =>
      refine ⟨[base64Digit (first.toNat / 4), base64Digit (first.toNat % 4 * 16)], ?_, rfl⟩
      simp [(base64Digit_ne_filler _).symm]
  | case3 first second =>
      refine ⟨[base64Digit (first.toNat / 4),
        base64Digit (first.toNat % 4 * 16 + second.toNat / 16),
        base64Digit (second.toNat % 16 * 4)], ?_, rfl⟩
      simp [(base64Digit_ne_filler _).symm]
  | case4 first second third rest inductionHypothesis =>
      obtain ⟨digits, proper, coded⟩ := inductionHypothesis
      refine ⟨base64Digit (first.toNat / 4) ::
        base64Digit (first.toNat % 4 * 16 + second.toNat / 16) ::
        base64Digit (second.toNat % 16 * 4 + third.toNat / 64) ::
        base64Digit (third.toNat % 64) :: digits, ?_, ?_⟩
      · simp [(base64Digit_ne_filler _).symm, proper]
      · have groups : (rest.length + 1 + 1 + 1) % 3 = rest.length % 3 := by omega
        simp only [base64, coded, List.length_cons, groups, List.cons_append]

/-- The base64 library, whose decoder throws for what is not the code of any bytes. -/
structure Base64 where
  encode : Bytes → Bytes
  decode : Bytes → Option Bytes
  decode_encode : ∀ bytes, decode (encode bytes) = some bytes
  /-- Digits, and the standard padding behind them. -/
  padded : ∀ bytes, ∃ digits, 61 ∉ digits ∧
    encode bytes = digits ++ List.replicate ((3 - bytes.length % 3) % 3) 61
  length_encode : ∀ bytes, (encode bytes).length = 4 * ((bytes.length + 2) / 3)

/-- The one of RFC 4648. -/
def rfc4648 : Base64 where
  encode := base64
  decode := base64Bytes
  decode_encode := base64Bytes_base64
  padded := base64_padded
  length_encode := length_base64

end SM.Utils
