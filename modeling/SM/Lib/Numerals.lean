import Mathlib.Data.Nat.Digits.Lemmas

/-!
# Numerals

The digits of a natural number in a base, the most significant first. `numeral_append` puts the
numerals of a quotient and a remainder together, and `value_numeral` reads a numeral back.
-/

namespace SM.Lib.Numerals

variable {base : Nat}

/-- The digits of a number; zero has one. -/
def numeral (base number : Nat) : List Nat :=
  if number = 0 then [0] else (Nat.digits base number).reverse

/-- The last digits of a number, with leading zeros. -/
def padded (base : Nat) : Nat → Nat → List Nat
  | 0, _ => []
  | width + 1, number => padded base width (number / base) ++ [number % base]

/-- The number which digits denote. -/
def value (base : Nat) (digits : List Nat) : Nat :=
  digits.foldl (fun number digit => number * base + digit) 0

/-- A number below the base is a digit. -/
theorem numeral_of_lt {number : Nat} (small : number < base) :
    numeral base number = [number] := by
  by_cases zero : number = 0
  · rw [numeral, if_pos zero, zero]
  · rw [numeral, if_neg zero, Nat.digits_of_lt base number zero small, List.reverse_singleton]

/-- The last digit is the remainder. -/
theorem numeral_step (large : 1 < base) {number : Nat} (enough : base ≤ number) :
    numeral base number = numeral base (number / base) ++ [number % base] := by
  have positive : 0 < number := by omega
  have quotient : number / base ≠ 0 := (Nat.div_pos enough (by omega)).ne'
  rw [numeral, if_neg positive.ne', Nat.digits_def' large positive, List.reverse_cons, numeral,
    if_neg quotient]

/-- A quotient and a remainder with a fixed number of digits are written one after the other. -/
theorem numeral_append (large : 1 < base) (width : Nat) {quotient remainder : Nat}
    (positive : 0 < quotient) (small : remainder < base ^ width) :
    numeral base (quotient * base ^ width + remainder) =
      numeral base quotient ++ padded base width remainder := by
  induction width generalizing remainder with
  | zero =>
      obtain rfl : remainder = 0 := by simpa using small
      simp [padded]
  | succ width inductionHypothesis =>
      have bigger : base ≤ quotient * base ^ (width + 1) + remainder := by
        have power : base ≤ base ^ (width + 1) := Nat.le_self_pow (Nat.succ_ne_zero _) _
        exact (power.trans (Nat.le_mul_of_pos_left _ positive)).trans (Nat.le_add_right _ _)
      have split : quotient * base ^ (width + 1) + remainder =
          remainder + base * (quotient * base ^ width) := by
        rw [Nat.pow_succ]
        ring
      have first : (quotient * base ^ (width + 1) + remainder) / base =
          quotient * base ^ width + remainder / base := by
        rw [split, Nat.add_mul_div_left _ _ (by omega), Nat.add_comm]
      have last : (quotient * base ^ (width + 1) + remainder) % base = remainder % base := by
        rw [split, Nat.add_mul_mod_self_left]
      have smaller : remainder / base < base ^ width := by
        apply Nat.div_lt_of_lt_mul
        rwa [← Nat.pow_succ']
      rw [numeral_step large bigger, first, last, inductionHypothesis smaller, padded,
        List.append_assoc]

/-- The digits of a quotient stand in front of those of the remainder. -/
theorem padded_append (low high : Nat) {quotient remainder : Nat} (positive : 0 < base)
    (small : remainder < base ^ low) :
    padded base (high + low) (quotient * base ^ low + remainder) =
      padded base high quotient ++ padded base low remainder := by
  induction low generalizing remainder with
  | zero =>
      obtain rfl : remainder = 0 := by simpa using small
      simp [padded]
  | succ low inductionHypothesis =>
      have split : quotient * base ^ (low + 1) + remainder =
          remainder + base * (quotient * base ^ low) := by
        rw [Nat.pow_succ]
        ring
      have smaller : remainder / base < base ^ low := by
        apply Nat.div_lt_of_lt_mul
        rwa [← Nat.pow_succ']
      rw [← Nat.add_assoc, padded, padded, split, Nat.add_mul_div_left _ _ positive,
        Nat.add_mul_mod_self_left, Nat.add_comm (remainder / base), inductionHypothesis smaller,
        List.append_assoc]

/-- Every digit is below the base. -/
theorem digit_lt_of_mem (large : 1 < base) {number digit : Nat}
    (member : digit ∈ numeral base number) : digit < base := by
  rw [numeral] at member
  split at member
  · rw [List.mem_singleton.mp member]
    omega
  · exact Nat.digits_lt_base large (List.mem_reverse.mp member)

/-- Every number has a digit. -/
theorem numeral_ne_nil (base number : Nat) : numeral base number ≠ [] := by
  rw [numeral]
  split
  · simp
  · rename_i nonzero
    simpa using Nat.digits_ne_nil_iff_ne_zero.mpr nonzero

/-- A last digit multiplies what stands before it by the base. -/
theorem value_append (digits : List Nat) (digit : Nat) :
    value base (digits ++ [digit]) = value base digits * base + digit := by
  simp [value]

/-- Round trip: a numeral denotes its number. -/
theorem value_numeral (large : 1 < base) (number : Nat) :
    value base (numeral base number) = number := by
  induction number using Nat.strongRecOn with
  | ind number inductionHypothesis =>
      by_cases small : number < base
      · rw [numeral_of_lt small]
        simp [value]
      · have enough : base ≤ number := Nat.not_lt.mp small
        have less : number / base < number := Nat.div_lt_self (by omega) large
        rw [numeral_step large enough, value_append, inductionHypothesis _ less,
          Nat.div_add_mod']

/-- A number below a power has no more digits than its exponent. -/
theorem length_numeral_le (large : 1 < base) {number width : Nat} (positive : 0 < width)
    (small : number < base ^ width) : (numeral base number).length ≤ width := by
  rw [numeral]
  split
  · exact positive
  · rw [List.length_reverse]
    exact (Nat.digits_length_le_iff large _).mpr small

end SM.Lib.Numerals
