import Mathlib.Data.List.Induction
import SM.Lib.Numerals
import SM.Utils.PackInt

/-!
# Integers as text

`itoa_fwd` writes an integer in pairs of digits and divides by a multiplication and a shift;
`xtoa` takes the remainders by ten and turns their order around. `itoaFwd_eq` and `xtoa_eq` say
that both write the decimal numeral.
-/

namespace SM.Inc

open SM.Lib SM.Utils

/-- The digits as characters. -/
def numeralText (digits : List Nat) : Bytes := digits.map fun digit => UInt8.ofNat (0x30 + digit)

/-- The decimal numeral of a number. -/
def decimal (number : Nat) : Bytes := numeralText (Numerals.numeral 10 number)

/-- The decimal numeral of an integer. -/
def decimalInt (number : Int) : Bytes :=
  (if number < 0 then [0x2d] else []) ++ decimal number.natAbs

namespace Dec

/-- `digits`: the pairs from 00 to 99. -/
def digits : Bytes :=
  (List.range 200).map fun i =>
    UInt8.ofNat (0x30 + if i % 2 = 1 then i / 2 % 10 else i / 2 / 10)

def dd (u : UInt8) : Bytes := (digits.drop (2 * u.toNat)).take 2

/-- `split<4>`: the quotient and the remainder by 10000. -/
def split4 (u : UInt32) : UInt32 × UInt16 :=
  let q := (((3518437209 : UInt64) * (u.toUInt64 + 0)) >>> 45).toUInt32
  (q, (u - q * 10000).toUInt16)

/-- `split<2>`: the quotient and the remainder by 100. -/
def split2 (u : UInt16) : UInt16 × UInt8 :=
  let q := (((41943 : UInt32) * (u.toUInt32 + 1)) >>> 22).toUInt16
  (q, (u - q * 100).toUInt8)

/-- `head` of one byte. -/
def head1 (u : UInt8) : Bytes := if u < 10 then [0x30 + u] else dd u

/-- `tail` of one byte. -/
def tail1 (u : UInt8) : Bytes := dd u

/-- `head` of two bytes. -/
def head2 (u : UInt16) : Bytes :=
  if u < 100 then head1 u.toUInt8
  else
    let x := split2 u
    head1 x.1.toUInt8 ++ tail1 x.2

/-- `tail` of two bytes. -/
def tail2 (u : UInt16) : Bytes :=
  let x := split2 u
  tail1 x.1.toUInt8 ++ tail1 x.2

/-- `large<4>` -/
def large4 (x : UInt32 × UInt16) : Bytes :=
  let y := split4 x.1
  head2 y.1.toUInt16 ++ tail2 y.2 ++ tail2 x.2

/-- `itoa` of four bytes. -/
def itoa4 (u : UInt32) : Bytes :=
  if u < 10000 then head2 u.toUInt16
  else
    let x := split4 u
    if u < 100000000 then head2 x.1.toUInt16 ++ tail2 x.2 else large4 x

end Dec

/-- `itoa_fwd` of an `int`. -/
def itoaFwd (i : Int32) : Bytes :=
  let mask : UInt32 := if i < 0 then ~~~0 else 0
  let u := ((2 * i.toUInt32) &&& ~~~mask) - i.toUInt32
  (if mask &&& 1 = 1 then [0x2d] else []) ++ Dec.itoa4 u

/-- The first loop of `xtoa`: the digits behind what is written, the last one first. -/
def xtoaLoop (uradix : UInt32) : Nat → UInt64 → Bytes → Bytes
  | 0, _, sp => sp
  | turns + 1, uval, sp =>
      let rem := (uval % uradix.toUInt64).toUInt32
      let uval := uval / uradix.toUInt64
      let sp := sp ++ [if 10 > rem then 0x30 + rem.toUInt8 else 0x41 + rem.toUInt8 - 10]
      if 0 < uval then xtoaLoop uradix turns uval sp else sp

/-- The second loop of `xtoa`: the characters at `sp2` and `sp` change places. -/
def xtoaReverse : Bytes → Nat → Nat → Bytes
  | str, _, 0 => str
  | str, sp2, sp + 1 =>
      if sp2 < sp + 1 then
        let tmp := str.getD sp2 0
        xtoaReverse ((str.set sp2 (str.getD (sp + 1) 0)).set (sp + 1) tmp) (sp2 + 1) sp
      else str

/-- `xtoa`: what stands between `str` and the end it returns. 64 turns suffice for every radix
from two. -/
def xtoa (sval : Int64) (radix : Int32) (signedp : Bool) : Bytes :=
  let uradix := radix.toUInt32
  let negative := signedp && 10 == uradix && decide (0 > sval)
  let sign : Bytes := if negative then [0x2d] else []
  let uval := if negative then (-sval).toUInt64 else sval.toUInt64
  let sp3 := xtoaLoop uradix 64 uval sign
  -- The zero behind the digits is in the buffer, and not in what is returned.
  (xtoaReverse (sp3 ++ [0]) sign.length (sp3.length - 1)).take sp3.length

/-! ## Pairs of digits -/

namespace Dec

/-- The text of a numeral is written from left to right. -/
theorem digitText_append (first second : List Nat) :
    numeralText (first ++ second) = numeralText first ++ numeralText second :=
  List.map_append

/-- The table has the two digits of every number below 100. -/
theorem dd_eq {u : UInt8} (small : u.toNat < 100) :
    dd u = numeralText (Numerals.padded 10 2 u.toNat) := by
  have pair : ((List.range 200).drop (2 * u.toNat)).take 2 =
      [2 * u.toNat, 2 * u.toNat + 1] := by
    apply List.ext_getElem
    · simp
      omega
    · intro index _ _
      match index with
      | 0 => simp
      | 1 => simp
  have tens : u.toNat / 10 % 10 = u.toNat / 10 := by omega
  have odd : (2 * u.toNat + 1) / 2 % 10 = u.toNat % 10 := by omega
  rw [dd, digits, ← List.map_drop, ← List.map_take, pair]
  simp [numeralText, Numerals.padded, tens, odd]

/-- The multiplication and the shift divide by 10000. -/
theorem mulInv4 {number : Nat} (bound : number < 2 ^ 32) :
    3518437209 * number / 2 ^ 45 = number / 10000 := by
  omega

/-- The multiplication and the shift divide by 100. -/
theorem mulInv2 {number : Nat} (bound : number < 2 ^ 16) :
    41943 * (number + 1) / 2 ^ 22 = number / 100 := by
  omega

/-- The quotient and the remainder of a division by 10000. -/
theorem split4_spec (u : UInt32) :
    (split4 u).1.toNat = u.toNat / 10000 ∧ (split4 u).2.toNat = u.toNat % 10000 := by
  have bound := u.toNat_lt
  have quotient : (split4 u).1.toNat = u.toNat / 10000 := by
    have product : 3518437209 * u.toNat % 2 ^ 64 = 3518437209 * u.toNat :=
      Nat.mod_eq_of_lt (by omega)
    have narrow : u.toNat / 10000 % 2 ^ 32 = u.toNat / 10000 := Nat.mod_eq_of_lt (by omega)
    have shifted : (split4 u).1.toNat = 3518437209 * u.toNat % 2 ^ 64 / 2 ^ 45 % 2 ^ 32 := by
      simp [split4, Nat.shiftRight_eq_div_pow]
    rw [shifted, product, mulInv4 bound, narrow]
  have remainder : (split4 u).2 = (u - (split4 u).1 * 10000).toUInt16 := rfl
  have power : (10000 : UInt32).toNat = 10000 := rfl
  rw [remainder, UInt32.toNat_toUInt16, UInt32.toNat_sub, UInt32.toNat_mul, quotient, power]
  exact ⟨rfl, by omega⟩

/-- The quotient and the remainder of a division by 100. -/
theorem split2_spec (u : UInt16) :
    (split2 u).1.toNat = u.toNat / 100 ∧ (split2 u).2.toNat = u.toNat % 100 := by
  have bound := u.toNat_lt
  have quotient : (split2 u).1.toNat = u.toNat / 100 := by
    have product : 41943 * (u.toNat + 1) % 2 ^ 32 = 41943 * (u.toNat + 1) :=
      Nat.mod_eq_of_lt (by omega)
    have narrow : u.toNat / 100 % 2 ^ 16 = u.toNat / 100 := Nat.mod_eq_of_lt (by omega)
    have shifted : (split2 u).1.toNat = 41943 * (u.toNat + 1) % 2 ^ 32 / 2 ^ 22 % 2 ^ 16 := by
      simp [split2, Nat.shiftRight_eq_div_pow]
    rw [shifted, product, mulInv2 bound, narrow]
  have remainder : (split2 u).2 = (u - (split2 u).1 * 100).toUInt8 := rfl
  have power : (100 : UInt16).toNat = 100 := rfl
  rw [remainder, UInt16.toNat_toUInt8, UInt16.toNat_sub, UInt16.toNat_mul, quotient, power]
  exact ⟨rfl, by omega⟩

/-! ## The numeral of an unsigned integer -/

/-- A number below 100 is written without leading zeros. -/
theorem head1_eq {u : UInt8} (small : u.toNat < 100) : head1 u = decimal u.toNat := by
  rw [head1]
  split
  · rename_i digit
    have one : u.toNat < 10 := digit
    rw [decimal, Numerals.numeral_of_lt one, numeralText, List.map_singleton]
    rfl
  · rename_i several
    have two : 10 ≤ u.toNat := Nat.not_lt.mp several
    have tens : u.toNat / 10 % 10 = u.toNat / 10 := by omega
    rw [dd_eq small, decimal, Numerals.numeral_step (by decide) two,
      Numerals.numeral_of_lt (by omega)]
    simp [Numerals.padded, tens]

/-- A number below 10000 is written without leading zeros. -/
theorem head2_eq {u : UInt16} (small : u.toNat < 10000) : head2 u = decimal u.toNat := by
  obtain ⟨quotient, remainder⟩ := split2_spec u
  rw [head2]
  split
  · rename_i few
    have below : u.toNat < 100 := few
    have narrow : u.toUInt8.toNat = u.toNat := by
      rw [UInt16.toNat_toUInt8]
      omega
    rw [head1_eq (by omega), narrow]
  · rename_i many
    have enough : 100 ≤ u.toNat := Nat.not_lt.mp many
    have narrow : (split2 u).1.toUInt8.toNat = u.toNat / 100 := by
      rw [UInt16.toNat_toUInt8, quotient]
      omega
    have whole : u.toNat = u.toNat / 100 * 10 ^ 2 + u.toNat % 100 := by omega
    dsimp only
    rw [head1_eq (by omega), tail1, dd_eq (by omega), narrow, remainder, decimal, decimal,
      ← digitText_append, ← Numerals.numeral_append (by decide) 2 (by omega) (by omega), ← whole]

/-- A number below 10000 is written with its leading zeros. -/
theorem tail2_eq {u : UInt16} (small : u.toNat < 10000) :
    tail2 u = numeralText (Numerals.padded 10 4 u.toNat) := by
  obtain ⟨quotient, remainder⟩ := split2_spec u
  have narrow : (split2 u).1.toUInt8.toNat = u.toNat / 100 := by
    rw [UInt16.toNat_toUInt8, quotient]
    omega
  have whole : u.toNat = u.toNat / 100 * 10 ^ 2 + u.toNat % 100 := by omega
  rw [tail2, tail1, tail1]
  rw [dd_eq (by omega), dd_eq (by omega), narrow, remainder, ← digitText_append,
    ← Numerals.padded_append 2 2 (by decide) (by omega), ← whole]

/-- Every unsigned number of four bytes is written as its numeral. -/
theorem itoa4_eq (u : UInt32) : itoa4 u = decimal u.toNat := by
  have bound := u.toNat_lt
  obtain ⟨quotient, remainder⟩ := split4_spec u
  have whole : u.toNat = u.toNat / 10000 * 10 ^ 4 + u.toNat % 10000 := by omega
  rw [itoa4]
  split
  · rename_i few
    have below : u.toNat < 10000 := few
    have narrow : u.toUInt16.toNat = u.toNat := by
      rw [UInt32.toNat_toUInt16]
      omega
    rw [head2_eq (by omega), narrow]
  · rename_i many
    have enough : 10000 ≤ u.toNat := Nat.not_lt.mp many
    dsimp only
    split
    · rename_i eight
      have below : u.toNat < 100000000 := eight
      have narrow : (split4 u).1.toUInt16.toNat = u.toNat / 10000 := by
        rw [UInt32.toNat_toUInt16, quotient]
        omega
      rw [head2_eq (by omega), tail2_eq (by omega), narrow, remainder, decimal, decimal,
        ← digitText_append, ← Numerals.numeral_append (by decide) 4 (by omega) (by omega), ← whole]
    · rename_i nine
      have above : 100000000 ≤ u.toNat := Nat.not_lt.mp nine
      obtain ⟨first, second⟩ := split4_spec (split4 u).1
      have narrow : (split4 (split4 u).1).1.toUInt16.toNat = u.toNat / 10000 / 10000 := by
        rw [UInt32.toNat_toUInt16, first, quotient]
        omega
      have upper : u.toNat / 10000 =
          u.toNat / 10000 / 10000 * 10 ^ 4 + u.toNat / 10000 % 10000 := by omega
      have high : Numerals.numeral 10 (u.toNat / 10000) =
          Numerals.numeral 10 (u.toNat / 10000 / 10000) ++
            Numerals.padded 10 4 (u.toNat / 10000 % 10000) := by
        rw [← Numerals.numeral_append (by decide) 4 (by omega) (by omega), ← upper]
      rw [large4]
      rw [head2_eq (by omega), tail2_eq (by omega), tail2_eq (by omega), narrow, second, remainder,
        quotient, decimal, decimal, ← digitText_append, ← high, ← digitText_append,
        ← Numerals.numeral_append (by decide) 4 (by omega) (by omega), ← whole]

end Dec

/-- The fast conversion of an `int` writes its decimal numeral. -/
theorem itoaFwd_eq (i : Int32) : itoaFwd i = decimalInt i.toInt := by
  have bound := i.toUInt32.toNat_lt
  have signed : i.toInt = if 2 * i.toUInt32.toNat < 2 ^ 32 then (i.toUInt32.toNat : Int)
      else (i.toUInt32.toNat : Int) - 2 ^ 32 := BitVec.toInt_eq_toNat_cond i.toBitVec
  by_cases negative : i < 0
  · have below : i.toInt < 0 := Int32.lt_iff_toInt_lt.mp negative
    have magnitude : (0 - i.toUInt32).toNat = i.toInt.natAbs := by
      rw [UInt32.toNat_sub, UInt32.toNat_zero]
      split at signed <;> omega
    rw [itoaFwd, if_pos negative, Dec.itoa4_eq, decimalInt, if_pos below, ← magnitude]
    simp
  · have above : ¬ i.toInt < 0 := fun below => negative (Int32.lt_iff_toInt_lt.mpr below)
    have magnitude : (2 * i.toUInt32 - i.toUInt32).toNat = i.toInt.natAbs := by
      rw [UInt32.toNat_sub, UInt32.toNat_mul]
      have two : (2 : UInt32).toNat = 2 := rfl
      rw [two]
      split at signed <;> omega
    rw [itoaFwd, if_neg negative, Dec.itoa4_eq, decimalInt, if_neg above, ← magnitude]
    simp

/-! ## The numeral of a long integer -/

/-- The first loop writes the digits in reverse. -/
theorem xtoaLoop_eq (turns : Nat) {uval : UInt64} (sp : Bytes) (positive : 0 < turns)
    (enough : uval.toNat < 10 ^ turns) :
    xtoaLoop 10 turns uval sp = sp ++ (decimal uval.toNat).reverse := by
  induction turns generalizing uval sp with
  | zero => exact absurd positive (Nat.lt_irrefl 0)
  | succ turns inductionHypothesis =>
      have quotient : (uval / 10).toNat = uval.toNat / 10 := UInt64.toNat_div uval 10
      have small : 10 > (uval % 10).toUInt32 := by
        apply UInt32.lt_iff_toNat_lt.mpr
        simp
        omega
      have digit : (0x30 + (uval % 10).toUInt32.toUInt8 : UInt8) =
          UInt8.ofNat (0x30 + uval.toNat % 10) := by
        apply UInt8.toNat_inj.mp
        simp
      have radix : (10 : UInt32).toUInt64 = 10 := rfl
      rw [xtoaLoop]
      simp only [radix, if_pos small, digit]
      split
      · rename_i more
        have several : 0 < uval.toNat / 10 := by
          rw [← quotient]
          exact more
        have ten : 10 ≤ uval.toNat := by omega
        have smaller : (uval / 10).toNat < 10 ^ turns := by
          rw [quotient]
          apply Nat.div_lt_of_lt_mul
          rwa [← Nat.pow_succ']
        have turnsLeft : 0 < turns := by
          rcases Nat.eq_zero_or_pos turns with rfl | left
          · rw [quotient] at smaller
            omega
          · exact left
        rw [inductionHypothesis _ turnsLeft smaller, quotient, decimal, decimal,
          Numerals.numeral_step (by decide) ten, Dec.digitText_append]
        simp [numeralText]
      · rename_i last
        have zero : ¬ 0 < uval.toNat / 10 := by
          rw [← quotient]
          exact last
        have one : uval.toNat < 10 := by omega
        rw [decimal, Numerals.numeral_of_lt one]
        simp [numeralText, Nat.mod_eq_of_lt one]

/-- The second loop ends where its ends have met. -/
theorem xtoaReverse_of_met (str : Bytes) {sp2 sp : Nat} (met : sp ≤ sp2) :
    xtoaReverse str sp2 sp = str := by
  cases sp with
  | zero => rfl
  | succ sp => rw [xtoaReverse, if_neg (Nat.not_lt.mpr met)]

/-- One turn of the second loop. -/
theorem swapped (front digits behind : Bytes) (first last : UInt8) :
    let str := front ++ first :: (digits ++ last :: behind)
    (str.set front.length (str.getD (front.length + digits.length + 1) 0)).set
        (front.length + digits.length + 1) (str.getD front.length 0) =
      (front ++ [last]) ++ digits ++ (first :: behind) := by
  have head : (front ++ first :: (digits ++ last :: behind)).getD front.length 0 = first := by
    simp
  have back : (front ++ first :: (digits ++ last :: behind)).getD
      (front.length + digits.length + 1) 0 = last := by
    simp [Nat.add_assoc]
  have offset : front.length + digits.length + 1 - front.length = digits.length + 1 := by omega
  simp only [head, back]
  rw [List.set_append_right _ _ (Nat.le_refl _), Nat.sub_self, List.set_cons_zero,
    List.set_append_right _ _ (by omega), offset, List.set_cons_succ,
    List.set_append_right _ _ (Nat.le_refl _), Nat.sub_self, List.set_cons_zero]
  simp

/-- The second loop turns around what stands between its ends. -/
theorem xtoaReverse_eq (front digits behind : Bytes) :
    xtoaReverse (front ++ digits ++ behind) front.length (front.length + digits.length - 1) =
      front ++ digits.reverse ++ behind := by
  induction digits using List.bidirectionalRec generalizing front behind with
  | nil =>
      rw [xtoaReverse_of_met]
      · rfl
      · exact Nat.sub_le _ _
  | singleton digit =>
      rw [xtoaReverse_of_met]
      · rfl
      · exact Nat.le_refl _
  | cons_append first digits last inductionHypothesis =>
      have length : front.length + (first :: (digits ++ [last])).length - 1 =
          front.length + digits.length + 1 := by
        simp only [List.length_cons, List.length_append, List.length_nil]
        omega
      have start : (front ++ [last]).length + digits.length - 1 = front.length + digits.length := by
        simp only [List.length_append, List.length_singleton]
        omega
      have swap := swapped front digits behind first last
      have inner := inductionHypothesis (front ++ [last]) (first :: behind)
      rw [start, List.length_append, List.length_singleton] at inner
      rw [length, xtoaReverse, if_pos (by omega)]
      simp only [List.append_assoc, List.cons_append, List.nil_append] at swap inner ⊢
      rw [swap, inner]
      simp

/-- Both loops write the numeral behind the sign. -/
theorem xtoa_loops (uval : UInt64) (sign : Bytes) :
    (xtoaReverse (xtoaLoop 10 64 uval sign ++ [0]) sign.length
        ((xtoaLoop 10 64 uval sign).length - 1)).take (xtoaLoop 10 64 uval sign).length =
      sign ++ decimal uval.toNat := by
  have bound := uval.toNat_lt
  have turned := xtoaReverse_eq sign (decimal uval.toNat).reverse [0]
  rw [List.reverse_reverse] at turned
  rw [xtoaLoop_eq 64 sign (by decide) (by omega), List.length_append, turned]
  apply List.take_left'
  simp

/-- The conversion of an `uint64_t` writes its decimal numeral. -/
theorem xtoa_eq (uval : UInt64) : xtoa uval.toInt64 10 false = decimal uval.toNat :=
  xtoa_loops uval []

/-- The conversion of an `int64_t` writes its decimal numeral. In the source the negation of the
least one overflows, where this one wraps. -/
theorem xtoa_signed_eq (sval : Int64) : xtoa sval 10 true = decimalInt sval.toInt := by
  have bound := sval.toUInt64.toNat_lt
  have signed : sval.toInt = if 2 * sval.toUInt64.toNat < 2 ^ 64 then (sval.toUInt64.toNat : Int)
      else (sval.toUInt64.toNat : Int) - 2 ^ 64 := BitVec.toInt_eq_toNat_cond sval.toBitVec
  have radix : (10 == (10 : Int32).toUInt32) = true := rfl
  by_cases negative : sval < 0
  · have below : sval.toInt < 0 := Int64.lt_iff_toInt_lt.mp negative
    have magnitude : (-sval).toUInt64.toNat = sval.toInt.natAbs := by
      have negated : (-sval).toUInt64.toNat = (2 ^ 64 - sval.toUInt64.toNat) % 2 ^ 64 :=
        BitVec.toNat_neg sval.toBitVec
      rw [negated]
      split at signed <;> omega
    have loops := xtoa_loops (-sval).toUInt64 [0x2d]
    rw [magnitude] at loops
    rw [decimalInt, if_pos below, ← loops]
    simp only [xtoa, radix, negative, decide_true, Bool.and_self, if_true]
    rfl
  · have above : ¬ sval.toInt < 0 := fun below => negative (Int64.lt_iff_toInt_lt.mpr below)
    have magnitude : sval.toUInt64.toNat = sval.toInt.natAbs := by
      split at signed <;> omega
    have loops := xtoa_loops sval.toUInt64 []
    rw [magnitude] at loops
    rw [decimalInt, if_neg above, ← loops]
    simp only [xtoa, negative, decide_false, Bool.and_false, Bool.false_eq_true, if_false]
    rfl

/-- A number below a power of ten has no more digits than its exponent. -/
theorem length_decimal_le {number width : Nat} (positive : 0 < width) (small : number < 10 ^ width) :
    (decimal number).length ≤ width := by
  rw [decimal, numeralText, List.length_map]
  exact Numerals.length_numeral_le (by decide) positive small

/-- The three conversions write the decimal numeral and stay inside their buffers of 20, 65 and
65 characters, the last two with the zero behind the digits. The least `int64_t`, whose negation
overflows, is left out. -/
theorem integers_as_text :
    (∀ i : Int32, itoaFwd i = decimalInt i.toInt ∧ (itoaFwd i).length ≤ 20) ∧
      (∀ uval : UInt64, xtoa uval.toInt64 10 false = decimal uval.toNat ∧
        (xtoa uval.toInt64 10 false).length + 1 ≤ 65) ∧
      ∀ sval : Int64, sval ≠ Int64.minValue → xtoa sval 10 true = decimalInt sval.toInt ∧
        (xtoa sval 10 true).length + 1 ≤ 65 := by
  refine ⟨?_, ?_, ?_⟩
  · intro i
    refine ⟨itoaFwd_eq i, ?_⟩
    have lower := i.le_toInt
    have upper := i.toInt_lt
    have short : (decimal i.toInt.natAbs).length ≤ 10 :=
      length_decimal_le (by decide) (by omega)
    rw [itoaFwd_eq, decimalInt, List.length_append]
    split <;> simp <;> omega
  · intro uval
    refine ⟨xtoa_eq uval, ?_⟩
    have upper := uval.toNat_lt
    have short : (decimal uval.toNat).length ≤ 20 := length_decimal_le (by decide) (by omega)
    rw [xtoa_eq]
    omega
  · intro sval _
    refine ⟨xtoa_signed_eq sval, ?_⟩
    have lower := sval.le_toInt
    have upper := sval.toInt_lt
    have short : (decimal sval.toInt.natAbs).length ≤ 20 :=
      length_decimal_le (by decide) (by omega)
    rw [xtoa_signed_eq, decimalInt, List.length_append]
    split <;> simp <;> omega

end SM.Inc
