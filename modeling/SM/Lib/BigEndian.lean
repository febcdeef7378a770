import Mathlib.Algebra.Group.Nat.Defs

/-!
# Big-endian naturals

Fixed-width big-endian encoding of natural numbers as bytes. `decode_encode`
recovers the number modulo the width, and `encode_decode` recovers the bytes, so
the codec is a bijection between `width` bytes and the numbers below `256 ^ width`.
-/

namespace SM.Lib.BigEndian

/-- The `width` low-order bytes of `value`, most significant first. -/
def encode : Nat → Nat → List UInt8
  | 0, _ => []
  | width + 1, value => UInt8.ofNat (value / 256 ^ width) :: encode width value

/-- The number a most-significant-first byte string denotes. -/
def decode : List UInt8 → Nat
  | [] => 0
  | byte :: rest => byte.toNat * 256 ^ rest.length + decode rest

/-- An encoding has the width it should have. -/
@[simp] theorem length_encode (width value : Nat) : (encode width value).length = width := by
  induction width with
  | zero => rfl
  | succ width inductionHypothesis => simp [encode, inductionHypothesis]

/-- Bytes decode to less than the power of their number. -/
theorem decode_lt (bytes : List UInt8) : decode bytes < 256 ^ bytes.length := by
  induction bytes with
  | nil => simp [decode]
  | cons byte rest inductionHypothesis =>
      have digit : byte.toNat + 1 ≤ 256 := byte.toNat_lt
      calc decode (byte :: rest)
          < byte.toNat * 256 ^ rest.length + 256 ^ rest.length :=
            Nat.add_lt_add_left inductionHypothesis _
        _ = (byte.toNat + 1) * 256 ^ rest.length := by rw [Nat.succ_mul]
        _ ≤ 256 * 256 ^ rest.length := Nat.mul_le_mul_right _ digit
        _ = 256 ^ (byte :: rest).length := by rw [List.length_cons, Nat.pow_succ, Nat.mul_comm]

/-- Decoding an encoding keeps exactly the bits that fit the width. -/
theorem decode_encode (width value : Nat) :
    decode (encode width value) = value % 256 ^ width := by
  induction width with
  | zero => simp [encode, decode, Nat.mod_one]
  | succ width inductionHypothesis =>
      have digit : (UInt8.ofNat (value / 256 ^ width)).toNat = value / 256 ^ width % 256 := by
        simp
      simp only [encode, decode, length_encode, inductionHypothesis, digit]
      rw [Nat.pow_succ, Nat.mod_mul, Nat.mul_comm, Nat.add_comm]

/-- Two numbers which agree modulo the width have the same bytes. -/
theorem encode_mod (width value bound : Nat) (fits : 256 ^ width ∣ bound) :
    encode width (value % bound) = encode width value := by
  induction width with
  | zero => rfl
  | succ width inductionHypothesis =>
      have fitsTail : 256 ^ width ∣ bound :=
        Nat.dvd_trans (Nat.pow_dvd_pow 256 (Nat.le_succ width)) fits
      obtain ⟨factor, rfl⟩ := fits
      have digit : value % (256 ^ (width + 1) * factor) / 256 ^ width % 256 =
          value / 256 ^ width % 256 := by
        rw [Nat.pow_succ, Nat.mul_assoc, Nat.mod_mul_right_div_self, Nat.mod_mul_right_mod]
      have same : UInt8.ofNat (value % (256 ^ (width + 1) * factor) / 256 ^ width) =
          UInt8.ofNat (value / 256 ^ width) := by
        rw [← UInt8.toNat_inj]
        simpa using digit
      rw [encode, encode, inductionHypothesis fitsTail, same]

/-- Encoding what was decoded gives the same bytes back. -/
theorem encode_decode (bytes : List UInt8) : encode bytes.length (decode bytes) = bytes := by
  induction bytes with
  | nil => rfl
  | cons byte rest inductionHypothesis =>
      have small := decode_lt rest
      have positive : 0 < 256 ^ rest.length := Nat.pow_pos (by decide)
      have head : decode (byte :: rest) / 256 ^ rest.length = byte.toNat := by
        rw [decode, Nat.mul_comm, Nat.mul_add_div positive, Nat.div_eq_of_lt small, Nat.add_zero]
      have tail : decode (byte :: rest) % 256 ^ rest.length = decode rest := by
        rw [decode, Nat.mul_comm, Nat.mul_add_mod, Nat.mod_eq_of_lt small]
      rw [List.length_cons, encode, head, ← encode_mod _ _ _ (Nat.dvd_refl _), tail,
        inductionHypothesis]
      simp

end SM.Lib.BigEndian
