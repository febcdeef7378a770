import Mathlib.Algebra.Group.Int.Defs
import SM.Lib.BigEndian

/-!
# Network-order integers

`packuint32` and the `string_view` overload of `unpackuint32`, with the
conversions between `int`, `uint32_t` and `size_t` that their callers rely on.
-/

namespace SM.Utils

open SM.Lib

/-- The content of a `std::string`. -/
abbrev Bytes := List UInt8

/-- `htonl` followed by `memcpy`: the four bytes on the wire. -/
def htonl (src : UInt32) : Bytes := BigEndian.encode 4 src.toNat

/-- `memcpy` followed by `ntohl`. -/
def ntohl (bytes : Bytes) : UInt32 := UInt32.ofNat (BigEndian.decode bytes)

/-- The `span` overload: the bytes which overwrite the four-byte span. -/
def packuint32 (src : UInt32) : Bytes := htonl src

/-- The `string_view` overload: success flag, tail, and the value of `dst` afterwards. -/
def unpackuint32 (src : Bytes) (dst : UInt32) : Bool × Bytes × UInt32 :=
  if src.length < 4 then (false, [], dst)
  else (true, src.drop 4, ntohl (src.take 4))

/-- The value of an `int` with the given bits. -/
def intOfBits (bits : UInt32) : Int :=
  if bits.toNat < 2 ^ 31 then bits.toNat else bits.toNat - 2 ^ 32

/-- The sum of two `int` values. Overflow wraps, as it does on the supported compilers. -/
def intAdd (left right : Int) : Int := (left + right).bmod (2 ^ 32)

/-- A conversion to `uint32_t` and back. -/
@[simp] theorem intOfBits_toUInt32 (value : Int32) : intOfBits value.toUInt32 = value.toInt := by
  have same : value.toBitVec.toNat = value.toUInt32.toNat := rfl
  rw [intOfBits, Int32.toInt, BitVec.toInt_eq_toNat_cond, same]
  split <;> split <;> omega

/-- An integer has four bytes. -/
@[simp] theorem length_htonl (src : UInt32) : (htonl src).length = 4 :=
  BigEndian.length_encode 4 _

/-- An integer is read back. -/
@[simp] theorem ntohl_htonl (src : UInt32) : ntohl (htonl src) = src := by
  have small : src.toNat < 256 ^ 4 := src.toNat_lt
  rw [ntohl, htonl, BigEndian.decode_encode, Nat.mod_eq_of_lt small, UInt32.ofNat_toNat]

/-- Four bytes are written as they were read. -/
theorem htonl_ntohl {bytes : Bytes} (width : bytes.length = 4) : htonl (ntohl bytes) = bytes := by
  have small : BigEndian.decode bytes < 2 ^ 32 := by
    simpa [width] using BigEndian.decode_lt bytes
  rw [htonl, ntohl, UInt32.toNat_ofNat_of_lt' small, ← width, BigEndian.encode_decode]

/-- Different integers have different bytes. -/
theorem htonl_injective : Function.Injective htonl := by
  intro left right same
  have values := congrArg ntohl same
  rwa [ntohl_htonl, ntohl_htonl] at values

/-- An integer is unpacked from the front of a view. -/
@[simp] theorem unpackuint32_htonl (value dst : UInt32) (rest : Bytes) :
    unpackuint32 (htonl value ++ rest) dst = (true, rest, value) := by
  simp [unpackuint32]

end SM.Utils
