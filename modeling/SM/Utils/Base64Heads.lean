import Mathlib.Logic.Basic
import SM.Utils.Base64
import SM.Utils.HeadDecoders

/-!
# Base64 heads

`packcmdrep` writes a command and a length as 12 characters, which `parsecmd` reads, and
`parsesubcmd` reads 8 characters without the main command. The readers take a length through
a `u_long`, which may be wider than what was decoded: `headsRead_iff` says when it is not.
-/

namespace SM.Utils

/-- `cmdhead`, whose main command is `MainCmdBegin` at first. -/
structure CmdHead where
  mainc : Int := 1
  assc : UInt16 := 0
  len : UInt32 := 0
deriving DecidableEq

/-- `cmdsubhead` -/
structure CmdSubHead where
  assc : UInt16 := 0
  len : UInt32 := 0
deriving DecidableEq

/-- An integer which is read from a vector: its offset and its width. -/
structure Access where
  offset : Nat
  width : Nat
deriving DecidableEq

section Library

variable (base64 : Base64)

/-- The four bytes of a length, as 8 characters. -/
def packlen (len : Nat) : Bytes :=
  base64.encode (htonl (UInt32.ofNat len))

def packcmdrep (mainc : Int) (assc : Int16) (len : Nat) : Bytes :=
  base64.encode (htons (UInt16.ofInt mainc) ++ htons assc.toUInt16 ++ htonl (UInt32.ofNat len))

/-- The bytes of a head of the given size. Where decoding throws, what is thrown is caught. -/
def decodedHead (size : Nat) (header : Bytes) : Option Bytes :=
  (base64.decode header).filter (·.length = size)

/-- `ntohl` takes the low 32 bits of a `u_long`. On a little-endian machine these are its first four
bytes, whatever its width. -/
def parsecmd (header : Bytes) : CmdHead :=
  match decodedHead base64 8 header with
  | none => {}
  | some decodex =>
      { mainc := (ntohs (decodex.take 2)).toNat
        assc := ntohs ((decodex.drop 2).take 2)
        len := ntohl ((decodex.drop 4).take 4) }

def parsesubcmd (header : Bytes) : CmdSubHead :=
  match decodedHead base64 6 header with
  | none => {}
  | some decodex =>
      { assc := ntohs (decodex.take 2)
        len := ntohl ((decodex.drop 2).take 4) }

/-- What `parsecmd` reads from the decoded bytes, where `uLong` is the size of `u_long`. -/
def parsecmdAccesses (uLong : Nat) (header : Bytes) : List Access :=
  match decodedHead base64 8 header with
  | none => []
  | some _ => [⟨0, 2⟩, ⟨2, 2⟩, ⟨4, uLong⟩]

/-- What `parsesubcmd` reads from the decoded bytes. -/
def parsesubcmdAccesses (uLong : Nat) (header : Bytes) : List Access :=
  match decodedHead base64 6 header with
  | none => []
  | some _ => [⟨0, 2⟩, ⟨2, uLong⟩]

/-- All accesses are inside a vector. -/
def Inside (size : Nat) (accesses : List Access) : Prop :=
  ∀ access ∈ accesses, access.offset + access.width ≤ size

instance (size : Nat) (accesses : List Access) : Decidable (Inside size accesses) :=
  inferInstanceAs (Decidable (∀ access ∈ accesses, _))

/-- Heads are read back as they were written, and from any text nothing is read but what it decodes
to. -/
structure HeadsRead (uLong : Nat) (header : Bytes) : Prop where
  roundTrip : ∀ (mainc : UInt16) (assc : Int16) (len : Nat), len < 0x100000000 →
    parsecmd base64 (packcmdrep base64 mainc.toNat assc len) =
      ⟨mainc.toNat, assc.toUInt16, UInt32.ofNat len⟩ ∧ (UInt32.ofNat len).toNat = len
  cmdInside : Inside 8 (parsecmdAccesses base64 uLong header)
  subInside : Inside 6 (parsesubcmdAccesses base64 uLong header)
  cmdDefault : (∀ decodex, base64.decode header = some decodex → decodex.length ≠ 8) →
    parsecmd base64 header = {}
  subDefault : (∀ decodex, base64.decode header = some decodex → decodex.length ≠ 6) →
    parsesubcmd base64 header = {}

end Library

variable {base64 : Base64} {uLong size : Nat} {header decodex : Bytes}

/-- A head is decoded if it has the right number of bytes. -/
theorem decodedHead_eq_some : decodedHead base64 size header = some decodex ↔
    base64.decode header = some decodex ∧ decodex.length = size := by
  simp [decodedHead, Option.filter_eq_some_iff]

/-- A head is not decoded if it has another number of bytes, or none. -/
theorem decodedHead_eq_none : decodedHead base64 size header = none ↔
    ∀ decodex, base64.decode header = some decodex → decodex.length ≠ size := by
  rw [Option.eq_none_iff_forall_ne_some]
  simp [decodedHead_eq_some]

/-- An encoded head is decoded. -/
theorem decodedHead_encode {bytes : Bytes} (width : bytes.length = size) :
    decodedHead base64 size (base64.encode bytes) = some bytes :=
  decodedHead_eq_some.mpr ⟨base64.decode_encode bytes, width⟩

/-- The fields of a head, as they were encoded. -/
theorem parsecmd_encode (mainc assc : UInt16) (len : UInt32) :
    parsecmd base64 (base64.encode (htons mainc ++ htons assc ++ htonl len)) =
      ⟨mainc.toNat, assc, len⟩ := by
  have decoded : decodedHead base64 8 (base64.encode (htons mainc ++ htons assc ++ htonl len)) =
      some (htons mainc ++ htons assc ++ htonl len) := decodedHead_encode (by simp)
  have first : (htons mainc ++ htons assc ++ htonl len).take 2 = htons mainc := by
    rw [List.append_assoc, List.take_left' (length_htons mainc)]
  have second : ((htons mainc ++ htons assc ++ htonl len).drop 2).take 2 = htons assc := by
    rw [List.append_assoc, List.drop_left' (length_htons mainc),
      List.take_left' (length_htons assc)]
  have third : ((htons mainc ++ htons assc ++ htonl len).drop 4).take 4 = htonl len := by
    rw [List.drop_left' (by simp), List.take_of_length_le (by simp)]
  simp only [parsecmd, decoded, first, second, third, ntohs_htons, ntohl_htonl]

/-- The head of an assistant command is read back. -/
theorem parsesubcmd_encode (assc : UInt16) (len : UInt32) :
    parsesubcmd base64 (base64.encode (htons assc ++ htonl len)) = ⟨assc, len⟩ := by
  have decoded : decodedHead base64 6 (base64.encode (htons assc ++ htonl len)) =
      some (htons assc ++ htonl len) := decodedHead_encode (by simp)
  have first : (htons assc ++ htonl len).take 2 = htons assc :=
    List.take_left' (length_htons assc)
  have second : ((htons assc ++ htonl len).drop 2).take 4 = htonl len := by
    rw [List.drop_left' (length_htons assc), List.take_of_length_le (by simp)]
  simp only [parsesubcmd, decoded, first, second, ntohs_htons, ntohl_htonl]

/-- The head of both commands is read back. -/
theorem parsecmd_packcmdrep (mainc : UInt16) (assc : Int16) (len : Nat) :
    parsecmd base64 (packcmdrep base64 mainc.toNat assc len) =
      ⟨mainc.toNat, assc.toUInt16, UInt32.ofNat len⟩ := by
  rw [packcmdrep, ofInt_toNat, parsecmd_encode]

/-- The accesses of a head with both commands stay inside for a narrow long, or without a head. -/
theorem cmdInside_iff : Inside 8 (parsecmdAccesses base64 uLong header) ↔
    uLong ≤ 4 ∨ decodedHead base64 8 header = none := by
  unfold parsecmdAccesses
  cases decodedHead base64 8 header with
  | none => simp [Inside]
  | some decodex =>
      simp only [Inside, List.forall_mem_cons, List.not_mem_nil, false_imp_iff, implies_true,
        and_true, reduceCtorEq, or_false]
      omega

/-- The accesses of a head with one command stay inside for a narrow long, or without a head. -/
theorem subInside_iff : Inside 6 (parsesubcmdAccesses base64 uLong header) ↔
    uLong ≤ 4 ∨ decodedHead base64 6 header = none := by
  unfold parsesubcmdAccesses
  cases decodedHead base64 6 header with
  | none => simp [Inside]
  | some decodex =>
      simp only [Inside, List.forall_mem_cons, List.not_mem_nil, false_imp_iff, implies_true,
        and_true, reduceCtorEq, or_false]
      omega

/-- The readers stay inside of what was decoded if and only if a `u_long` has four bytes or the text
decodes to no head. -/
theorem headsRead_iff (base64 : Base64) (uLong : Nat) (header : Bytes) :
    HeadsRead base64 uLong header ↔ uLong ≤ 4 ∨ ∀ decodex,
      base64.decode header = some decodex → decodex.length ≠ 8 ∧ decodex.length ≠ 6 := by
  have noHead : (∀ decodex, base64.decode header = some decodex →
      decodex.length ≠ 8 ∧ decodex.length ≠ 6) ↔
        decodedHead base64 8 header = none ∧ decodedHead base64 6 header = none := by
    rw [decodedHead_eq_none, decodedHead_eq_none]
    exact forall₂_and
  rw [noHead, or_and_left, ← cmdInside_iff, ← subInside_iff]
  constructor
  · intro read
    exact ⟨read.cmdInside, read.subInside⟩
  · rintro ⟨cmdInside, subInside⟩
    refine ⟨?_, cmdInside, subInside, ?_, ?_⟩
    · intro mainc assc len short
      exact ⟨parsecmd_packcmdrep mainc assc len, UInt32.toNat_ofNat_of_lt' short⟩
    · intro other
      rw [parsecmd, decodedHead_eq_none.mpr other]
    · intro other
      rw [parsesubcmd, decodedHead_eq_none.mpr other]

/-- With a `u_long` of eight bytes a complete head is read beyond its end. -/
theorem headsRead_wide : ¬HeadsRead rfc4648 8 (packcmdrep rfc4648 5 2 0) := by
  intro read
  exact absurd read.cmdInside (by decide)

end SM.Utils
