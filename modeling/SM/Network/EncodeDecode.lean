import Mathlib.Tactic.ByContra
import SM.Network.TcpStreamHandler
import SM.Utils.Base64Heads

/-!
# Decoders beside the packers

`NetEncodeDecodeImpl::dencode` and `PackEncodeDecodeImpl::decode` read what `_packnethead` and
`packmaincmd3` write. `dencode` erases the length of a message and leaves the message in the buffer:
`dencode_splits_iff`. `decode` takes each field at the width of a `u_long`, and never checks that
the bytes are there: `decode_agrees_iff`.
-/

namespace SM.Network

open SM.Lib SM.Utils

/-! ## Messages behind their length -/

/-- The C string that a pointer to these bytes and the zero behind them stands for. -/
def cStringBytes (bytes : Bytes) : Bytes := bytes.takeWhile (· ≠ 0)

/-- What `dencode` returns, and both strings afterwards. -/
structure Dencoded where
  ret : Nat
  req : Bytes
  rep : Bytes
deriving DecidableEq

/-- `ntohl` takes the low 32 bits of a `u_long`. On a little-endian machine these are its first four
bytes, whatever its width. -/
def dencode (headtype : NetHeadType) (fixLen : Nat) (req rep : Bytes) : Dencoded :=
  match headtype with
  | .fixPackLenPlaceHolder =>
      if fixLen < req.length then
        let t := (ntohl (req.take 4)).toNat
        if fixLen + t ≤ req.length then
          -- The length is erased, and the message stays.
          { ret := t, req := req.drop fixLen, rep := cStringBytes (req.drop fixLen) }
        else { ret := 0, req, rep }
      else { ret := 0, req, rep }
  | .noPlaceHolderFixLen =>
      if fixLen ≤ req.length then
        { ret := fixLen, req := req.drop fixLen, rep := req.take fixLen }
      else { ret := 0, req, rep }
  | .noPlaceHolderVarLen => { ret := req.length, req := [], rep := req }

/-- Repeated calls on one buffer: what each returns and gives, and the buffer afterwards. -/
def dencodes (headtype : NetHeadType) (fixLen : Nat) : Nat → Bytes → Bytes →
    List (Nat × Bytes) × Bytes
  | 0, req, _ => ([], req)
  | calls + 1, req, rep =>
      let called := dencode headtype fixLen req rep
      let (later, req) := dencodes headtype fixLen calls called.req called.rep
      ((called.ret, called.rep) :: later, req)

/-- Messages in a buffer, with the beginning of a further one. -/
structure FramedBuffer where
  messages : List Bytes
  nonempty : ∀ msg ∈ messages, msg ≠ []
  cut : Bytes
  /-- The message which was cut off. -/
  last : Bytes
  lastNonempty : last ≠ []
  lastBound : last.length < 2 ^ 32
  incomplete : ∃ missing, missing ≠ [] ∧ cut ++ missing = TcpStreamHandler.frame last

namespace FramedBuffer

def bytes (buffer : FramedBuffer) : Bytes :=
  buffer.messages.flatMap TcpStreamHandler.frame ++ buffer.cut

/-- The calls give the messages, and a further one finds what is left incomplete. -/
def Split (buffer : FramedBuffer) (rep : Bytes) : Prop :=
  dencodes .fixPackLenPlaceHolder 4 buffer.messages.length buffer.bytes rep =
      (buffer.messages.map fun msg => (msg.length, msg), buffer.cut) ∧
    ∀ rep, dencode .fixPackLenPlaceHolder 4 buffer.cut rep = ⟨0, buffer.cut, rep⟩

end FramedBuffer

/-- A call takes the length at most. -/
theorem length_dencode (req rep : Bytes) :
    req.length ≤ (dencode .fixPackLenPlaceHolder 4 req rep).req.length + 4 := by
  simp only [dencode]
  split
  · split
    · simp only [List.length_drop]
      omega
    · exact Nat.le_add_right _ _
  · exact Nat.le_add_right _ _

/-- Some calls take at most a head each. -/
theorem length_dencodes (calls : Nat) (req rep : Bytes) :
    req.length ≤ (dencodes .fixPackLenPlaceHolder 4 calls req rep).2.length + 4 * calls := by
  induction calls generalizing req rep with
  | zero => exact Nat.le_refl _
  | succ calls inductionHypothesis =>
      have first := length_dencode req rep
      have later := inductionHypothesis (dencode .fixPackLenPlaceHolder 4 req rep).req
        (dencode .fixPackLenPlaceHolder 4 req rep).rep
      simp only [dencodes]
      omega

/-- A frame has four bytes more than its message. -/
theorem length_frame (msg : Bytes) : (TcpStreamHandler.frame msg).length = 4 + msg.length := by
  simp [TcpStreamHandler.frame, packuint32String]

/-- Frames of messages are longer than their lengths. -/
theorem lt_length_flatMap_frame {messages : List Bytes} (nonempty : ∀ msg ∈ messages, msg ≠ [])
    (present : messages ≠ []) :
    4 * messages.length < (messages.flatMap TcpStreamHandler.frame).length := by
  induction messages with
  | nil => exact absurd rfl present
  | cons msg messages inductionHypothesis =>
      have positive := List.length_pos_iff.mpr (nonempty msg List.mem_cons_self)
      rw [List.flatMap_cons, List.length_append, length_frame, List.length_cons]
      by_cases more : messages = []
      · simp only [more, List.length_nil, List.flatMap_nil]
        omega
      · have later := inductionHypothesis
          (fun other member => nonempty other (List.mem_cons_of_mem _ member)) more
        omega

/-- A frame starts with its length. -/
theorem take_frame (msg rest : Bytes) :
    (TcpStreamHandler.frame msg ++ rest).take 4 = htonl (UInt32.ofNat msg.length) := by
  rw [TcpStreamHandler.frame, packuint32String, List.nil_append, List.append_assoc,
    List.take_left' (length_htonl _)]

/-- An incomplete message is left where it is. -/
theorem dencode_incomplete (buffer : FramedBuffer) (rep : Bytes) :
    dencode .fixPackLenPlaceHolder 4 buffer.cut rep = ⟨0, buffer.cut, rep⟩ := by
  obtain ⟨missing, something, whole⟩ := buffer.incomplete
  have positive := List.length_pos_iff.mpr something
  have length := congrArg List.length whole
  rw [List.length_append, length_frame] at length
  simp only [dencode]
  by_cases long : 4 < buffer.cut.length
  · have begins : (buffer.cut ++ missing).take 4 = buffer.cut.take 4 :=
      List.take_append_of_le_length (Nat.le_of_lt long)
    have head : buffer.cut.take 4 = htonl (UInt32.ofNat buffer.last.length) := by
      rw [← begins, whole, ← List.append_nil (TcpStreamHandler.frame buffer.last), take_frame]
    have declared : (UInt32.ofNat buffer.last.length).toNat = buffer.last.length :=
      UInt32.toNat_ofNat_of_lt' buffer.lastBound
    rw [if_pos long, head, ntohl_htonl, declared, if_neg (by omega)]
  · rw [if_neg long]

/-- The messages of a buffer are split off if and only if there are none. -/
theorem dencode_splits_iff (buffer : FramedBuffer) (rep : Bytes) :
    buffer.Split rep ↔ buffer.messages = [] := by
  constructor
  · rintro ⟨split, -⟩
    by_contra present
    have left := length_dencodes buffer.messages.length buffer.bytes rep
    have longer := lt_length_flatMap_frame buffer.nonempty present
    rw [split, FramedBuffer.bytes, List.length_append] at left
    dsimp only at left
    omega
  · intro none
    refine ⟨?_, dencode_incomplete buffer⟩
    simp [none, FramedBuffer.bytes, dencodes]

/-- A message of one byte, and nothing behind it. -/
def singleMessage : FramedBuffer where
  messages := [[7]]
  nonempty := by decide
  cut := []
  last := [7]
  lastNonempty := by decide
  lastBound := by decide
  incomplete := ⟨TcpStreamHandler.frame [7], by decide, rfl⟩

/-- The message stays in the buffer. -/
theorem dencode_single :
    dencode .fixPackLenPlaceHolder 4 singleMessage.bytes [] = ⟨1, [7], [7]⟩ ∧
      ¬ singleMessage.Split [] := by
  refine ⟨by decide, ?_⟩
  rintro ⟨split, -⟩
  exact absurd split (by decide)

/-! ## Heads of commands -/

/-- The size of `u_long`, of which the language says that it is 32 bits at least. -/
structure ULong where
  size : Nat
  wide : 4 ≤ size

inductive PackType where
  | noHead
  | fixMainSubHead
  | fixMainHead
  | fixSubHead
  | max
deriving DecidableEq

/-- What `decode` returns, and the three references afterwards. -/
structure DecodedPack where
  ret : Bool
  req : Bytes
  head : CmdHead
  rep : Bytes
deriving DecidableEq

/-- An integer is read at the start of `req` and erased; `none` where that many bytes are not
there. -/
def takeInteger (width : Nat) (req : Bytes) : Option (Bytes × Bytes) :=
  if width ≤ req.length then some (req.take width, req.drop width) else none

/-- `ntohl` takes the low 32 bits of a `u_long`. -/
def takeULong (uLong : ULong) (req : Bytes) : Option (UInt32 × Bytes) :=
  (takeInteger uLong.size req).map fun (bytes, req) => (ntohl (bytes.take 4), req)

def takeUShort (req : Bytes) : Option (UInt16 × Bytes) :=
  (takeInteger 2 req).map fun (bytes, req) => (ntohs bytes, req)

/-- `none` where bytes are read or erased that are not there. -/
def decode (uLong : ULong) (pt : PackType) (req : Bytes) (head : CmdHead) (rep : Bytes) :
    Option DecodedPack :=
  match pt with
  | .noHead => some { ret := true, req := [], head, rep := req }
  | .fixMainSubHead => do
      let (mainc, req) ← takeULong uLong req
      let (assc, req) ← takeUShort req
      let (len, req) ← takeULong uLong req
      return { ret := true, req := [], head := ⟨intOfBits mainc, assc, len⟩, rep := req }
  | .fixMainHead => do
      let (mainc, req) ← takeULong uLong req
      let (len, req) ← takeULong uLong req
      return { ret := true, req := [], head := { head with mainc := intOfBits mainc, len },
               rep := req }
  | .fixSubHead => do
      let (assc, req) ← takeUShort req
      let (len, req) ← takeULong uLong req
      return { ret := true, req := [], head := { head with assc, len }, rep := req }
  | .max => some { ret := false, req, head, rep }

/-- The bytes of a head on the wire. -/
def PackType.headLen : PackType → Nat
  | .fixMainSubHead => 8
  | .fixMainHead => 8
  | .fixSubHead => 6
  | .noHead | .max => 0

/-- What `decode` is given: a packed message, or less than a head. -/
inductive DecodeInput where
  | mainSub (mainc assc : UInt16) (msg : Bytes) (bound : msg.length < 2 ^ 32)
  | sub (assc : UInt16) (msg : Bytes) (bound : msg.length < 2 ^ 32)
  | short (pt : PackType) (req : Bytes) (less : req.length < pt.headLen)

namespace DecodeInput

/-- A packed message is read back. Less than a head is refused, and nothing outside it is read. -/
def Agrees (uLong : ULong) (head : CmdHead) (rep : Bytes) : DecodeInput → Prop
  | .mainSub mainc assc msg _ =>
      ∃ decoded, decode uLong .fixMainSubHead (packmaincmd3Main mainc.toNat assc.toNat [] msg) head
          rep = some decoded ∧ decoded.ret = true ∧
        decoded.head.mainc = mainc.toNat ∧ decoded.head.assc = assc ∧
        decoded.head.len.toNat = msg.length ∧ decoded.rep = msg
  | .sub assc msg _ =>
      ∃ decoded, decode uLong .fixSubHead (packmaincmd3Ass assc.toNat [] msg) head rep =
          some decoded ∧ decoded.ret = true ∧
        decoded.head.assc = assc ∧ decoded.head.len.toNat = msg.length ∧ decoded.rep = msg
  | .short pt req _ =>
      ∃ decoded, decode uLong pt req head rep = some decoded ∧ decoded.ret = false

/-- A message behind an assistant command alone. -/
def IsSub : DecodeInput → Prop
  | .sub .. => True
  | _ => False

end DecodeInput

/-- An integer is taken if there are enough bytes. -/
theorem takeInteger_eq_some {width : Nat} {req bytes rest : Bytes} :
    takeInteger width req = some (bytes, rest) ↔ req = bytes ++ rest ∧ bytes.length = width := by
  unfold takeInteger
  constructor
  · intro taken
    split at taken
    · next enough =>
        cases taken
        exact ⟨(List.take_append_drop width req).symm, List.length_take_of_le enough⟩
    · cases taken
  · rintro ⟨rfl, rfl⟩
    simp

/-- `packmaincmd3` writes a length where `decode` takes it if `u_long` has four bytes. -/
theorem takeULong_htonl {uLong : ULong} (four : uLong.size = 4) (value : UInt32) (rest : Bytes) :
    takeULong uLong (htonl value ++ rest) = some (value, rest) := by
  have taken : takeInteger uLong.size (htonl value ++ rest) = some (htonl value, rest) :=
    takeInteger_eq_some.mpr ⟨rfl, by rw [length_htonl, four]⟩
  simp [takeULong, taken, List.take_of_length_le]

/-- A written short is taken. -/
theorem takeUShort_htons (value : UInt16) (rest : Bytes) :
    takeUShort (htons value ++ rest) = some (value, rest) := by
  have taken : takeInteger 2 (htons value ++ rest) = some (htons value, rest) :=
    takeInteger_eq_some.mpr ⟨rfl, length_htons value⟩
  simp [takeUShort, taken]

/-- A long takes as many bytes as it is wide. -/
theorem length_of_takeULong {uLong : ULong} {req rest : Bytes} {value : UInt32}
    (taken : takeULong uLong req = some (value, rest)) :
    req.length = uLong.size + rest.length := by
  obtain ⟨⟨bytes, _⟩, integer, same⟩ := Option.map_eq_some_iff.mp taken
  cases same
  obtain ⟨rfl, width⟩ := takeInteger_eq_some.mp integer
  rw [List.length_append, width]

/-- A short takes two bytes. -/
theorem length_of_takeUShort {req rest : Bytes} {value : UInt16}
    (taken : takeUShort req = some (value, rest)) : req.length = 2 + rest.length := by
  obtain ⟨⟨bytes, _⟩, integer, same⟩ := Option.map_eq_some_iff.mp taken
  cases same
  obtain ⟨rfl, width⟩ := takeInteger_eq_some.mp integer
  rw [List.length_append, width]

section Decode

variable {uLong : ULong} {pt : PackType} {req rep : Bytes} {head : CmdHead}
  {decoded : DecodedPack}

/-- No check of a length comes before the end of `decode`. -/
theorem ret_of_decode (other : pt ≠ .max) (read : decode uLong pt req head rep = some decoded) :
    decoded.ret = true := by
  cases pt with
  | noHead =>
      cases read
      rfl
  | fixMainSubHead =>
      obtain ⟨_, _, read⟩ := Option.bind_eq_some_iff.mp read
      obtain ⟨_, _, read⟩ := Option.bind_eq_some_iff.mp read
      obtain ⟨_, _, read⟩ := Option.bind_eq_some_iff.mp read
      cases read
      rfl
  | fixMainHead =>
      obtain ⟨_, _, read⟩ := Option.bind_eq_some_iff.mp read
      obtain ⟨_, _, read⟩ := Option.bind_eq_some_iff.mp read
      cases read
      rfl
  | fixSubHead =>
      obtain ⟨_, _, read⟩ := Option.bind_eq_some_iff.mp read
      obtain ⟨_, _, read⟩ := Option.bind_eq_some_iff.mp read
      cases read
      rfl
  | max => exact absurd rfl other

/-- Behind a head with both commands the rest is the body. -/
theorem length_of_decode_mainSub (read : decode uLong .fixMainSubHead req head rep = some decoded) :
    req.length = uLong.size + 2 + uLong.size + decoded.rep.length := by
  obtain ⟨_, mainc, read⟩ := Option.bind_eq_some_iff.mp read
  obtain ⟨_, assc, read⟩ := Option.bind_eq_some_iff.mp read
  obtain ⟨_, len, read⟩ := Option.bind_eq_some_iff.mp read
  cases read
  rw [length_of_takeULong mainc, length_of_takeUShort assc, length_of_takeULong len]
  dsimp only
  omega

/-- Behind a head with one command the rest is the body. -/
theorem length_of_decode_sub (read : decode uLong .fixSubHead req head rep = some decoded) :
    req.length = 2 + uLong.size + decoded.rep.length := by
  obtain ⟨_, assc, read⟩ := Option.bind_eq_some_iff.mp read
  obtain ⟨_, len, read⟩ := Option.bind_eq_some_iff.mp read
  cases read
  rw [length_of_takeUShort assc, length_of_takeULong len]
  dsimp only
  omega

end Decode

/-- With four bytes for a `u_long`, `decode` reads what `packmaincmd3` has written. -/
theorem decode_packmaincmd3Ass {uLong : ULong} (four : uLong.size = 4) (assc : UInt16)
    (msg rep : Bytes) (head : CmdHead) :
    decode uLong .fixSubHead (packmaincmd3Ass assc.toNat [] msg) head rep =
      some { ret := true, req := [], head := { head with assc, len := UInt32.ofNat msg.length },
             rep := msg } := by
  have command : UInt16.ofInt assc.toNat = assc := by simp
  have packed : packmaincmd3Ass assc.toNat [] msg =
      htons assc ++ (htonl (UInt32.ofNat msg.length) ++ msg) := by
    simp [packmaincmd3Ass, packuint16String, packuint32String, command]
  rw [packed]
  simp [decode, takeUShort_htons, takeULong_htonl four]

/-- `decode` agrees with the packers for the assistant command alone, where a `u_long` has four
bytes. -/
theorem decode_agrees_iff (uLong : ULong) (head : CmdHead) (rep : Bytes) (input : DecodeInput) :
    input.Agrees uLong head rep ↔ input.IsSub ∧ uLong.size = 4 := by
  have wide := uLong.wide
  cases input with
  | mainSub mainc assc msg bound =>
      refine ⟨?_, fun both => both.1.elim⟩
      rintro ⟨decoded, read, -, -, -, -, body⟩
      have length := length_of_decode_mainSub read
      rw [body] at length
      simp [packmaincmd3Main, packuint16String, packuint32String] at length
      omega
  | sub assc msg bound =>
      refine ⟨?_, ?_⟩
      · rintro ⟨decoded, read, -, -, -, body⟩
        have length := length_of_decode_sub read
        rw [body] at length
        simp [packmaincmd3Ass, packuint16String, packuint32String] at length
        exact ⟨trivial, by omega⟩
      · rintro ⟨-, four⟩
        exact ⟨_, decode_packmaincmd3Ass four assc msg rep head, rfl, rfl,
          UInt32.toNat_ofNat_of_lt' bound, rfl⟩
  | short pt req less =>
      refine ⟨?_, fun both => both.1.elim⟩
      rintro ⟨decoded, read, refused⟩
      have other : pt ≠ .max := by
        rintro rfl
        exact Nat.not_lt_zero _ less
      rw [ret_of_decode other read] at refused
      cases refused

/-- A `u_long` of four bytes. -/
def fourBytes : ULong := ⟨4, by decide⟩

/-- Both commands are read as one integer, the fields behind them two bytes too late, and the first
two bytes of the message are lost. Of an empty string four bytes are read. -/
theorem decode_mainSub_shifted :
    decode fourBytes .fixMainSubHead (packmaincmd3Main 5 1 [] [65, 66, 67]) {} [] =
        some { ret := true, req := [], head := ⟨0x50001, 0, 0x34142⟩, rep := [67] } ∧
      ¬ (DecodeInput.mainSub 5 1 [65, 66, 67] (by decide)).Agrees fourBytes {} [] ∧
      decode fourBytes .fixMainSubHead [] {} [] = none := by
  refine ⟨by decide, ?_, by decide⟩
  rintro ⟨decoded, read, -, mainc, -⟩
  have shifted : decode fourBytes .fixMainSubHead (packmaincmd3Main 5 1 [] [65, 66, 67]) {} [] =
      some { ret := true, req := [], head := ⟨0x50001, 0, 0x34142⟩, rep := [67] } := by decide
  cases shifted.symm.trans read
  exact absurd mainc (by decide)

end SM.Network
