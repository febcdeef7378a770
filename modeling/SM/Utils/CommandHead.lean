import SM.Utils.PackInt

/-!
# Command heads

`packmaincmd3` and `uppackmaincmd3`, for heads of a sequence number, a main and an
assistant command and a length, and for their shorter forms. A decoder comes in
two overloads: one erases what it reads from a string, the other reads from views.
`undoes_iff` says which decoders undo their encoder.
-/

namespace SM.Utils

open SM.Lib

/-! ## Integers -/

/-- `htons` followed by `memcpy`. -/
def htons (src : UInt16) : Bytes := BigEndian.encode 2 src.toNat

/-- `memcpy` followed by `ntohs`. -/
def ntohs (bytes : Bytes) : UInt16 := UInt16.ofNat (BigEndian.decode bytes)

/-- The `span` overload: the bytes which overwrite the two-byte span. -/
def packuint16 (src : UInt16) : Bytes := htons src

/-- The overloads which append to a string. -/
def packuint16String (dst : Bytes) (src : UInt16) : Bytes := dst ++ htons src

def packuint32String (dst : Bytes) (src : UInt32) : Bytes := dst ++ htonl src

/-- The `string_view` overload: success flag, tail, and the value of `dst` afterwards. -/
def unpackuint16 (src : Bytes) (dst : UInt16) : Bool × Bytes × UInt16 :=
  if src.length < 2 then (false, [], dst)
  else (true, src.drop 2, ntohs (src.take 2))

/-- The overloads which erase what they read: success flag, `src` and `dst` afterwards. -/
def unpackuint16String (src : Bytes) (dst : UInt16) : Bool × Bytes × UInt16 :=
  if src.length < 2 then (false, src, dst)
  else (true, src.drop 2, ntohs (src.take 2))

def unpackuint32String (src : Bytes) (dst : UInt32) : Bool × Bytes × UInt32 :=
  if src.length < 4 then (false, src, dst)
  else (true, src.drop 4, ntohl (src.take 4))

/-- A short has two bytes. -/
@[simp] theorem length_htons (src : UInt16) : (htons src).length = 2 :=
  BigEndian.length_encode 2 _

/-- A short is read back. -/
@[simp] theorem ntohs_htons (src : UInt16) : ntohs (htons src) = src := by
  have small : src.toNat < 256 ^ 2 := src.toNat_lt
  rw [ntohs, htons, BigEndian.decode_encode, Nat.mod_eq_of_lt small, UInt16.ofNat_toNat]

/-- Behind a written short there are two bytes. -/
theorem enough_htons (value : UInt16) (rest : Bytes) : ¬ (htons value ++ rest).length < 2 := by
  simp only [List.length_append, length_htons]
  omega

/-- A short is unpacked from the front of a view. -/
@[simp] theorem unpackuint16_htons (value dst : UInt16) (rest : Bytes) :
    unpackuint16 (htons value ++ rest) dst = (true, rest, value) := by
  simp only [unpackuint16, enough_htons, if_false, List.take_left' (length_htons value),
    List.drop_left' (length_htons value), ntohs_htons]

/-- A short is unpacked from the front of a string. -/
@[simp] theorem unpackuint16String_htons (value dst : UInt16) (rest : Bytes) :
    unpackuint16String (htons value ++ rest) dst = (true, rest, value) := by
  simp only [unpackuint16String, enough_htons, if_false, List.take_left' (length_htons value),
    List.drop_left' (length_htons value), ntohs_htons]

/-- An integer is unpacked from the front of a string. -/
@[simp] theorem unpackuint32String_htonl (value dst : UInt32) (rest : Bytes) :
    unpackuint32String (htonl value ++ rest) dst = (true, rest, value) := by
  simp [unpackuint32String]

/-- Every overload writes and reads the most significant byte first. -/
structure IntegersBigEndian : Prop where
  pack16 : ∀ src, packuint16 src = BigEndian.encode 2 src.toNat
  pack32 : ∀ src, packuint32 src = BigEndian.encode 4 src.toNat
  pack16String : ∀ dst src, packuint16String dst src = dst ++ BigEndian.encode 2 src.toNat
  pack32String : ∀ dst src, packuint32String dst src = dst ++ BigEndian.encode 4 src.toNat
  unpack16 : ∀ src dst, 2 ≤ src.length →
    (unpackuint16 src dst).2.2.toNat = BigEndian.decode (src.take 2) ∧
      (unpackuint16String src dst).2.2 = (unpackuint16 src dst).2.2
  unpack32 : ∀ src dst, 4 ≤ src.length →
    (unpackuint32 src dst).2.2.toNat = BigEndian.decode (src.take 4) ∧
      (unpackuint32String src dst).2.2 = (unpackuint32 src dst).2.2

/-- Integers are written in big-endian order and read back, by all overloads. -/
theorem integersBigEndian : IntegersBigEndian where
  pack16 _ := rfl
  pack32 _ := rfl
  pack16String _ _ := rfl
  pack32String _ _ := rfl
  unpack16 src dst enough := by
    have whole : ¬ src.length < 2 := by omega
    have bound := BigEndian.decode_lt (src.take 2)
    rw [List.length_take, Nat.min_eq_left enough] at bound
    simp only [unpackuint16, unpackuint16String, whole, if_false, ntohs, and_true]
    exact UInt16.toNat_ofNat_of_lt' bound
  unpack32 src dst enough := by
    have whole : ¬ src.length < 4 := by omega
    have bound := BigEndian.decode_lt (src.take 4)
    rw [List.length_take, Nat.min_eq_left enough] at bound
    simp only [unpackuint32, unpackuint32String, whole, if_false, ntohl, and_true]
    exact UInt32.toNat_ofNat_of_lt' bound

/-! ## Heads -/

/-- The arguments of the encoders, and the references which the decoders assign. -/
structure CommandHead where
  seqnum : UInt32
  mainc : Int
  assc : Int
  msglen : Nat
deriving DecidableEq

/-- A decoder: success flag, and what `src`, `msg` and the references are afterwards. -/
structure Unpacked where
  bret : Bool
  head : CommandHead
  src : Bytes
  msg : Bytes
deriving DecidableEq

/-- `packmaincmd3` for a sequence number and both commands. -/
def packmaincmd3Seq (seqnum : UInt32) (mainc assc : Int) (ret msg : Bytes) : Bytes :=
  let ret := packuint32String ret seqnum
  let ret := packuint16String ret (UInt16.ofInt mainc)
  let ret := packuint16String ret (UInt16.ofInt assc)
  let ret := packuint32String ret (UInt32.ofNat msg.length)
  ret ++ msg

/-- `packmaincmd3` for both commands. -/
def packmaincmd3Main (mainc assc : Int) (ret msg : Bytes) : Bytes :=
  let ret := packuint16String ret (UInt16.ofInt mainc)
  let ret := packuint16String ret (UInt16.ofInt assc)
  let ret := packuint32String ret (UInt32.ofNat msg.length)
  ret ++ msg

/-- `packmaincmd3` for an assistant command. -/
def packmaincmd3Ass (assc : Int) (ret msg : Bytes) : Bytes :=
  let ret := packuint16String ret (UInt16.ofInt assc)
  let ret := packuint32String ret (UInt32.ofNat msg.length)
  ret ++ msg

/-- `packmaincmd3` for a length alone. -/
def packmaincmd3Len (ret msg : Bytes) : Bytes :=
  let ret := packuint32String ret (UInt32.ofNat msg.length)
  ret ++ msg

/-- The decoders start their locals without a value, which stands here as zero. -/
def uppackmaincmd3SeqString (head : CommandHead) (src msg : Bytes) : Unpacked :=
  match unpackuint32String src 0 with
  | (false, src, _) => ⟨false, head, src, msg⟩
  | (true, src, iseqnum) =>
      match unpackuint16String src 0 with
      | (false, src, _) => ⟨false, head, src, msg⟩
      | (true, src, imainc) =>
          match unpackuint16String src 0 with
          | (false, src, _) => ⟨false, head, src, msg⟩
          | (true, src, iassc) =>
              match unpackuint32String src 0 with
              | (false, src, _) => ⟨false, head, src, msg⟩
              | (true, src, imsglen) =>
                  ⟨true, ⟨iseqnum, imainc.toNat, iassc.toNat, imsglen.toNat⟩, src, msg ++ src⟩

def uppackmaincmd3SeqView (head : CommandHead) (src msg : Bytes) : Unpacked :=
  match unpackuint32 src 0 with
  | (false, _, _) => ⟨false, head, src, msg⟩
  | (true, t0, iseq) =>
      match unpackuint16 t0 0 with
      | (false, _, _) => ⟨false, head, src, msg⟩
      | (true, t1, imainc) =>
          match unpackuint16 t1 0 with
          | (false, _, _) => ⟨false, head, src, msg⟩
          | (true, t2, iassc) =>
              match unpackuint32 t2 0 with
              | (false, _, _) => ⟨false, head, src, msg⟩
              | (true, t3, imsglen) =>
                  ⟨true, ⟨iseq, imainc.toNat, iassc.toNat, imsglen.toNat⟩, src, msg ++ t3⟩

def uppackmaincmd3AssString (head : CommandHead) (src msg : Bytes) : Unpacked :=
  match unpackuint16String src 0xffff with
  | (false, src, _) => ⟨false, head, src, msg⟩
  | (true, src, asscc) =>
      match unpackuint32String src 0 with
      | (false, src, _) => ⟨false, head, src, msg⟩
      | (true, src, imsglen) =>
          ⟨true, { head with assc := asscc.toNat, msglen := imsglen.toNat }, src, msg ++ src⟩

/-- The length is read from `src` and not from the tail `t2`. -/
def uppackmaincmd3AssView (head : CommandHead) (src msg : Bytes) : Unpacked :=
  match unpackuint16 src (UInt16.ofInt head.assc) with
  | (false, _, _) => ⟨false, head, src, msg⟩
  | (true, _, assc) =>
      match unpackuint32 src 0 with
      | (false, _, _) => ⟨false, { head with assc := assc.toNat }, src, msg⟩
      | (true, t3, imsglen) =>
          ⟨true, { head with assc := assc.toNat, msglen := imsglen.toNat }, src, msg ++ t3⟩

def uppackmaincmd3LenString (head : CommandHead) (src msg : Bytes) : Unpacked :=
  match unpackuint32String src 0 with
  | (false, src, _) => ⟨false, head, src, msg⟩
  | (true, src, imsglen) => ⟨true, { head with msglen := imsglen.toNat }, src, msg ++ src⟩

def uppackmaincmd3LenView (head : CommandHead) (src msg : Bytes) : Unpacked :=
  match unpackuint32 src 0 with
  | (false, _, _) => ⟨false, head, src, msg⟩
  | (true, t3, imsglen) => ⟨true, { head with msglen := imsglen.toNat }, src, msg ++ t3⟩

/-! ## Encoders and decoders -/

/-- What stands in front of the length. -/
inductive HeadLayout where
  | seqMainAss
  | ass
  | len
deriving DecidableEq

/-- The type of the source of a decoder. -/
inductive SourceKind where
  | string
  | view
deriving DecidableEq

namespace HeadLayout

/-- The encoder of a layout, started on an empty string. -/
def pack (layout : HeadLayout) (sent : CommandHead) (msg : Bytes) : Bytes :=
  match layout with
  | .seqMainAss => packmaincmd3Seq sent.seqnum sent.mainc sent.assc [] msg
  | .ass => packmaincmd3Ass sent.assc [] msg
  | .len => packmaincmd3Len [] msg

/-- The decoder of a layout. -/
def unpack : HeadLayout → SourceKind → CommandHead → Bytes → Bytes → Unpacked
  | .seqMainAss, .string => uppackmaincmd3SeqString
  | .seqMainAss, .view => uppackmaincmd3SeqView
  | .ass, .string => uppackmaincmd3AssString
  | .ass, .view => uppackmaincmd3AssView
  | .len, .string => uppackmaincmd3LenString
  | .len, .view => uppackmaincmd3LenView

/-- The references after a decoder which has found the fields that were sent. -/
def found (layout : HeadLayout) (head sent : CommandHead) (msglen : Nat) : CommandHead :=
  match layout with
  | .seqMainAss => { sent with msglen }
  | .ass => { head with assc := sent.assc, msglen }
  | .len => { head with msglen }

end HeadLayout

/-- A decoder succeeds on what its encoder wrote, finds the fields and appends the message. -/
structure Undoes (layout : HeadLayout) (kind : SourceKind) (head sent : CommandHead)
    (msg dst : Bytes) : Prop where
  succeeds : (layout.unpack kind head (layout.pack sent msg) dst).bret = true
  fields : (layout.unpack kind head (layout.pack sent msg) dst).head =
    layout.found head sent msg.length
  appended : (layout.unpack kind head (layout.pack sent msg) dst).msg = dst ++ msg
  integers : IntegersBigEndian

/-- A command of sixteen bits does not change. -/
theorem toNat_ofInt_of_lt {value : Int} (low : 0 ≤ value) (high : value < 0x10000) :
    ((UInt16.ofInt value).toNat : Int) = value := by
  rw [UInt16.ofInt, UInt16.toNat_ofNat']
  omega

/-- A length of 32 bits does not change. -/
theorem toNat_ofNat_length {msg : Bytes} (short : msg.length < 0x100000000) :
    (UInt32.ofNat msg.length).toNat = msg.length :=
  UInt32.toNat_ofNat_of_lt' short

variable {head sent : CommandHead} {msg dst : Bytes}

/-- The head with sequence number and both commands is read back. -/
theorem unpack_pack_seqMainAss (kind : SourceKind) (mainc : 0 ≤ sent.mainc ∧ sent.mainc < 0x10000)
    (assc : 0 ≤ sent.assc ∧ sent.assc < 0x10000) :
    HeadLayout.seqMainAss.unpack kind head (HeadLayout.seqMainAss.pack sent msg) dst =
      ⟨true, { sent with msglen := (UInt32.ofNat msg.length).toNat },
        if kind = .string then msg else HeadLayout.seqMainAss.pack sent msg, dst ++ msg⟩ := by
  cases kind <;>
    simp [HeadLayout.unpack, HeadLayout.pack, packmaincmd3Seq, packuint32String,
      packuint16String, uppackmaincmd3SeqString, uppackmaincmd3SeqView, List.append_assoc,
      toNat_ofInt_of_lt mainc.1 mainc.2, toNat_ofInt_of_lt assc.1 assc.2]

/-- The head with the length alone is read back. -/
theorem unpack_pack_len (kind : SourceKind) :
    HeadLayout.len.unpack kind head (HeadLayout.len.pack sent msg) dst =
      ⟨true, { head with msglen := (UInt32.ofNat msg.length).toNat },
        if kind = .string then msg else HeadLayout.len.pack sent msg, dst ++ msg⟩ := by
  cases kind <;>
    simp [HeadLayout.unpack, HeadLayout.pack, packmaincmd3Len, packuint32String,
      uppackmaincmd3LenString, uppackmaincmd3LenView]

/-- The head with the assistant command is read back from a string. -/
theorem unpack_pack_ass (assc : 0 ≤ sent.assc ∧ sent.assc < 0x10000) :
    HeadLayout.ass.unpack .string head (HeadLayout.ass.pack sent msg) dst =
      ⟨true, { head with assc := sent.assc, msglen := (UInt32.ofNat msg.length).toNat },
        msg, dst ++ msg⟩ := by
  simp [HeadLayout.unpack, HeadLayout.pack, packmaincmd3Ass, packuint32String,
    packuint16String, uppackmaincmd3AssString, List.append_assoc,
    toNat_ofInt_of_lt assc.1 assc.2]

/-- Unpacking undoes packing for the head with sequence number and both commands. -/
theorem undoes_seqMainAss (kind : SourceKind) (mainc : 0 ≤ sent.mainc ∧ sent.mainc < 0x10000)
    (assc : 0 ≤ sent.assc ∧ sent.assc < 0x10000) (short : msg.length < 0x100000000) :
    Undoes .seqMainAss kind head sent msg dst := by
  have unpacked := @unpack_pack_seqMainAss head sent msg dst kind mainc assc
  rw [toNat_ofNat_length short] at unpacked
  exact ⟨by rw [unpacked], by rw [unpacked]; rfl, by rw [unpacked], integersBigEndian⟩

/-- Unpacking undoes packing for the head with the length alone. -/
theorem undoes_len (kind : SourceKind) (short : msg.length < 0x100000000) :
    Undoes .len kind head sent msg dst := by
  have unpacked := @unpack_pack_len head sent msg dst kind
  rw [toNat_ofNat_length short] at unpacked
  exact ⟨by rw [unpacked], by rw [unpacked]; rfl, by rw [unpacked], integersBigEndian⟩

/-- Unpacking undoes packing for the head with the assistant command in a string. -/
theorem undoes_ass_string (assc : 0 ≤ sent.assc ∧ sent.assc < 0x10000)
    (short : msg.length < 0x100000000) : Undoes .ass .string head sent msg dst := by
  have unpacked := @unpack_pack_ass head sent msg dst assc
  rw [toNat_ofNat_length short] at unpacked
  exact ⟨by rw [unpacked], by rw [unpacked]; rfl, by rw [unpacked], integersBigEndian⟩

/-- The view of the assistant layout appends two bytes of the length in front of the message. -/
theorem unpack_ass_view (head sent : CommandHead) (msg dst : Bytes) :
    (HeadLayout.ass.unpack .view head (HeadLayout.ass.pack sent msg) dst).msg =
      dst ++ (htonl (UInt32.ofNat msg.length)).drop 2 ++ msg := by
  have enough : ¬ (htons (UInt16.ofInt sent.assc) ++
      (htonl (UInt32.ofNat msg.length) ++ msg)).length < 4 := by
    simp only [List.length_append, length_htons, length_htonl]
    omega
  have rest : (htons (UInt16.ofInt sent.assc) ++
      (htonl (UInt32.ofNat msg.length) ++ msg)).drop 4 =
        (htonl (UInt32.ofNat msg.length)).drop 2 ++ msg := by
    simp [List.drop_append]
  simp only [HeadLayout.unpack, HeadLayout.pack, packmaincmd3Ass, packuint32String,
    packuint16String, uppackmaincmd3AssView, List.nil_append, List.append_assoc,
    unpackuint16_htons, unpackuint32, enough, if_false, rest]

/-- Every decoder undoes its encoder, but for the view of the assistant layout. -/
theorem undoes_iff (layout : HeadLayout) (kind : SourceKind) (head sent : CommandHead)
    (msg dst : Bytes) (mainc : 0 ≤ sent.mainc ∧ sent.mainc < 0x10000)
    (assc : 0 ≤ sent.assc ∧ sent.assc < 0x10000) (short : msg.length < 0x100000000) :
    Undoes layout kind head sent msg dst ↔ ¬ (layout = .ass ∧ kind = .view) := by
  cases layout with
  | seqMainAss => exact iff_of_true (undoes_seqMainAss kind mainc assc short) (by simp)
  | len => exact iff_of_true (undoes_len kind short) (by simp)
  | ass =>
      cases kind with
      | string => exact iff_of_true (undoes_ass_string assc short) (by simp)
      | view =>
          refine iff_of_false ?_ (by simp)
          intro undoes
          have lengths := congrArg List.length undoes.appended
          rw [unpack_ass_view] at lengths
          simp only [List.length_append, List.length_drop, length_htonl] at lengths
          omega

/-- A message behind the head with sequence number and both commands. -/
theorem undoes_iff_seq :
    Undoes .seqMainAss .view ⟨0, 0, 0, 0⟩ ⟨7, 6, 2, 0⟩ [65] [] ↔
      ¬ (HeadLayout.seqMainAss = .ass ∧ SourceKind.view = .view) :=
  undoes_iff .seqMainAss .view ⟨0, 0, 0, 0⟩ ⟨7, 6, 2, 0⟩ [65] [] (by decide) (by decide) (by decide)

/-- From a view of assistant command 1 and one byte, the length 65536 and three bytes are read. -/
theorem undoes_ass_view :
    HeadLayout.ass.unpack .view ⟨0, 0, 0, 0⟩ (HeadLayout.ass.pack ⟨0, 0, 1, 0⟩ [65]) [] =
        ⟨true, ⟨0, 0, 1, 65536⟩, [0, 1, 0, 0, 0, 1, 65], [0, 1, 65]⟩ ∧
      ¬ Undoes .ass .view ⟨0, 0, 0, 0⟩ ⟨0, 0, 1, 0⟩ [65] [] := by
  refine ⟨by decide, ?_⟩
  intro undoes
  exact absurd undoes.appended (by decide)

end SM.Utils
