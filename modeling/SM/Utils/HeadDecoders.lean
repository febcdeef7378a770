import SM.Utils.CommandHead

/-!
# Decoders of command heads

What the decoders do with any bytes, those of no encoder included. A decoder which refuses its
source may have erased a part of it already: `leavesNoTrace_iff` says when it has not.
No decoder compares the length of a head with the bytes that follow: `pack_unpack` says what packing
gives for what was accepted.
-/

namespace SM.Utils

open SM.Lib

/-- No short is unpacked from less than two bytes. -/
@[simp] theorem unpackuint16_short {src : Bytes} (dst : UInt16) (short : src.length < 2) :
    unpackuint16 src dst = (false, [], dst) := by
  rw [unpackuint16, if_pos short]

/-- No integer is unpacked from less than four bytes. -/
@[simp] theorem unpackuint32_short {src : Bytes} (dst : UInt32) (short : src.length < 4) :
    unpackuint32 src dst = (false, [], dst) := by
  rw [unpackuint32, if_pos short]

/-- Two bytes are written as they were read. -/
theorem htons_ntohs {bytes : Bytes} (width : bytes.length = 2) : htons (ntohs bytes) = bytes := by
  have small : BigEndian.decode bytes < 2 ^ 16 := by
    simpa [width] using BigEndian.decode_lt bytes
  rw [htons, ntohs, UInt16.toNat_ofNat_of_lt' small, ← width, BigEndian.encode_decode]

/-- A short is its number. -/
@[simp] theorem ofInt_toNat (value : UInt16) : UInt16.ofInt value.toNat = value := by
  have small : value.toNat < 2 ^ 16 := value.toNat_lt
  have inside : ((value.toNat : Int) % 2 ^ 16).toNat = value.toNat := by omega
  rw [UInt16.ofInt, inside, UInt16.ofNat_toNat]

namespace HeadLayout

/-- The number of bytes in front of the length. -/
def lengthAt : HeadLayout → Nat
  | .seqMainAss => 8
  | .ass => 2
  | .len => 0

/-- The number of bytes of a head. -/
def width (layout : HeadLayout) : Nat := layout.lengthAt + 4

/-- The length which stands in a head. -/
def declared (layout : HeadLayout) (src : Bytes) : UInt32 :=
  ntohl ((src.drop layout.lengthAt).take 4)

/-- The references after a whole head has been read. -/
def read (layout : HeadLayout) (head : CommandHead) (src : Bytes) : CommandHead :=
  match layout with
  | .seqMainAss =>
      { seqnum := ntohl (src.take 4)
        mainc := (ntohs ((src.drop 4).take 2)).toNat
        assc := (ntohs ((src.drop 6).take 2)).toNat
        msglen := (HeadLayout.seqMainAss.declared src).toNat }
  | .ass =>
      { head with
        assc := (ntohs (src.take 2)).toNat
        msglen := (HeadLayout.ass.declared src).toNat }
  | .len => { head with msglen := (HeadLayout.len.declared src).toNat }

/-- The decoders but for the one which reads the length of an assistant head from its start. -/
def Reads (layout : HeadLayout) (kind : SourceKind) : Prop := ¬ (layout = .ass ∧ kind = .view)

instance (layout : HeadLayout) (kind : SourceKind) : Decidable (layout.Reads kind) :=
  inferInstanceAs (Decidable (¬ _))

/-- Every other layout reads what it should. -/
theorem reads_of_ne {layout : HeadLayout} (other : layout ≠ .ass) (kind : SourceKind) :
    layout.Reads kind := fun both => other both.1

variable {layout : HeadLayout} {kind : SourceKind} {src : Bytes}

/-- A source which holds a whole head is accepted, and all that follows the head is the message. -/
theorem unpack_of_length (head : CommandHead) (msg : Bytes) (reads : layout.Reads kind)
    (enough : layout.width ≤ src.length) :
    layout.unpack kind head src msg =
      ⟨true, layout.read head src, if kind = .string then src.drop layout.width else src,
        msg ++ src.drop layout.width⟩ := by
  cases layout with
  | seqMainAss =>
      have whole : 12 ≤ src.length := enough
      have first : ¬ src.length < 4 := by omega
      have second : ¬ src.length - 4 < 2 := by omega
      have third : ¬ src.length - 6 < 2 := by omega
      have fourth : ¬ src.length - 8 < 4 := by omega
      cases kind <;>
        simp [HeadLayout.unpack, uppackmaincmd3SeqString, uppackmaincmd3SeqView,
          unpackuint32String, unpackuint16String, unpackuint32, unpackuint16, first, second,
          third, fourth, read, declared, lengthAt, width]
  | ass =>
      have whole : 6 ≤ src.length := enough
      have first : ¬ src.length < 2 := by omega
      have second : ¬ src.length - 2 < 4 := by omega
      cases kind with
      | string =>
          simp [HeadLayout.unpack, uppackmaincmd3AssString, unpackuint32String,
            unpackuint16String, first, second, read, declared, lengthAt, width]
      | view => exact absurd ⟨rfl, rfl⟩ reads
  | len =>
      have whole : ¬ src.length < 4 := Nat.not_lt_of_le enough
      cases kind <;>
        simp [HeadLayout.unpack, uppackmaincmd3LenString, uppackmaincmd3LenView,
          unpackuint32String, unpackuint32, whole, read, declared, lengthAt, width]

/-! ## Refusals -/

/-- A source that ends before the second field is refused as it is. -/
def FirstShort : HeadLayout → Nat → Prop
  | .seqMainAss, length => length < 4
  | .ass, length => length < 2
  | .len, length => length < 4

/-- A source too short for its first field changes nothing. -/
theorem unpack_of_firstShort (head : CommandHead) (msg : Bytes)
    (short : layout.FirstShort src.length) :
    layout.unpack kind head src msg = ⟨false, head, src, msg⟩ := by
  cases layout with
  | seqMainAss =>
      have first : src.length < 4 := short
      cases kind <;>
        simp [HeadLayout.unpack, uppackmaincmd3SeqString, uppackmaincmd3SeqView,
          unpackuint32String, first]
  | ass =>
      have first : src.length < 2 := short
      cases kind <;>
        simp [HeadLayout.unpack, uppackmaincmd3AssString, uppackmaincmd3AssView,
          unpackuint16String, first]
  | len =>
      have first : src.length < 4 := short
      cases kind <;>
        simp [HeadLayout.unpack, uppackmaincmd3LenString, uppackmaincmd3LenView,
          unpackuint32String, first]

/-- The decoder of a string has erased what it read when it comes to a field that is not there. -/
theorem seqMainAss_erases (head : CommandHead) (msg : Bytes) (short : src.length < 12) :
    ∃ erased, erased ≤ src.length ∧ (4 ≤ src.length → 0 < erased) ∧
      HeadLayout.seqMainAss.unpack .string head src msg = ⟨false, head, src.drop erased, msg⟩ := by
  by_cases first : src.length < 4
  · exact ⟨0, by omega, by omega, unpack_of_firstShort head msg first⟩
  · simp only [HeadLayout.unpack, uppackmaincmd3SeqString, unpackuint32String, unpackuint16String,
      first, if_false, List.length_drop, List.drop_drop]
    by_cases second : src.length - 4 < 2
    · exact ⟨4, by omega, by omega, by simp [second]⟩
    · by_cases third : src.length - 6 < 2
      · exact ⟨6, by omega, by omega, by simp [second, third]⟩
      · have fourth : src.length - 8 < 4 := by omega
        exact ⟨8, by omega, by omega, by simp [second, third, fourth]⟩

/-- A view is as it was. -/
theorem seqMainAss_keeps (head : CommandHead) (msg : Bytes) (short : src.length < 12) :
    HeadLayout.seqMainAss.unpack .view head src msg = ⟨false, head, src, msg⟩ := by
  by_cases first : src.length < 4
  · exact unpack_of_firstShort head msg first
  · simp only [HeadLayout.unpack, uppackmaincmd3SeqView, unpackuint32, unpackuint16,
      first, if_false, List.length_drop, List.drop_drop]
    by_cases second : src.length - 4 < 2
    · simp [second]
    · by_cases third : src.length - 6 < 2
      · simp [second, third]
      · have fourth : src.length - 8 < 4 := by omega
        simp [second, third, fourth]

/-- A source too short for its second field loses its first. -/
theorem ass_erases (head : CommandHead) (msg : Bytes) (begun : 2 ≤ src.length)
    (short : src.length < 6) :
    HeadLayout.ass.unpack .string head src msg = ⟨false, head, src.drop 2, msg⟩ := by
  have first : ¬ src.length < 2 := Nat.not_lt_of_le begun
  have second : src.length - 2 < 4 := by omega
  simp [HeadLayout.unpack, uppackmaincmd3AssString, unpackuint32String, unpackuint16String, first,
    second]

/-- A source shorter than a head is refused. -/
theorem refused_of_short (head : CommandHead) (msg : Bytes) (reads : layout.Reads kind)
    (short : src.length < layout.width) : (layout.unpack kind head src msg).bret = false := by
  cases layout with
  | seqMainAss =>
      cases kind with
      | string =>
          obtain ⟨erased, _, _, refused⟩ := seqMainAss_erases head msg short
          rw [refused]
      | view => exact congrArg Unpacked.bret (seqMainAss_keeps head msg short)
  | ass =>
      have short : src.length < 6 := short
      by_cases none : HeadLayout.ass.FirstShort src.length
      · rw [unpack_of_firstShort head msg none]
      · cases kind with
        | string => rw [ass_erases head msg (Nat.le_of_not_lt none) short]
        | view => exact absurd ⟨rfl, rfl⟩ reads
  | len =>
      have none : HeadLayout.len.FirstShort src.length := short
      rw [unpack_of_firstShort head msg none]

end HeadLayout

/-- The overloads of a layout agree on a source, and a refusal changes nothing. -/
structure LeavesNoTrace (layout : HeadLayout) (head : CommandHead) (src msg : Bytes) : Prop where
  flag : (layout.unpack .string head src msg).bret = (layout.unpack .view head src msg).bret
  fields : (layout.unpack .string head src msg).bret = true →
    (layout.unpack .string head src msg).head = (layout.unpack .view head src msg).head
  message : (layout.unpack .string head src msg).bret = true →
    (layout.unpack .string head src msg).msg = (layout.unpack .view head src msg).msg
  untouched : ∀ kind, (layout.unpack kind head src msg).bret = false →
    layout.unpack kind head src msg = ⟨false, head, src, msg⟩

/-- The lengths at which no decoder of a layout has begun to read without an end. -/
def HeadLayout.Clean : HeadLayout → Nat → Prop
  | .seqMainAss, length => length < 4 ∨ 12 ≤ length
  | .ass, length => length < 2
  | .len, _ => True

open HeadLayout

variable {layout : HeadLayout} {kind : SourceKind} {head : CommandHead} {src msg : Bytes}

/-- A source too short for its first field leaves no trace. -/
theorem leavesNoTrace_of_firstShort (short : layout.FirstShort src.length) :
    LeavesNoTrace layout head src msg where
  flag := by rw [unpack_of_firstShort head msg short, unpack_of_firstShort head msg short]
  fields _ := by rw [unpack_of_firstShort head msg short, unpack_of_firstShort head msg short]
  message _ := by rw [unpack_of_firstShort head msg short, unpack_of_firstShort head msg short]
  untouched _ _ := unpack_of_firstShort head msg short

/-- A source which has a whole head leaves no trace. -/
theorem leavesNoTrace_of_length (other : layout ≠ .ass) (enough : layout.width ≤ src.length) :
    LeavesNoTrace layout head src msg where
  flag := by rw [unpack_of_length head msg (reads_of_ne other _) enough,
    unpack_of_length head msg (reads_of_ne other _) enough]
  fields _ := by rw [unpack_of_length head msg (reads_of_ne other _) enough,
    unpack_of_length head msg (reads_of_ne other _) enough]
  message _ := by rw [unpack_of_length head msg (reads_of_ne other _) enough,
    unpack_of_length head msg (reads_of_ne other _) enough]
  untouched kind refused := by
    rw [unpack_of_length head msg (reads_of_ne other _) enough] at refused
    cases refused

/-- Bytes that were erased are missing afterwards. -/
theorem not_leavesNoTrace_of_erased {erased : Nat} (positive : 0 < erased)
    (inside : erased ≤ src.length)
    (refused : layout.unpack .string head src msg = ⟨false, head, src.drop erased, msg⟩) :
    ¬ LeavesNoTrace layout head src msg := by
  intro clean
  have same := clean.untouched .string (by rw [refused])
  rw [refused, Unpacked.mk.injEq] at same
  have lengths := congrArg List.length same.2.2.1
  rw [List.length_drop] at lengths
  omega

/-- From the view of an assistant head two bytes more are taken for the message. -/
theorem not_leavesNoTrace_ass (enough : 6 ≤ src.length) : ¬ LeavesNoTrace .ass head src msg := by
  intro clean
  have string := @unpack_of_length .ass .string src head msg (by decide) enough
  have first : ¬ src.length < 2 := by omega
  have second : ¬ src.length < 4 := by omega
  have view : (HeadLayout.ass.unpack .view head src msg).msg = msg ++ src.drop 4 := by
    simp [HeadLayout.unpack, uppackmaincmd3AssView, unpackuint16, unpackuint32, first, second]
  have same := clean.message (by rw [string])
  rw [string, view] at same
  have lengths := congrArg List.length same
  simp only [List.length_append, List.length_drop, HeadLayout.width, HeadLayout.lengthAt] at lengths
  omega

/-- The decoders of a layout leave a refused source as it was if and only if none has begun to read
it without an end. -/
theorem leavesNoTrace_iff (layout : HeadLayout) (head : CommandHead) (src msg : Bytes) :
    LeavesNoTrace layout head src msg ↔ layout.Clean src.length := by
  cases layout with
  | seqMainAss =>
      by_cases short : src.length < 4
      · exact iff_of_true (leavesNoTrace_of_firstShort short) (Or.inl short)
      · by_cases enough : 12 ≤ src.length
        · exact iff_of_true (leavesNoTrace_of_length (by decide) enough) (Or.inr enough)
        · refine iff_of_false ?_ (not_or.mpr ⟨short, enough⟩)
          obtain ⟨erased, inside, positive, refused⟩ :=
            seqMainAss_erases head msg (Nat.lt_of_not_le enough)
          exact not_leavesNoTrace_of_erased (positive (Nat.le_of_not_lt short)) inside refused
  | ass =>
      by_cases short : src.length < 2
      · exact iff_of_true (leavesNoTrace_of_firstShort short) short
      · refine iff_of_false ?_ short
        have begun := Nat.le_of_not_lt short
        by_cases enough : 6 ≤ src.length
        · exact not_leavesNoTrace_ass enough
        · exact not_leavesNoTrace_of_erased (by decide) begun
            (ass_erases head msg begun (Nat.lt_of_not_le enough))
  | len =>
      refine iff_of_true ?_ trivial
      by_cases short : src.length < 4
      · exact leavesNoTrace_of_firstShort short
      · exact leavesNoTrace_of_length (by decide) (Nat.le_of_not_lt short)

/-- Five bytes are too few for a sequence number and a command, and the first four are gone. -/
theorem leavesNoTrace_truncated :
    HeadLayout.seqMainAss.unpack .string ⟨0, 0, 0, 0⟩ [0, 0, 0, 1, 9] [] =
        ⟨false, ⟨0, 0, 0, 0⟩, [9], []⟩ ∧
      ¬ LeavesNoTrace .seqMainAss ⟨0, 0, 0, 0⟩ [0, 0, 0, 1, 9] [] := by
  refine ⟨by decide, ?_⟩
  intro clean
  exact absurd (clean.untouched .string (by decide)) (by decide)

/-! ## Packing what was accepted -/

/-- The bytes in front of the length are those of the fields that were read. -/
theorem pack_read (msg : Bytes) (enough : layout.width ≤ src.length) :
    layout.pack (layout.read head src) msg =
      src.take layout.lengthAt ++ htonl (UInt32.ofNat msg.length) ++ msg := by
  cases layout with
  | seqMainAss =>
      have whole : 12 ≤ src.length := enough
      have seqnum : htonl (ntohl (src.take 4)) = src.take 4 := htonl_ntohl (by simp; omega)
      have mainc : htons (ntohs ((src.drop 4).take 2)) = (src.drop 4).take 2 :=
        htons_ntohs (by simp; omega)
      have assc : htons (ntohs ((src.drop 6).take 2)) = (src.drop 6).take 2 :=
        htons_ntohs (by simp; omega)
      have fields : src.take 8 = src.take 4 ++ ((src.drop 4).take 2 ++ (src.drop 6).take 2) := by
        have commands : (src.drop 4).take 4 = (src.drop 4).take 2 ++ (src.drop 6).take 2 := by
          rw [@List.take_add _ (src.drop 4) 2 2, List.drop_drop]
        rw [@List.take_add _ src 4 4, commands]
      simp [HeadLayout.pack, HeadLayout.read, packmaincmd3Seq, packuint32String, packuint16String,
        seqnum, mainc, assc, fields, lengthAt]
  | ass =>
      have whole : 6 ≤ src.length := enough
      have assc : htons (ntohs (src.take 2)) = src.take 2 := htons_ntohs (by simp; omega)
      simp [HeadLayout.pack, HeadLayout.read, packmaincmd3Ass, packuint32String, packuint16String,
        assc, lengthAt]
  | len => simp [HeadLayout.pack, packmaincmd3Len, packuint32String, lengthAt]

/-- A whole head is its fields, its length and what follows. -/
theorem split_declared (enough : layout.width ≤ src.length) :
    src.take layout.lengthAt ++ htonl (layout.declared src) ++ src.drop layout.width = src := by
  have length : ((src.drop layout.lengthAt).take 4).length = 4 := by
    rw [width] at enough
    simp only [List.length_take, List.length_drop]
    omega
  rw [declared, htonl_ntohl length, width, ← List.drop_drop, List.append_assoc,
    List.take_append_drop, List.take_append_drop]

/-- With another length in its place a source is the same only if that is the length it had. -/
theorem replaced_iff {length : UInt32} (enough : layout.width ≤ src.length) :
    src.take layout.lengthAt ++ htonl length ++ src.drop layout.width = src ↔
      (layout.declared src).toNat = length.toNat := by
  constructor
  · intro same
    have fields := List.append_cancel_right (same.trans (split_declared enough).symm)
    rw [htonl_injective (List.append_cancel_left fields)]
  · intro same
    rw [← UInt32.toNat_inj.mp same, split_declared enough]

/-- The length of a head is the one declared. -/
theorem read_msglen (layout : HeadLayout) (head : CommandHead) (src : Bytes) :
    (layout.read head src).msglen = (layout.declared src).toNat := by
  cases layout <;> rfl

/-- What was decoded packs to the source, but for its length, which becomes that of the message. -/
structure Repacks (layout : HeadLayout) (kind : SourceKind) (head : CommandHead) (src : Bytes) :
    Prop where
  message : (layout.unpack kind head src []).msg = src.drop layout.width
  bytes : layout.pack (layout.unpack kind head src []).head (layout.unpack kind head src []).msg =
    src.take layout.lengthAt ++
      htonl (UInt32.ofNat (layout.unpack kind head src []).msg.length) ++ src.drop layout.width
  same_iff :
    layout.pack (layout.unpack kind head src []).head (layout.unpack kind head src []).msg = src ↔
      (layout.unpack kind head src []).head.msglen =
        (layout.unpack kind head src []).msg.length % 0x100000000

/-- Packing what was decoded gives the source back, and the length in it is the message's. -/
structure OnlyEncoded (layout : HeadLayout) (kind : SourceKind) (head : CommandHead)
    (src : Bytes) : Prop where
  same :
    layout.pack (layout.unpack kind head src []).head (layout.unpack kind head src []).msg = src
  length : (layout.unpack kind head src []).head.msglen =
    (layout.unpack kind head src []).msg.length

/-- Every accepted head is packed to its bytes again, with the length that follows it. -/
theorem repacks_of_accepted (layout : HeadLayout) (kind : SourceKind) (head : CommandHead)
    (src : Bytes) (reads : layout.Reads kind)
    (accepted : (layout.unpack kind head src []).bret = true) : Repacks layout kind head src := by
  have enough : layout.width ≤ src.length := by
    refine Nat.le_of_not_lt fun short => ?_
    rw [refused_of_short head [] reads short] at accepted
    cases accepted
  have unpacked := unpack_of_length head [] reads enough
  rw [List.nil_append] at unpacked
  refine ⟨by rw [unpacked], by rw [unpacked, pack_read _ enough], ?_⟩
  rw [unpacked, pack_read _ enough, read_msglen, replaced_iff enough, UInt32.toNat_ofNat']

/-- A length which lies is accepted: one byte follows, and five are declared. -/
theorem onlyEncoded_len :
    HeadLayout.len.unpack .view ⟨0, 0, 0, 0⟩ [0, 0, 0, 5, 65] [] =
        ⟨true, ⟨0, 0, 0, 5⟩, [0, 0, 0, 5, 65], [65]⟩ ∧
      ¬ OnlyEncoded .len .view ⟨0, 0, 0, 0⟩ [0, 0, 0, 5, 65] := by
  refine ⟨by decide, ?_⟩
  intro encoded
  exact absurd encoded.length (by decide)

/-- A length alone. -/
theorem repacks_len : Repacks .len .view ⟨0, 0, 0, 0⟩ [0, 0, 0, 5, 65] :=
  repacks_of_accepted .len .view ⟨0, 0, 0, 0⟩ [0, 0, 0, 5, 65] (by decide) (by decide)

end SM.Utils
