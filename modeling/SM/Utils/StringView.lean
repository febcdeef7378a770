import SM.Utils.CommandHead

/-!
# Strings behind their length

`packstring` and `unpackstring`. What `unpackstring` returns is a place in the memory of the string
it is given, so whoever writes there changes that string.
-/

namespace SM.Utils

def packstring (msg : Bytes) : Bytes := packuint32String [] (UInt32.ofNat msg.length) ++ msg

/-- A string that is not all there is taken for the empty one. -/
def unpackstring (msg : Bytes) : Bytes :=
  match unpackuint32 msg 0 with
  | (false, _, _) => []
  | (true, tail, strlen) => if msg.length < strlen.toNat + 4 then [] else tail.take strlen.toNat

variable {field msg rest : Bytes}

/-- The length of a string takes four bytes in front of it. -/
@[simp] theorem length_packstring : (packstring field).length = field.length + 4 := by
  simp [packstring, packuint32String, Nat.add_comm]

/-- The length of a field is unpacked from its front. -/
theorem unpackuint32_packstring (field rest : Bytes) (dst : UInt32) :
    unpackuint32 (packstring field ++ rest) dst = (true, field ++ rest, UInt32.ofNat field.length) := by
  rw [packstring, packuint32String, List.nil_append, List.append_assoc, unpackuint32_htonl]

/-- A string comes back from what was packed, whatever stands behind it. -/
theorem unpackstring_packstring (short : field.length < 0x100000000) (rest : Bytes) :
    unpackstring (packstring field ++ rest) = field := by
  have enough : ¬ (packstring field ++ rest).length < field.length + 4 := by
    rw [List.length_append, length_packstring]
    omega
  simp only [unpackstring, unpackuint32_packstring, toNat_ofNat_length short, enough, if_false,
    List.take_left]

/-! ## Places in memory -/

/-- A `std::string_view`, as a place in the memory. -/
structure StringView where
  memory : Bytes
  start : Nat
  len : Nat
deriving DecidableEq

namespace StringView

/-- The bytes of the string. -/
def text (str : StringView) : Bytes := (str.memory.drop str.start).take str.len

/-- A text between what stands in memory in front of it and behind it. -/
def within (front text behind : Bytes) : StringView :=
  ⟨front ++ text ++ behind, front.length, text.length⟩

/-- `string_view("")`, which is no part of another string. -/
def literal : StringView := within [] [] [0]

/-- The string from an offset on. -/
def skip (str : StringView) (offset : Nat) : StringView :=
  { str with start := str.start + offset, len := str.len - offset }

/-- `unpackstring`: where the string which it returns stands, or none for `string_view("")`. -/
def unpackstring (msg : StringView) : Option StringView :=
  match unpackuint32 msg.text 0 with
  | (false, _, _) => none
  | (true, _, strlen) =>
      if msg.len < strlen.toNat + 4 then none
      else some { msg with start := msg.start + 4, len := strlen.toNat }

/-- The string is inside the memory. -/
def Fits (str : StringView) : Prop := str.start + str.len ≤ str.memory.length

variable {str msg : StringView} {front behind : Bytes}

/-- The text of a view is what is between front and behind. -/
@[simp] theorem text_within (front text behind : Bytes) : (within front text behind).text = text := by
  simp [StringView.text, within]

/-- Such a view is inside of its memory. -/
theorem within_fits (front text behind : Bytes) : (within front text behind).Fits := by
  simp [Fits, within]

/-- The text of a view which is inside of its memory is as long as the view. -/
theorem length_text (fits : str.Fits) : str.text.length = str.len := by
  have room : str.start + str.len ≤ str.memory.length := fits
  rw [text, List.length_take, List.length_drop]
  omega

/-- The rest of a string has the rest of its bytes. -/
@[simp] theorem text_skip (str : StringView) (offset : Nat) :
    (str.skip offset).text = str.text.drop offset := by
  rw [text, text, skip, List.drop_take, List.drop_drop]

/-- A view without some of its first bytes is inside of its memory. -/
theorem Fits.skip (fits : str.Fits) {offset : Nat} (inside : offset ≤ str.len) :
    (str.skip offset).Fits := by
  have room : str.start + str.len ≤ str.memory.length := fits
  change str.start + offset + (str.len - offset) ≤ str.memory.length
  omega

/-- The memory was written only in the string and in front of it. -/
structure Keeps (str : StringView) (memory : Bytes) : Prop where
  size : memory.length = str.memory.length
  behind : memory.drop (str.start + str.len) = str.memory.drop (str.start + str.len)

/-- The memory itself is kept. -/
theorem Keeps.refl (str : StringView) : str.Keeps str.memory := ⟨rfl, rfl⟩

/-- Behind what was written the bytes are what they were. -/
theorem Keeps.text_skip {memory : Bytes} (keeps : str.Keeps memory) {start : Nat}
    (later : str.start + str.len ≤ start) (len : Nat) :
    (StringView.mk memory start len).text = (StringView.mk str.memory start len).text := by
  obtain ⟨more, rfl⟩ := Nat.exists_eq_add_of_le later
  rw [text, text]
  dsimp only
  rw [← List.drop_drop, keeps.behind, List.drop_drop]

/-- A field in front of a string is found where it stands. -/
theorem unpackstring_field {field rest : Bytes} (fits : msg.Fits)
    (short : field.length < 0x100000000) (whole : msg.text = packstring field ++ rest) :
    msg.unpackstring = some ⟨msg.memory, msg.start + 4, field.length⟩ ∧
      (StringView.mk msg.memory (msg.start + 4) field.length).text = field := by
  have len : msg.len = field.length + 4 + rest.length := by
    rw [← length_text fits, whole, List.length_append, length_packstring]
  constructor
  · have enough : ¬ msg.len < field.length + 4 := by omega
    simp only [unpackstring, whole, unpackuint32_packstring, toNat_ofNat_length short, enough,
      if_false]
  · have behind := congrArg (fun text : Bytes => (text.drop 4).take field.length) whole
    have opened : (packstring field ++ rest).drop 4 = field ++ rest := by
      simp [packstring, packuint32String]
    rw [opened, List.take_left, ← text_skip, text, List.take_take] at behind
    have least : min field.length (msg.len - 4) = field.length := by omega
    change List.take (min field.length (msg.len - 4)) (List.drop (msg.start + 4) msg.memory) = field
      at behind
    rwa [least] at behind

/-- What is found is a field in front of the string. -/
theorem exists_field (fits : msg.Fits) (found : msg.unpackstring = some str) :
    ∃ field rest : Bytes, field.length < 0x100000000 ∧ msg.text = packstring field ++ rest ∧
      str = ⟨msg.memory, msg.start + 4, field.length⟩ := by
  have len := length_text fits
  rw [unpackstring, unpackuint32] at found
  split at found
  · cases found
  · rename_i enough heads
    split at heads
    · cases heads
    · rename_i tail strlen wide
      rw [Prod.mk.injEq, Prod.mk.injEq] at heads
      obtain ⟨-, rfl, rfl⟩ := heads
      split at found
      · cases found
      · rename_i room
        have width : (msg.text.take 4).length = 4 := by
          rw [List.length_take]
          omega
        have field : ((msg.text.drop 4).take (ntohl (msg.text.take 4)).toNat).length =
            (ntohl (msg.text.take 4)).toNat := by
          rw [List.length_take, List.length_drop]
          omega
        refine ⟨(msg.text.drop 4).take (ntohl (msg.text.take 4)).toNat,
          (msg.text.drop 4).drop (ntohl (msg.text.take 4)).toNat, ?_, ?_, ?_⟩
        · rw [field]
          exact (ntohl (msg.text.take 4)).toNat_lt
        · rw [packstring, packuint32String, field, UInt32.ofNat_toNat, htonl_ntohl width,
            List.nil_append, List.append_assoc, List.take_append_drop, List.take_append_drop]
        · rw [field]
          exact (Option.some.inj found).symm

/-- The bytes of the string which is returned. -/
theorem text_unpackstring (fits : msg.Fits) :
    (msg.unpackstring.elim [] text) = SM.Utils.unpackstring msg.text := by
  have len := length_text fits
  cases found : msg.unpackstring with
  | some str =>
      obtain ⟨field, rest, short, whole, rfl⟩ := exists_field fits found
      rw [whole, unpackstring_packstring short]
      exact (unpackstring_field fits short whole).2
  | none =>
      rw [unpackstring] at found
      rw [SM.Utils.unpackstring]
      split at found
      · rfl
      · split at found
        · rename_i beyond
          rw [if_pos (len.symm ▸ beyond)]
          rfl
        · cases found

end StringView
end SM.Utils
