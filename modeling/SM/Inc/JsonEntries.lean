import SM.Inc.JsonContainers

/-!
# Objects in any order

`do_read0` on an object with any entries: members of the record in any order and number, and other
names. `assignAll` is the record it builds.
-/

namespace SM.Inc

open SM.Utils Reader StringStream

variable {T : Type} [Reflection T]

/-- A value which is one token, of a member which is not known. -/
inductive Scalar where
  | string (str : Bytes)
  | number (value : Int)

def Scalar.text : Scalar → Bytes
  | .string str => [0x22] ++ escapeText str ++ [0x22]
  | .number value => decimalInt value

def Scalar.readable : Scalar → Bool
  | .string str => (readBack str).isSome
  | .number _ => true

/-- An entry of an object: a member of the record with a value, or some other name. -/
inductive Entry (T : Type) [Reflection T] where
  | known (member : Member T) (found : member ∈ Reflection.members (T := T))
      (value : member.Value)
  | other (name key : Bytes) (written : readBack name = some key) (unknown : findMember T key = none)
      (value : Scalar)

def Entry.text : Entry T → Bytes
  | .known member _ value => keyText member.name ++ JsonValue.text value
  | .other name _ _ _ value => keyText name ++ value.text

/-- The text of the entries, with a comma between two of them. -/
def entriesText : List (Entry T) → Bytes
  | [] => []
  | entry :: entries => entry.text ++ separated (entriesText entries)

def objectText (entries : List (Entry T)) : Bytes := 0x7b :: (entriesText entries ++ [0x7d])

/-- The record after one entry, with the number of members which were read. -/
def Entry.assign (loopIdx : Nat) (t : T) : Entry T → Option (Nat × T)
  | .known member _ value =>
      (JsonValue.decoded value).map fun value =>
        (loopIdx + 1, member.set (JsonValue.assign (member.get t) value) t)
  | .other _ _ _ _ value => if value.readable then some (loopIdx, t) else none

/-- The record after the entries. After as many members as the record has, the rest is not looked
at. -/
def assignAll : Nat → T → List (Entry T) → Option T
  | _, t, [] => some t
  | loopIdx, t, entry :: entries =>
      if loopIdx = size T then some t
      else (entry.assign loopIdx t).bind fun (loopIdx, t) => assignAll loopIdx t entries

variable {t : T} {reader : Reader} {c : UInt8} {rest : Bytes} {bound turns loopIdx : Nat}

/-- A value which nobody asked for is one token. -/
theorem Scalar.next (value : Scalar) (closing : isClosing c = true)
    (ahead : reader.At (value.text ++ c :: rest)) :
    if value.readable then reader.next.At (c :: rest) ∧ reader.next.error = reader.error
    else reader.next.error = true := by
  cases value with
  | string str =>
      have quoted : reader.At (0x22 :: (escapeText str ++ 0x22 :: (c :: rest))) := by
        simpa [Scalar.text] using ahead
      have reads := next_string str quoted
      rw [Scalar.readable]
      cases found : readBack str with
      | none =>
          rw [found] at reads
          exact reads
      | some out =>
          rw [found] at reads
          exact ⟨reads.1.ahead, reads.2⟩
  | number value =>
      change reader.At (decimalInt value ++ c :: rest) at ahead
      rw [decimalInt] at ahead
      by_cases negative : value < 0
      · rw [if_pos negative, List.append_assoc] at ahead
        have counts := next_negative value.natAbs ahead (.of_isClosing closing)
        exact ⟨counts.ahead, counts.error_eq⟩
      · rw [if_neg negative, List.nil_append] at ahead
        have counts := next_number value.natAbs ahead (.of_isClosing closing)
        exact ⟨counts.ahead, counts.error_eq⟩

/-- An entry which names no member is passed over. -/
theorem doRead0Loop_other {name key : Bytes} {value : Scalar} (written : readBack name = some key)
    (unknown : findMember T key = none) (ctrl : reader.token.type = .ctrl)
    (more : loopIdx ≠ size T) (ahead : reader.At (keyText name ++ (value.text ++ c :: rest)))
    (closing : isClosing c = true) :
    doRead0Loop bound (turns + 1) loopIdx reader t =
        doRead0Loop bound turns loopIdx reader.next.next.next.next t ∧
      if value.readable then reader.next.next.next.next.Stands .ctrl [c] rest ∧
        reader.next.next.next.next.error = reader.error
      else reader.next.next.next.next.error = true := by
  obtain ⟨string, colon, kept⟩ := key_reads written ahead
  have token : nameToken T loopIdx reader = reader.next := if_neg more
  have named : ¬ ((nameToken T loopIdx reader).token.type = .end' ∨
      (nameToken T loopIdx reader).token.type = .ctrl) := by
    rw [token, string.type_eq]
    simp
  refine ⟨?_, ?_⟩
  · rw [doRead0Loop_pass (running_of_ctrl ctrl) (by rw [token, string.text_eq, unknown]) named, token]
  · have passed := value.next closing colon
    split at passed
    · rename_i readable
      obtain ⟨stands, error⟩ := next_ctrl passed.1 (isCtrl_of_isClosing closing)
      rw [if_pos readable]
      exact ⟨stands, error.trans (passed.2.trans kept)⟩
    · rename_i unreadable
      rw [if_neg unreadable]
      exact next_error passed

/-- What reading an object ends with, whose text has nothing behind it. -/
def Ends (reader : Reader) (result : Option (T × Reader)) : Option T → Prop
  | some t => ∃ after, result = some (t, after) ∧ after.error = reader.error
  | none => ∀ t after, result = some (t, after) → after.error = true

omit [Reflection T] in
/-- A step which leaves the error flag as it was does not change how reading ends. -/
theorem Ends.of_step {other : Reader} {result : Option (T × Reader)} {value : Option T}
    (ends : Ends other result value) (error : other.error = reader.error) :
    Ends reader result value := by
  cases value with
  | none => exact ends
  | some t =>
      obtain ⟨after, found, same⟩ := ends
      exact ⟨after, found, same.trans error⟩

/-- The text of an entry is not empty. -/
theorem entriesText_ne_nil (entry : Entry T) (entries : List (Entry T)) :
    entriesText (entry :: entries) ≠ [] := by
  cases entry <;> simp [entriesText, Entry.text, keyText]

/-- The loop over the entries ends with what they assign. -/
theorem doRead0Loop_entries (entries : List (Entry T)) (t : T) (enough : entries.length < turns)
    (bounded : (entriesText entries).length < bound)
    (before : Before reader (entriesText entries) 0x7d []) :
    Ends reader (doRead0Loop bound turns loopIdx reader t) (assignAll loopIdx t entries) := by
  induction entries generalizing reader turns loopIdx t with
  | nil =>
      obtain ⟨turns, rfl⟩ : ∃ less, turns = less + 1 := ⟨turns - 1, by omega⟩
      have running := running_of_ctrl before.type_eq
      by_cases all : loopIdx = size T
      · have token : nameToken T loopIdx reader = reader := if_pos all
        refine ⟨reader, ?_, rfl⟩
        rw [doRead0Loop_stop running (by rw [token, findMember_short before.short])
          (by rw [token]; exact .inr before.type_eq), token]
      · have token : nameToken T loopIdx reader = reader.next := if_neg all
        have stands : reader.Stands .ctrl [0x7d] [] := before
        obtain ⟨ended, short, error⟩ := next_end stands.ahead
        refine ⟨reader.next, ?_, error⟩
        rw [doRead0Loop_stop running (by rw [token, findMember_short short])
          (by rw [token]; exact .inl ended), token]
  | cons entry entries inductionHypothesis =>
      obtain ⟨turns, rfl⟩ : ∃ less, turns = less + 1 := ⟨turns - 1, by omega⟩
      have running := running_of_ctrl before.type_eq
      rw [assignAll]
      by_cases all : loopIdx = size T
      · -- All members were read: the comma ends the loop.
        have token : nameToken T loopIdx reader = reader := if_pos all
        rw [if_pos all]
        refine ⟨reader, ?_, rfl⟩
        rw [doRead0Loop_stop running (by rw [token, findMember_short before.short])
          (by rw [token]; exact .inr before.type_eq), token]
      · rw [if_neg all]
        have ahead := before.ahead (entriesText_ne_nil entry entries)
        obtain ⟨c, behind, split, closing, -, next⟩ := @separated_eq (entriesText entries) 0x7d rfl []
        have larger := length_le_separated (entriesText entries)
        rw [entriesText, List.append_assoc, split] at ahead
        simp only [entriesText, List.length_append] at bounded
        rw [List.length_cons] at enough
        have fewer : (entriesText entries).length < bound := by omega
        cases entry with
        | known member found value =>
            rw [Entry.text, List.append_assoc] at ahead
            simp only [Entry.text, List.length_append] at bounded
            have fits : (JsonValue.text value).length < bound := by omega
            rw [Entry.assign]
            cases decoded : JsonValue.decoded value with
            | none =>
                intro last after result
                exact doRead0Loop_unreadable found before.type_eq all ahead closing fits decoded result
            | some part =>
                obtain ⟨after, step, stands, error⟩ := @doRead0Loop_member T _ reader c behind bound
                  turns loopIdx t member found value part before.type_eq all ahead closing fits decoded
                rw [step]
                exact (inductionHypothesis _ (by omega) fewer (next after stands)).of_step error
        | other name key written unknown value =>
            rw [Entry.text, List.append_assoc] at ahead
            obtain ⟨step, passed⟩ := @doRead0Loop_other T _ t reader c behind bound turns loopIdx name
              key value written unknown before.type_eq all ahead closing
            rw [step, Entry.assign]
            split at passed
            · rename_i readable
              rw [if_pos readable]
              exact (inductionHypothesis _ (by omega) fewer (next _ passed.1)).of_step passed.2
            · rename_i unreadable
              rw [if_neg unreadable]
              intro last after result
              exact doRead0Loop_error result passed

/-- The text of a scalar has no zero. -/
theorem Scalar.text_clean (value : Scalar) : 0 ∉ value.text := by
  cases value with
  | string str => simpa [Scalar.text] using escapeText_clean str
  | number value => exact decimalInt_clean value

/-- The text of entries has no zero. -/
theorem entriesText_clean (entries : List (Entry T)) : 0 ∉ entriesText entries := by
  have key (name : Bytes) : 0 ∉ keyText name := by
    simpa [keyText] using escapeText_clean name
  induction entries with
  | nil => exact List.not_mem_nil
  | cons entry entries inductionHypothesis =>
      rw [entriesText, List.mem_append, not_or]
      refine ⟨?_, separated_clean inductionHypothesis⟩
      cases entry with
      | known member found value =>
          rw [Entry.text, List.mem_append, not_or]
          exact ⟨key _, JsonValue.text_clean value⟩
      | other name key' written unknown value =>
          rw [Entry.text, List.mem_append, not_or]
          exact ⟨key _, value.text_clean⟩

/-- The text of an object has no zero. -/
theorem objectText_clean (entries : List (Entry T)) : 0 ∉ objectText entries := by
  simpa [objectText] using entriesText_clean entries

/-- An object has no more entries than its text has bytes. -/
theorem length_entries_le (entries : List (Entry T)) :
    entries.length ≤ (entriesText entries).length := by
  induction entries with
  | nil => exact Nat.zero_le _
  | cons entry entries inductionHypothesis =>
      have larger := length_le_separated (entriesText entries)
      cases entry with
      | known member found value =>
          simp only [entriesText, Entry.text, keyText, List.length_append, List.length_cons]
          omega
      | other name key written unknown value =>
          simp only [entriesText, Entry.text, keyText, List.length_append, List.length_cons]
          omega

/-- `do_read0` on a text which is one object. -/
theorem doRead0_object (entries : List (Entry T)) (initial : T)
    (enough : (objectText entries).length < turns) (standing : reader.At (objectText entries)) :
    Ends reader (doRead0 turns reader.next initial) (assignAll 0 initial entries) := by
  obtain ⟨stands, error⟩ := next_ctrl standing rfl
  have count := length_entries_le entries
  have total : (objectText entries).length = (entriesText entries).length + 2 := by
    simp [objectText]
  cases entries with
  | nil =>
      have running := running_of_ctrl stands.type_eq
      have filled : 0 ≠ size T :=
        (List.length_pos_iff.mpr (Reflection.members_ne_nil (T := T))).ne
      have token : nameToken T 0 reader.next = reader.next.next := if_neg filled
      obtain ⟨closed, same⟩ := next_ctrl stands.ahead rfl
      obtain ⟨turns, rfl⟩ : ∃ less, turns = less + 1 := ⟨turns - 1, by omega⟩
      refine ⟨reader.next.next, ?_, same.trans error⟩
      have short : reader.next.next.text.length ≤ 1 := by
        rw [closed.text_eq]
        exact Nat.le_refl _
      rw [doRead0, doRead0Loop_stop running (by rw [token, findMember_short short])
        (by rw [token]; exact .inr closed.type_eq), token]
  | cons entry entries =>
      refine (doRead0Loop_entries (entry :: entries) initial (by omega) (by omega) ?_).of_step error
      rw [Before, if_neg (entriesText_ne_nil entry entries)]
      exact ⟨_, stands⟩

end SM.Inc
