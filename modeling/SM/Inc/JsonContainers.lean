import SM.Inc.JsonObjects

/-!
# Containers as JSON

A container of records is written between brackets and read back element by element, behind what is
there already. With it a record may have members of every type which the requests use.
-/

namespace SM.Inc

open SM.Utils Reader StringStream

variable {T : Type} [Reflection T] {reader : Reader} {c : UInt8} {rest : Bytes}

/-! ## Writing -/

/-- The members of a record are written one behind the other. -/
theorem written_membersToJson (stream : StringStream) (t : T) (members : List (Member T))
    (found : ∀ member ∈ members, member ∈ Reflection.members (T := T)) :
    (membersToJson stream t members).written = stream.written ++ membersText t members := by
  induction members generalizing stream with
  | nil => simp [membersToJson, membersText]
  | cons member members inductionHypothesis =>
      have plain := Reflection.names_plain member (found member List.mem_cons_self)
      have further := fun stream =>
        inductionHypothesis stream fun member mem => found member (List.mem_cons_of_mem _ mem)
      rw [membersToJson, further]
      cases members with
      | nil => simp [JsonValue.written_render, membersText, separated, keyText, plain.escapeText_eq]
      | cons second members =>
          simp [JsonValue.written_render, membersText, separated, keyText, plain.escapeText_eq]

/-- `to_json` writes the text of the record. -/
theorem written_toJson (stream : StringStream) (t : T) :
    (toJson stream t).written = stream.written ++ recordText t := by
  simp [toJson, recordText, written_membersToJson _ t _ fun _ member => member]

/-- The text of a record is what is written for it. -/
theorem myToString_eq (t : T) : myToString t = recordText t := by
  rw [myToString, written_toJson, written_new, List.nil_append]

/-- `join` with `render_json_value`. -/
def joinRecords (stream : StringStream) : List T → StringStream
  | [] => stream
  | [last] => toJson stream last
  | first :: second :: others => joinRecords ((toJson stream first).put 0x2c) (second :: others)

/-- The text of the elements of a container. -/
def elementsText : List T → Bytes
  | [] => []
  | element :: elements => recordText element ++ separated (elementsText elements)

/-- The text of an element is not empty. -/
theorem elementsText_ne_nil (element : T) (elements : List T) :
    elementsText (element :: elements) ≠ [] := by
  simp [elementsText, recordText]

/-- The elements of a list are written one behind the other. -/
theorem written_joinRecords (stream : StringStream) (elements : List T) :
    (joinRecords stream elements).written = stream.written ++ elementsText elements := by
  fun_induction joinRecords stream elements with
  | case1 => simp [elementsText]
  | case2 => simp [written_toJson, elementsText, separated]
  | case3 stream first second others inductionHypothesis =>
      have separator : separated (elementsText (second :: others)) =
          0x2c :: elementsText (second :: others) := if_neg (elementsText_ne_nil second others)
      have behind : elementsText (first :: second :: others) =
          recordText first ++ 0x2c :: elementsText (second :: others) := by
        rw [← separator, elementsText]
      simp [inductionHypothesis, written_toJson, behind]

/-! ## Reading -/

/-- A token of one character starts with it. -/
theorem Reader.Stands.first_eq {type : TokenType} (stands : reader.Stands type [c] rest) :
    reader.first = c := by
  have text := stands.text_eq
  have found : ((reader.memory.drop reader.token.str).take reader.token.len)[0]? = some c := by
    rw [Reader.text] at text
    rw [text]
    rfl
  rw [List.getElem?_take] at found
  split at found
  · rw [List.getElem?_drop, Nat.add_zero] at found
    rw [first, byte, List.getD_eq_getElem?_getD, found]
    rfl
  · cases found

/-- No element takes an error back. -/
theorem sequenceLoop_error {α : Type} {read : Reader → α → Option (α × Reader)} {element : α}
    (stays : ∀ {reader : Reader} {old value : α} {after : Reader},
      read reader old = some (value, after) → reader.error = true → after.error = true)
    {turns : Nat} {val value : List α} {after : Reader}
    (result : sequenceLoop read element turns reader val = some (value, after))
    (error : reader.error = true) : after.error = true := by
  induction turns generalizing reader val with
  | zero => cases result
  | succ turns inductionHypothesis =>
      rw [sequenceLoop] at result
      split at result
      · cases result
        exact error
      · split at result
        · cases result
        · rename_i found
          have kept := stays found error
          dsimp only at result
          split at result
          · exact inductionHypothesis result (next_error kept)
          · split at result
            · cases result
              exact kept
            · cases result
              rfl

/-- Reading a list forgets no error. -/
theorem readSequence_error {α : Type} {read : Reader → α → Option (α × Reader)} {element : α}
    (stays : ∀ {reader : Reader} {old value : α} {after : Reader},
      read reader old = some (value, after) → reader.error = true → after.error = true)
    {turns : Nat} {val value : List α} {after : Reader}
    (result : readSequence read element turns reader val = some (value, after))
    (error : reader.error = true) : after.error = true := by
  rw [readSequence] at result
  split at result
  · obtain ⟨last, found, same⟩ := Option.map_eq_some_iff.mp result
    rw [Prod.mk.injEq] at same
    rw [← same.2]
    exact next_error (sequenceLoop_error stays found (next_error error))
  · cases result
    rfl

/-- The loop over the elements only goes forward. -/
theorem sequenceLoop_advances {α : Type} {read : Reader → α → Option (α × Reader)} {element : α}
    (advances : ∀ {reader : Reader} {old value : α} {after : Reader},
      read reader old = some (value, after) → reader.Live → reader.Advances after)
    {turns : Nat} {val value : List α} {after : Reader}
    (result : sequenceLoop read element turns reader val = some (value, after))
    (live : reader.Live) : reader.Advances after := by
  induction turns generalizing reader val with
  | zero => cases result
  | succ turns inductionHypothesis =>
      rw [sequenceLoop] at result
      split at result
      · cases result
        exact .refl live
      · split at result
        · cases result
        · rename_i found
          have first := advances found live
          dsimp only at result
          split at result
          · have comma := first.trans (next_advances first.live)
            exact comma.trans (inductionHypothesis result comma.live)
          · split at result
            · cases result
              exact first
            · cases result
              exact first.trans (fail_advances first.live)

/-- Reading a list only goes forward. -/
theorem readSequence_advances {α : Type} {read : Reader → α → Option (α × Reader)} {element : α}
    (advances : ∀ {reader : Reader} {old value : α} {after : Reader},
      read reader old = some (value, after) → reader.Live → reader.Advances after)
    {turns : Nat} {val value : List α} {after : Reader}
    (result : readSequence read element turns reader val = some (value, after))
    (live : reader.Live) : reader.Advances after := by
  rw [readSequence] at result
  split at result
  · obtain ⟨last, found, same⟩ := Option.map_eq_some_iff.mp result
    rw [Prod.mk.injEq] at same
    have opened := next_advances live
    have read := opened.trans (sequenceLoop_advances advances found opened.live)
    rw [← same.2]
    exact read.trans (next_advances read.live)
  · cases result
    exact fail_advances live

variable {turns other : Nat} {element : T}

/-- What comes back from the elements of a container. -/
def decodedElements : List T → Option (List T)
  | [] => some []
  | element :: elements =>
      (decodedRecord element).bind fun decoded => (decodedElements elements).map (decoded :: ·)

/-- The reader at the first token of the elements, or at the bracket. -/
def AtElements (reader : Reader) (elements : List T) (rest : Bytes) : Prop :=
  match elements with
  | [] => reader.Stands .ctrl [0x5d] rest
  | element :: elements =>
      ∃ before : Reader, reader = before.next ∧ before.error = reader.error ∧
        before.At (elementsText (element :: elements) ++ 0x5d :: rest)

/-- In front of the elements the reader comes to the first of them. -/
theorem AtElements.of_before {elements : List T}
    (before : Before reader (elementsText elements) 0x5d rest) (filled : elements ≠ []) :
    AtElements reader.next elements rest ∧ reader.next.error = reader.error := by
  obtain ⟨element, elements, rfl⟩ := List.exists_cons_of_ne_nil filled
  have ahead := before.ahead (elementsText_ne_nil element elements)
  have opening : reader.At (0x7b :: (membersText element (Reflection.members (T := T)) ++
      (0x7d :: (separated (elementsText elements) ++ 0x5d :: rest)))) := by
    simpa [elementsText, recordText] using ahead
  have error := (next_ctrl opening rfl).2
  exact ⟨⟨reader, rfl, error.symm, ahead⟩, error⟩

/-- The loop over the elements comes to the closing bracket with what the elements decode to. -/
theorem sequenceLoop_comes (elements : List T) (val : List T)
    (bounded : (elementsText elements).length < other) (enough : elements.length < turns)
    (standing : AtElements reader elements rest) :
    reader.Comes 0x5d rest
      (sequenceLoop (readRecord other) Reflection.initial turns reader val)
      ((decodedElements elements).map (val ++ ·)) := by
  induction elements generalizing reader turns val with
  | nil =>
      obtain ⟨turns, rfl⟩ : ∃ less, turns = less + 1 := ⟨turns - 1, by omega⟩
      have stands : reader.Stands .ctrl [0x5d] rest := standing
      refine ⟨reader, ?_, stands, rfl⟩
      rw [sequenceLoop, if_pos ⟨stands.first_eq, running_of_ctrl stands.type_eq⟩]
      simp
  | cons element elements inductionHypothesis =>
      obtain ⟨turns, rfl⟩ : ∃ less, turns = less + 1 := ⟨turns - 1, by omega⟩
      obtain ⟨before, rfl, error, ahead⟩ := standing
      obtain ⟨c, behind, split, closing, separator, next⟩ :=
        @separated_eq (elementsText elements) 0x5d rfl rest
      have whole : before.At (recordText element ++ c :: behind) := by
        rw [← split]
        simpa [elementsText] using ahead
      have opening : before.next.first = 0x7b := by
        have opened : before.At (0x7b :: (membersText element (Reflection.members (T := T)) ++
            (0x7d :: (c :: behind)))) := by
          simpa [recordText] using whole
        exact (next_ctrl opened rfl).1.first_eq
      have open' : ¬ (before.next.first = 0x5d ∧ before.next.token.type ≠ .end') := by
        rw [opening]
        exact fun closed => absurd closed.1 (by decide)
      have larger := length_le_separated (elementsText elements)
      simp only [elementsText, List.length_append] at bounded
      have comes := readRecord_comes element (by omega : _ < other) closing whole
      rw [List.length_cons] at enough
      rw [sequenceLoop, if_neg open', decodedElements]
      cases decoded : decodedRecord element with
      | none =>
          rw [decoded] at comes
          intro value after result
          split at result
          · cases result
          · rename_i read
            have error := comes _ _ read
            dsimp only at result
            split at result
            · exact sequenceLoop_error readRecord_error result (next_error error)
            · split at result
              · cases result
                exact error
              · cases result
                rfl
      | some back =>
          rw [decoded] at comes
          obtain ⟨middle, read, stands, same⟩ := comes
          simp only [read, stands.first_eq, Option.bind_some, Option.map_map]
          cases elements with
          | nil =>
              rw [elementsText, if_pos rfl] at separator
              subst separator
              have closed : middle.Stands .ctrl [0x5d] rest := next middle stands
              exact ⟨middle, rfl, closed, same.trans error⟩
          | cons second others =>
              rw [if_neg (elementsText_ne_nil second others)] at separator
              subst separator
              have fewer : (elementsText (second :: others)).length < other := by omega
              have less : (second :: others).length < turns := by omega
              obtain ⟨standing, kept⟩ := AtElements.of_before (next middle stands) (by simp)
              have further := inductionHypothesis (val ++ [back]) fewer less standing
              have appended : (val ++ ·) ∘ (back :: ·) = fun decoded => val ++ [back] ++ decoded := by
                funext decoded
                simp
              rw [if_pos rfl, appended]
              exact further.of_step (kept.trans (same.trans error))

/-- A list has no more elements than its text has bytes. -/
theorem length_elements_le (elements : List T) :
    elements.length ≤ (elementsText elements).length := by
  induction elements with
  | nil => exact Nat.zero_le _
  | cons element elements inductionHypothesis =>
      have larger := length_le_separated (elementsText elements)
      simp only [elementsText, recordText, List.length_append, List.length_cons]
      omega

def sequenceText (elements : List T) : Bytes := 0x5b :: (elementsText elements ++ [0x5d])

/-- Reading a list comes behind its text with what the elements decode to. -/
theorem readSequence_comes (elements val : List T)
    (enough : (sequenceText elements).length < turns) (closing : isClosing c = true)
    (ahead : reader.At (sequenceText elements ++ c :: rest)) :
    reader.Comes c rest
      (readSequence (readRecord turns) Reflection.initial turns reader.next val)
      ((decodedElements elements).map (val ++ ·)) := by
  have opening : reader.At (0x5b :: (elementsText elements ++ 0x5d :: (c :: rest))) := by
    simpa [sequenceText] using ahead
  obtain ⟨stands, error⟩ := next_ctrl opening rfl
  have count := length_elements_le elements
  have total : (sequenceText elements).length = (elementsText elements).length + 2 := by
    simp [sequenceText]
  have started : AtElements reader.next.next elements (c :: rest) ∧
      reader.next.next.error = reader.next.error := by
    cases elements with
    | nil => exact next_ctrl stands.ahead rfl
    | cons element elements =>
        refine AtElements.of_before ?_ (List.cons_ne_nil _ _)
        rw [Before, if_neg (elementsText_ne_nil element elements)]
        exact ⟨_, stands⟩
  have comes := (sequenceLoop_comes elements val (by omega : _ < turns) (by omega : _ < turns)
    started.1).of_step (started.2.trans error)
  have expected : reader.next.expect 0x5b = true := beq_iff_eq.mpr stands.first_eq
  rw [readSequence, if_pos expected]
  cases decoded : decodedElements elements with
  | none =>
      rw [decoded] at comes
      intro value after result
      obtain ⟨last, found, same⟩ := Option.map_eq_some_iff.mp result
      rw [Prod.mk.injEq] at same
      rw [← same.2]
      exact next_error (comes _ _ found)
  | some value =>
      rw [decoded] at comes
      obtain ⟨after, read, closed, kept⟩ := comes
      obtain ⟨behind, same⟩ := next_ctrl closed.ahead (isCtrl_of_isClosing closing)
      exact ⟨after.next, by rw [read]; rfl, behind, same.trans kept⟩

/-! ## The end of a container -/

/-- The loop over the elements returns on any text. -/
theorem sequenceLoop_returns (val : List T) (settled : reader.Settled)
    (bounded : reader.pending < other) (enough : reader.pending < turns) :
    ∃ value after, (∀ otherBound more, other ≤ otherBound → turns ≤ more →
        sequenceLoop (readRecord otherBound) Reflection.initial more reader val =
          some (value, after)) ∧
      after.Settled ∧ after.pending ≤ reader.pending := by
  induction turns generalizing reader val with
  | zero => exact absurd enough (Nat.not_lt_zero _)
  | succ turns inductionHypothesis =>
      by_cases closed : reader.first = 0x5d ∧ reader.token.type ≠ .end'
      · refine ⟨val, reader, fun otherBound more _ least => ?_, settled, Nat.le_refl _⟩
        obtain ⟨more, rfl⟩ : ∃ less, more = less + 1 := ⟨more - 1, by omega⟩
        rw [sequenceLoop, if_pos closed]
      · obtain ⟨back, middle, read, sound, fewer⟩ :=
          @readRecord_returns T _ reader other Reflection.initial settled bounded
        by_cases comma : middle.first = 0x2c
        · -- At the end of the text there is no comma.
          have running : middle.token.type ≠ .end' := fun ended => sound.first_ne ended comma
          have less := sound.next_pending_lt running
          obtain ⟨value, after, further, stays, fewer'⟩ :=
            inductionHypothesis (val ++ [back]) sound.next (by omega) (by omega)
          refine ⟨value, after, fun otherBound more inside least => ?_, stays, by omega⟩
          obtain ⟨more, rfl⟩ : ∃ less, more = less + 1 := ⟨more - 1, by omega⟩
          rw [sequenceLoop, if_neg closed]
          simp only [read otherBound inside, if_pos comma]
          exact further otherBound more inside (by omega)
        · by_cases bracket : middle.first = 0x5d
          · refine ⟨val ++ [back], middle, fun otherBound more inside least => ?_, sound, fewer⟩
            obtain ⟨more, rfl⟩ : ∃ less, more = less + 1 := ⟨more - 1, by omega⟩
            rw [sequenceLoop, if_neg closed]
            simp only [read otherBound inside, if_neg comma, if_pos bracket]
          · refine ⟨val ++ [back], middle.fail, fun otherBound more inside least => ?_, sound.fail,
              fewer⟩
            obtain ⟨more, rfl⟩ : ∃ less, more = less + 1 := ⟨more - 1, by omega⟩
            rw [sequenceLoop, if_neg closed]
            simp only [read otherBound inside, if_neg comma, if_neg bracket]

/-- Reading a list returns on any text. -/
theorem readSequence_returns (val : List T) (settled : reader.Settled)
    (enough : reader.pending < turns) :
    reader.Returns turns fun turns =>
      readSequence (readRecord turns) Reflection.initial turns reader val := by
  by_cases opened : reader.expect 0x5b = true
  · have less := settled.next_pending_le
    obtain ⟨value, after, read, stays, fewer⟩ :=
      sequenceLoop_returns val settled.next (Nat.lt_of_le_of_lt less enough)
        (Nat.lt_of_le_of_lt less enough)
    have last := stays.next_pending_le
    refine ⟨value, after.next, fun other more => ?_, stays.next, by omega⟩
    simp only [readSequence, if_pos opened, read other other more more, Option.map_some]
  · refine ⟨val, reader.fail, fun other _ => ?_, settled.fail, Nat.le_refl _⟩
    simp only [readSequence, if_neg opened]

/-! ## What comes back -/

/-- The strings of a record. -/
def recordStrings (t : T) : List Bytes :=
  (Reflection.members (T := T)).flatMap fun member => JsonValue.strings (member.get t)

/-- The members behind one have other names. -/
theorem apart_of_split {before members : List (Member T)} {member : Member T}
    (split : before ++ member :: members = Reflection.members (T := T)) :
    member ∈ Reflection.members (T := T) ∧ ∀ other ∈ members, member.Apart other := by
  have apart := Reflection.apart (T := T)
  rw [← split] at apart
  refine ⟨by rw [← split]; simp, ?_⟩
  exact (List.pairwise_cons.mp (List.pairwise_append.mp apart).2.1).1

/-- The members which were read so far are those of the record which was written, and the others are
still as in a new record. -/
theorem decodedFrom_eq (t : T) {before members : List (Member T)} {built : T}
    (split : before ++ members = Reflection.members (T := T))
    (untouched : ∀ member ∈ members, member.get built = member.get Reflection.initial)
    (survive : ∀ member ∈ members, JsonValue.decoded (member.get t) = some (member.get t)) :
    decodedFrom t members built =
      some (members.foldl (fun built member => member.set (member.get t) built) built) := by
  induction members generalizing before built with
  | nil => rfl
  | cons member members inductionHypothesis =>
      obtain ⟨found, apart⟩ := apart_of_split split
      have further : (before ++ [member]) ++ members = Reflection.members (T := T) := by
        rw [← split]
        simp
      rw [decodedFrom, survive member List.mem_cons_self, Option.bind_some,
        untouched member List.mem_cons_self, Reflection.blank member found, List.foldl_cons]
      refine inductionHypothesis further ?_ ?_
      · intro other later
        rw [(apart other later).1]
        exact untouched other (List.mem_cons_of_mem _ later)
      · exact fun other later => survive other (List.mem_cons_of_mem _ later)

omit [Reflection T] in
/-- A member keeps what was read into it. -/
theorem get_of_decodedFrom (t : T) {member : Member T} {members : List (Member T)} {built value : T}
    (apart : ∀ other ∈ members, member.Apart other)
    (decoded : decodedFrom t members built = some value) : member.get value = member.get built := by
  induction members generalizing built with
  | nil =>
      cases decoded
      rfl
  | cons other members inductionHypothesis =>
      rw [decodedFrom] at decoded
      obtain ⟨part, -, further⟩ := Option.bind_eq_some_iff.mp decoded
      rw [inductionHypothesis (fun other later => apart other (List.mem_cons_of_mem _ later)) further,
        (apart other List.mem_cons_self).2]

/-- What was read of each member stands in the record. -/
theorem decoded_of_decodedFrom (t : T) {before members : List (Member T)} {built value : T}
    (split : before ++ members = Reflection.members (T := T))
    (untouched : ∀ member ∈ members, member.get built = member.get Reflection.initial)
    (decoded : decodedFrom t members built = some value) :
    ∀ member ∈ members, JsonValue.decoded (member.get t) = some (member.get value) := by
  induction members generalizing before built with
  | nil => exact fun member none => absurd none List.not_mem_nil
  | cons member members inductionHypothesis =>
      obtain ⟨found, apart⟩ := apart_of_split split
      have further : (before ++ [member]) ++ members = Reflection.members (T := T) := by
        rw [← split]
        simp
      rw [decodedFrom] at decoded
      obtain ⟨part, read, rest⟩ := Option.bind_eq_some_iff.mp decoded
      intro other later
      rcases List.mem_cons.mp later with rfl | later
      · rw [get_of_decodedFrom t apart rest, Reflection.get_set other found,
          untouched other List.mem_cons_self, Reflection.blank other found, read]
      · refine inductionHypothesis further (fun other later => ?_) rest other later
        rw [(apart other later).1]
        exact untouched other (List.mem_cons_of_mem _ later)

/-- A record decodes to itself exactly when its strings are plain. -/
theorem decodedRecord_eq_self_iff (t : T) :
    decodedRecord t = some t ↔ ∀ str ∈ recordStrings t, Plain str := by
  have survive : (∀ str ∈ recordStrings t, Plain str) ↔
      ∀ member ∈ Reflection.members (T := T),
        JsonValue.decoded (member.get t) = some (member.get t) := by
    simp only [recordStrings, List.mem_flatMap, forall_exists_index, and_imp,
      JsonValue.decoded_eq_self_iff]
    exact ⟨fun plain member found str inside => plain str member found inside,
      fun plain str member found inside => plain member found str inside⟩
  rw [survive]
  constructor
  · exact decoded_of_decodedFrom t (List.nil_append _) fun _ _ => rfl
  · intro members
    rw [decodedRecord, decodedFrom_eq t (List.nil_append _) (fun _ _ => rfl) members,
      Reflection.rebuild]

/-- A list decodes to itself exactly when the strings of its elements are plain. -/
theorem decodedElements_eq_self_iff (elements : List T) :
    decodedElements elements = some elements ↔
      ∀ str ∈ elements.flatMap recordStrings, Plain str := by
  induction elements with
  | nil => simp [decodedElements]
  | cons element elements inductionHypothesis =>
      rw [decodedElements, List.flatMap_cons]
      simp only [List.mem_append, or_imp, forall_and, ← inductionHypothesis,
        ← decodedRecord_eq_self_iff]
      constructor
      · intro same
        obtain ⟨back, first, joined⟩ := Option.bind_eq_some_iff.mp same
        obtain ⟨others, behind, equal⟩ := Option.map_eq_some_iff.mp joined
        cases equal
        exact ⟨first, behind⟩
      · rintro ⟨first, behind⟩
        rw [first, behind]
        rfl

/-- A separator has no zero. -/
theorem separated_clean {others : Bytes} (clean : 0 ∉ others) : 0 ∉ separated others := by
  unfold separated
  split
  · exact List.not_mem_nil
  · simpa using clean

omit [Reflection T] in
/-- The text of members has no zero. -/
theorem membersText_clean (t : T) (members : List (Member T)) : 0 ∉ membersText t members := by
  induction members with
  | nil => exact List.not_mem_nil
  | cons member members inductionHypothesis =>
      simp only [membersText, keyText, List.mem_append, List.mem_cons, not_or]
      refine ⟨⟨⟨by decide, escapeText_clean _⟩, by decide, by decide, List.not_mem_nil⟩,
        JsonValue.text_clean _, separated_clean inductionHypothesis⟩

/-- The text of a record has no zero. -/
theorem recordText_clean (t : T) : 0 ∉ recordText t := by
  simpa [recordText] using membersText_clean t (Reflection.members (T := T))

/-- The text of elements has no zero. -/
theorem elementsText_clean (elements : List T) : 0 ∉ elementsText elements := by
  induction elements with
  | nil => exact List.not_mem_nil
  | cons element elements inductionHypothesis =>
      rw [elementsText, List.mem_append, not_or]
      exact ⟨recordText_clean element, separated_clean inductionHypothesis⟩

instance : JsonValue (List T) where
  strings value := value.flatMap recordStrings
  text_clean value := by simpa [sequenceText] using elementsText_clean value
  decoded_eq_self_iff := decodedElements_eq_self_iff
  renderJsonValue stream value := (joinRecords (stream.put 0x5b) value).put 0x5d
  readJson turns := readSequence (readRecord turns) Reflection.initial turns
  text := sequenceText
  decoded := decodedElements
  assign old value := old ++ value
  written_render stream value := by
    simp [written_joinRecords, sequenceText]
  readJson_text old value enough closing ahead := readSequence_comes value old enough closing ahead
  readJson_error := readSequence_error readRecord_error
  readJson_advances := readSequence_advances readRecord_advances
  readJson_returns old settled enough := readSequence_returns old settled enough

end SM.Inc
