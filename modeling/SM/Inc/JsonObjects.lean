import SM.Inc.JsonValues

/-!
# Objects as JSON

What `do_read0` makes of the text of a record: each member is read into the record, whatever its
place. A container of records is a value again.
-/

namespace SM.Inc

open SM.Utils Reader StringStream

variable {T : Type} [Reflection T] {reader : Reader} {c : UInt8} {rest : Bytes}

/-! ## Names -/

/-- A plain name needs no escapes. -/
theorem PlainName.escapeText_eq {name : Bytes} (plain : PlainName name) :
    escapeText name = name := by
  obtain ⟨-, plain⟩ := plain
  induction name with
  | nil => rfl
  | cons c name inductionHypothesis =>
      obtain ⟨nonzero, unescaped⟩ := plain c List.mem_cons_self
      rw [escapeText_plain nonzero unescaped,
        inductionHypothesis fun c member => plain c (List.mem_cons_of_mem _ member)]

/-- A plain name is read back as it is. -/
theorem PlainName.readBack_eq {name : Bytes} (plain : PlainName name) :
    readBack name = some name := by
  refine (readBack_eq_self_iff name).mpr ⟨fun c member => ⟨(plain.2 c member).1, ?_⟩, ?_⟩
  · rintro rfl
    exact absurd (plain.2 _ member).2 (by decide)
  · intro c member control
    rw [(plain.2 c (List.mem_of_mem_dropLast member)).2] at control
    exact absurd control (by decide)

/-- A member is found by its name. -/
theorem findMember_name {member : Member T} (found : member ∈ Reflection.members (T := T)) :
    findMember T member.name = some member := by
  rw [findMember, List.find?_eq_some_iff_append]
  refine ⟨beq_self_eq_true _, ?_⟩
  obtain ⟨before, after, split⟩ := List.append_of_mem found
  refine ⟨before, after, split, fun other inBefore => ?_⟩
  have nodup := Reflection.names_nodup (T := T)
  rw [split, List.map_append, List.map_cons, List.nodup_append] at nodup
  have different := nodup.2.2 other.name (List.mem_map_of_mem inBefore) member.name
    List.mem_cons_self
  simpa using different

/-- No token of one character is a name. -/
theorem findMember_short {name : Bytes} (short : name.length ≤ 1) : findMember T name = none := by
  rw [findMember, List.find?_eq_none]
  intro member found same
  have long := (Reflection.names_plain member found).1
  rw [eq_of_beq same] at long
  omega

/-! ## The turns of `do_read0` -/

variable {bound turns loopIdx : Nat} {t : T} {member : Member T}

/-- At the end of the text the loop over the members ends. -/
theorem doRead0Loop_ended (ended : reader.token.type = .end') :
    doRead0Loop bound (turns + 1) loopIdx reader t = some (t, reader) := by
  rw [doRead0Loop, if_pos ended]

/-- The loop ends behind an unknown name at the end of the text or at a bracket. -/
theorem doRead0Loop_stop (running : reader.token.type ≠ .end')
    (unknown : findMember T (nameToken T loopIdx reader).text = none)
    (last : (nameToken T loopIdx reader).token.type = .end' ∨
      (nameToken T loopIdx reader).token.type = .ctrl) :
    doRead0Loop bound (turns + 1) loopIdx reader t = some (t, nameToken T loopIdx reader) := by
  rw [doRead0Loop, if_neg running]
  simp only [unknown, if_pos last]

/-- The loop goes on behind an unknown name. -/
theorem doRead0Loop_pass (running : reader.token.type ≠ .end')
    (unknown : findMember T (nameToken T loopIdx reader).text = none)
    (more : ¬ ((nameToken T loopIdx reader).token.type = .end' ∨
      (nameToken T loopIdx reader).token.type = .ctrl)) :
    doRead0Loop bound (turns + 1) loopIdx reader t =
      doRead0Loop bound turns loopIdx (nameToken T loopIdx reader).next.next.next t := by
  rw [doRead0Loop, if_neg running]
  simp only [unknown, if_neg more]

/-- The loop reads the value of a member it knows. -/
theorem doRead0Loop_read {value : member.Value} {after : Reader}
    (running : reader.token.type ≠ .end')
    (known : findMember T (nameToken T loopIdx reader).text = some member)
    (read : JsonValue.readJson bound (nameToken T loopIdx reader).next.next (member.get t) =
      some (value, after)) :
    doRead0Loop bound (turns + 1) loopIdx reader t =
      doRead0Loop bound turns (loopIdx + 1) after (member.set value t) := by
  rw [doRead0Loop, if_neg running]
  simp only [known, read]

/-- The loop does not return where the value of a member is not read. -/
theorem doRead0Loop_stuck (running : reader.token.type ≠ .end')
    (known : findMember T (nameToken T loopIdx reader).text = some member)
    (read : JsonValue.readJson bound (nameToken T loopIdx reader).next.next (member.get t) = none) :
    doRead0Loop bound (turns + 1) loopIdx reader t = none := by
  rw [doRead0Loop, if_neg running]
  simp only [known, read]

/-- The step to a name forgets no error. -/
theorem nameToken_error (error : reader.error = true) :
    (nameToken T loopIdx reader).error = true := by
  rw [nameToken]
  split
  · exact error
  · exact next_error error

/-- The loop over the members forgets no error. -/
theorem doRead0Loop_error {value : T} {after : Reader}
    (result : doRead0Loop bound turns loopIdx reader t = some (value, after))
    (error : reader.error = true) : after.error = true := by
  induction turns generalizing loopIdx reader t with
  | zero => cases result
  | succ turns inductionHypothesis =>
      have started : (nameToken T loopIdx reader).error = true := nameToken_error error
      by_cases ended : reader.token.type = .end'
      · rw [doRead0Loop_ended ended] at result
        cases result
        exact error
      · cases known : findMember T (nameToken T loopIdx reader).text with
        | none =>
            by_cases last : (nameToken T loopIdx reader).token.type = .end' ∨
              (nameToken T loopIdx reader).token.type = .ctrl
            · rw [doRead0Loop_stop ended known last] at result
              cases result
              exact started
            · rw [doRead0Loop_pass ended known last] at result
              exact inductionHypothesis result (next_error (next_error (next_error started)))
        | some member =>
            cases read : JsonValue.readJson bound (nameToken T loopIdx reader).next.next
              (member.get t) with
            | none =>
                rw [doRead0Loop_stuck ended known read] at result
                cases result
            | some found =>
                rw [doRead0Loop_read ended known read] at result
                exact inductionHypothesis result
                  (JsonValue.readJson_error read (next_error (next_error started)))

/-- The step to a name only goes forward. -/
theorem nameToken_advances (loopIdx : Nat) (live : reader.Live) :
    reader.Advances (nameToken T loopIdx reader) := by
  rw [nameToken]
  split
  · exact .refl live
  · exact next_advances live

/-- A record is read inside its text. -/
theorem doRead0Loop_advances {value : T} {after : Reader}
    (result : doRead0Loop bound turns loopIdx reader t = some (value, after)) (live : reader.Live) :
    reader.Advances after := by
  induction turns generalizing loopIdx reader t with
  | zero => cases result
  | succ turns inductionHypothesis =>
      have started := nameToken_advances (T := T) loopIdx live
      have second := started.trans (next_advances started.live)
      have third := second.trans (next_advances second.live)
      by_cases ended : reader.token.type = .end'
      · rw [doRead0Loop_ended ended] at result
        cases result
        exact .refl live
      · cases known : findMember T (nameToken T loopIdx reader).text with
        | none =>
            by_cases last : (nameToken T loopIdx reader).token.type = .end' ∨
              (nameToken T loopIdx reader).token.type = .ctrl
            · rw [doRead0Loop_stop ended known last] at result
              cases result
              exact started
            · rw [doRead0Loop_pass ended known last] at result
              have fourth := third.trans (next_advances third.live)
              exact fourth.trans (inductionHypothesis result fourth.live)
        | some member =>
            cases read : JsonValue.readJson bound (nameToken T loopIdx reader).next.next
              (member.get t) with
            | none =>
                rw [doRead0Loop_stuck ended known read] at result
                cases result
            | some found =>
                rw [doRead0Loop_read ended known read] at result
                have value := third.trans (JsonValue.readJson_advances read third.live)
                exact value.trans (inductionHypothesis result value.live)

/-- Reading a record only goes forward. -/
theorem readRecord_advances {turns : Nat} {t value : T} {after : Reader}
    (result : readRecord turns reader t = some (value, after)) (live : reader.Live) :
    reader.Advances after := by
  obtain ⟨last, found, same⟩ := Option.map_eq_some_iff.mp result
  rw [Prod.mk.injEq] at same
  have read := doRead0Loop_advances found live
  rw [← same.2]
  exact read.trans (next_advances read.live)

/-- Reading a record forgets no error. -/
theorem readRecord_error {turns : Nat} {t value : T} {after : Reader}
    (result : readRecord turns reader t = some (value, after)) (error : reader.error = true) :
    after.error = true := by
  obtain ⟨last, found, same⟩ := Option.map_eq_some_iff.mp result
  rw [Prod.mk.injEq] at same
  rw [← same.2]
  exact next_error (doRead0Loop_error found error)

/-! ## One member -/

/-- The text of a name and a colon. -/
def keyText (name : Bytes) : Bytes := 0x22 :: escapeText name ++ [0x22, 0x3a]

/-- The name and the colon in front of a value are read. -/
theorem key_reads {name found : Bytes} (same : readBack name = some found)
    (ahead : reader.At (keyText name ++ rest)) :
    reader.next.Stands .string found (0x3a :: rest) ∧ reader.next.next.At rest ∧
      reader.next.next.error = reader.error := by
  have quoted : reader.At (0x22 :: (escapeText name ++ 0x22 :: (0x3a :: rest))) := by
    simpa [keyText] using ahead
  have reads := next_string name quoted
  rw [same] at reads
  obtain ⟨string, error⟩ := reads
  obtain ⟨colon, kept⟩ := next_ctrl string.ahead rfl
  exact ⟨string, colon.ahead, kept.trans error⟩

/-- At a bracket the text is not at its end. -/
theorem running_of_ctrl (ctrl : reader.token.type = .ctrl) : reader.token.type ≠ .end' := by
  rw [ctrl]
  exact TokenType.noConfusion

/-- A member in front of the reader is read into the record. -/
theorem doRead0Loop_member (found : member ∈ Reflection.members (T := T)) {written value : member.Value}
    (ctrl : reader.token.type = .ctrl) (more : loopIdx ≠ size T)
    (ahead : reader.At (keyText member.name ++ (JsonValue.text written ++ c :: rest)))
    (closing : isClosing c = true) (enough : (JsonValue.text written).length < bound)
    (decoded : JsonValue.decoded written = some value) :
    ∃ after, doRead0Loop bound (turns + 1) loopIdx reader t =
        doRead0Loop bound turns (loopIdx + 1) after
          (member.set (JsonValue.assign (member.get t) value) t) ∧
      after.Stands .ctrl [c] rest ∧ after.error = reader.error := by
  obtain ⟨string, colon, kept⟩ :=
    key_reads (Reflection.names_plain member found).readBack_eq ahead
  have comes := JsonValue.readJson_text (member.get t) written enough closing colon
  rw [decoded] at comes
  obtain ⟨after, read, stands, error⟩ := comes
  have token : nameToken T loopIdx reader = reader.next := if_neg more
  refine ⟨after, doRead0Loop_read (running_of_ctrl ctrl) ?_ ?_, stands, error.trans kept⟩
  · rw [token, string.text_eq, findMember_name found]
  · rw [token, read]

/-- A member whose value cannot be read leaves an error. -/
theorem doRead0Loop_unreadable (found : member ∈ Reflection.members (T := T))
    {written : member.Value} (ctrl : reader.token.type = .ctrl) (more : loopIdx ≠ size T)
    (ahead : reader.At (keyText member.name ++ (JsonValue.text written ++ c :: rest)))
    (closing : isClosing c = true) (enough : (JsonValue.text written).length < bound)
    (undecoded : JsonValue.decoded written = none) {value : T} {after : Reader}
    (result : doRead0Loop bound (turns + 1) loopIdx reader t = some (value, after)) :
    after.error = true := by
  obtain ⟨string, colon, -⟩ :=
    key_reads (Reflection.names_plain member found).readBack_eq ahead
  have comes := JsonValue.readJson_text (member.get t) written enough closing colon
  have token : nameToken T loopIdx reader = reader.next := if_neg more
  have known : findMember T (nameToken T loopIdx reader).text = some member := by
    rw [token, string.text_eq, findMember_name found]
  rw [undecoded] at comes
  cases read : JsonValue.readJson bound reader.next.next.next (member.get t) with
  | none =>
      rw [doRead0Loop_stuck (running_of_ctrl ctrl) known (by rw [token, read])] at result
      cases result
  | some last =>
      rw [doRead0Loop_read (running_of_ctrl ctrl) known (by rw [token, read])] at result
      exact doRead0Loop_error result (comes _ _ read)

/-! ## Records -/

/-- What stands behind an element: nothing more, or a comma and the others. -/
def separated (others : Bytes) : Bytes := if others = [] then [] else 0x2c :: others

/-- A separator makes a text longer. -/
theorem length_le_separated (others : Bytes) : others.length ≤ (separated others).length := by
  unfold separated
  split
  · rename_i none
    rw [none]
  · exact Nat.le_succ _

/-- The reader in front of the elements with the given text and a closing bracket. -/
def Before (reader : Reader) (elements : Bytes) (bracket : UInt8) (rest : Bytes) : Prop :=
  if elements = [] then reader.Stands .ctrl [bracket] rest
  else ∃ c, reader.Stands .ctrl [c] (elements ++ bracket :: rest)

/-- In front of elements stands a bracket or a comma. -/
theorem Before.type_eq {elements : Bytes} {bracket : UInt8}
    (before : Before reader elements bracket rest) : reader.token.type = .ctrl := by
  unfold Before at before
  split at before
  · exact before.type_eq
  · obtain ⟨_, stands⟩ := before
    exact stands.type_eq

theorem Before.short {elements : Bytes} {bracket : UInt8}
    (before : Before reader elements bracket rest) : reader.text.length ≤ 1 := by
  unfold Before at before
  split at before
  · rw [before.text_eq]
    rfl
  · obtain ⟨_, stands⟩ := before
    rw [stands.text_eq]
    rfl

/-- In front of elements their text follows. -/
theorem Before.ahead {elements : Bytes} {bracket : UInt8}
    (before : Before reader elements bracket rest) (more : elements ≠ []) :
    reader.At (elements ++ bracket :: rest) := by
  rw [Before, if_neg more] at before
  obtain ⟨_, stands⟩ := before
  exact stands.ahead

/-- One character stands behind an element, a comma or the bracket. -/
theorem separated_eq (others : Bytes) {bracket : UInt8} (closing : isClosing bracket = true)
    (rest : Bytes) :
    ∃ c behind, separated others ++ bracket :: rest = c :: behind ∧ isClosing c = true ∧
      c = (if others = [] then bracket else 0x2c) ∧
      ∀ after : Reader, after.Stands .ctrl [c] behind → Before after others bracket rest := by
  unfold separated Before
  split
  · exact ⟨bracket, rest, rfl, closing, rfl, fun _ stands => stands⟩
  · exact ⟨0x2c, others ++ bracket :: rest, rfl, rfl, rfl, fun _ stands => ⟨_, stands⟩⟩

/-- The text of the given members of a record. -/
def membersText (t : T) : List (Member T) → Bytes
  | [] => []
  | member :: members =>
      keyText member.name ++ (JsonValue.text (member.get t) ++ separated (membersText t members))

def recordText (t : T) : Bytes := 0x7b :: (membersText t (Reflection.members (T := T)) ++ [0x7d])

/-- What is built from the given members of a record which was written. -/
def decodedFrom (t : T) : List (Member T) → T → Option T
  | [], built => some built
  | member :: members, built =>
      (JsonValue.decoded (member.get t)).bind fun value =>
        decodedFrom t members (member.set (JsonValue.assign (member.get built) value) built)

/-- What comes back from a record. -/
def decodedRecord (t : T) : Option T :=
  decodedFrom t (Reflection.members (T := T)) Reflection.initial

/-- A step which leaves the error flag as it was does not change where reading comes to. -/
theorem Reader.Comes.of_step {α : Type} {other : Reader} {result : Option (α × Reader)}
    {value : Option α} (comes : other.Comes c rest result value) (error : other.error = reader.error) :
    reader.Comes c rest result value := by
  cases value with
  | none => exact comes
  | some value =>
      obtain ⟨after, read, stands, same⟩ := comes
      exact ⟨after, read, stands, same.trans error⟩

/-- The loop over the members of a printed record comes to its bracket with every member
assigned. -/
theorem doRead0Loop_members (written : T) (members : List (Member T)) {built : T}
    (found : ∀ member ∈ members, member ∈ Reflection.members (T := T))
    (count : loopIdx + members.length = size T) (enough : members.length < turns)
    (bounded : (membersText written members).length < bound)
    (before : Before reader (membersText written members) 0x7d rest) :
    reader.Comes 0x7d rest (doRead0Loop bound turns loopIdx reader built)
      (decodedFrom written members built) := by
  induction members generalizing reader turns loopIdx built with
  | nil =>
      obtain ⟨turns, rfl⟩ : ∃ less, turns = less + 1 := ⟨turns - 1, by omega⟩
      have short := findMember_short (T := T) before.short
      have token : nameToken T loopIdx reader = reader := if_pos count
      refine ⟨reader, ?_, before, rfl⟩
      rw [doRead0Loop_stop (running_of_ctrl before.type_eq) (by rw [token, short])
        (by rw [token]; exact .inr before.type_eq), token]
  | cons member members inductionHypothesis =>
      obtain ⟨turns, rfl⟩ : ∃ less, turns = less + 1 := ⟨turns - 1, by omega⟩
      have isMember := found member List.mem_cons_self
      rw [List.length_cons] at count enough
      have more : loopIdx ≠ size T := by omega
      have ahead := before.ahead (by simp [membersText, keyText])
      obtain ⟨c, behind, split, closing, -, next⟩ :=
        @separated_eq (membersText written members) 0x7d rfl rest
      have whole : reader.At (keyText member.name ++
          (JsonValue.text (member.get written) ++ c :: behind)) := by
        rw [← split]
        simpa [membersText] using ahead
      simp only [membersText, List.length_append] at bounded
      have fits : (JsonValue.text (member.get written)).length < bound := by omega
      have fewer : (membersText written members).length < bound := by
        have larger := length_le_separated (membersText written members)
        omega
      rw [decodedFrom]
      cases decoded : JsonValue.decoded (member.get written) with
      | none =>
          intro value after result
          exact doRead0Loop_unreadable isMember before.type_eq more whole closing fits decoded result
      | some value =>
          obtain ⟨after, step, stands, error⟩ := @doRead0Loop_member T _ reader c behind bound turns
            loopIdx built member isMember _ _ before.type_eq more whole closing fits decoded
          rw [step]
          exact (inductionHypothesis (fun member mem => found member (List.mem_cons_of_mem _ mem))
            (by omega) (by omega) fewer (next after stands)).of_step error

omit [Reflection T] in
/-- A record has no more members than its text has bytes. -/
theorem length_members_le (t : T) (members : List (Member T)) :
    members.length ≤ (membersText t members).length := by
  induction members with
  | nil => exact Nat.zero_le _
  | cons member members inductionHypothesis =>
      have larger := length_le_separated (membersText t members)
      simp only [membersText, keyText, List.length_append, List.length_cons]
      omega

/-- The text of the members of a record is not empty. -/
theorem membersText_ne_nil (t : T) : membersText t (Reflection.members (T := T)) ≠ [] := by
  obtain ⟨member, members, split⟩ :=
    List.exists_cons_of_ne_nil (Reflection.members_ne_nil (T := T))
  rw [split]
  simp [membersText, keyText]

/-- `do_read0` behind the opening bracket of a record which was written. -/
theorem doRead0_comes (written : T) (enough : (recordText written).length < turns)
    (ahead : reader.At (recordText written ++ rest)) :
    reader.Comes 0x7d rest (doRead0 turns reader.next Reflection.initial)
      (decodedRecord written) := by
  have opening : reader.At (0x7b :: (membersText written (Reflection.members (T := T)) ++
      0x7d :: rest)) := by
    simpa [recordText] using ahead
  obtain ⟨stands, error⟩ := next_ctrl opening rfl
  have before : Before reader.next (membersText written (Reflection.members (T := T))) 0x7d rest := by
    rw [Before, if_neg (membersText_ne_nil written)]
    exact ⟨_, stands⟩
  have count := length_members_le written (Reflection.members (T := T))
  have size : (membersText written (Reflection.members (T := T))).length + 2 =
      (recordText written).length := by
    simp [recordText]
  exact (doRead0Loop_members written (Reflection.members (T := T)) (fun _ member => member)
    (Nat.zero_add _) (by omega) (by omega) before).of_step error

/-- A record is read as a value. -/
theorem readRecord_comes (written : T) (enough : (recordText written).length < turns)
    (closing : isClosing c = true) (ahead : reader.At (recordText written ++ c :: rest)) :
    reader.Comes c rest (readRecord turns reader.next Reflection.initial)
      (decodedRecord written) := by
  have comes := doRead0_comes written enough ahead
  cases decoded : decodedRecord written with
  | none =>
      rw [decoded] at comes
      intro value after result
      obtain ⟨last, found, same⟩ := Option.map_eq_some_iff.mp result
      rw [Prod.mk.injEq] at same
      rw [← same.2]
      exact next_error (comes _ _ found)
  | some value =>
      rw [decoded] at comes
      obtain ⟨after, read, stands, error⟩ := comes
      obtain ⟨behind, kept⟩ := next_ctrl stands.ahead (isCtrl_of_isClosing closing)
      exact ⟨after.next, by rw [readRecord, read]; rfl, behind, kept.trans error⟩

/-! ## The end of `do_read0` -/

/-- Behind a name less of the text is pending. -/
theorem nameToken_settled (loopIdx : Nat) (settled : reader.Settled)
    (running : reader.token.type ≠ .end') :
    (nameToken T loopIdx reader).Settled ∧
      (nameToken T loopIdx reader).pending ≤ reader.pending ∧
      (nameToken T loopIdx reader).next.pending < reader.pending := by
  have less := settled.next_pending_lt running
  rw [nameToken]
  split
  · exact ⟨settled, Nat.le_refl _, less⟩
  · exact ⟨settled.next, Nat.le_of_lt less,
      Nat.lt_of_le_of_lt settled.next.next_pending_le less⟩

/-- `do_read0` comes to an end, whatever the text. -/
theorem doRead0Loop_returns (loopIdx : Nat) (t : T) (settled : reader.Settled)
    (bounded : reader.pending < bound)
    (enough : reader.pending < turns) :
    ∃ value after, (∀ otherBound other, bound ≤ otherBound → turns ≤ other →
        doRead0Loop otherBound other loopIdx reader t = some (value, after)) ∧
      after.Settled ∧ after.pending ≤ reader.pending := by
  induction turns generalizing reader loopIdx t with
  | zero => exact absurd enough (Nat.not_lt_zero _)
  | succ turns inductionHypothesis =>
      by_cases ended : reader.token.type = .end'
      · refine ⟨t, reader, fun otherBound other _ more => ?_, settled, Nat.le_refl _⟩
        obtain ⟨other, rfl⟩ : ∃ less, other = less + 1 := ⟨other - 1, by omega⟩
        exact doRead0Loop_ended ended
      · obtain ⟨sound, notMore, less⟩ := nameToken_settled (T := T) loopIdx settled ended
        have second := sound.next.next_pending_le
        cases known : findMember T (nameToken T loopIdx reader).text with
        | none =>
            by_cases last : (nameToken T loopIdx reader).token.type = .end' ∨
              (nameToken T loopIdx reader).token.type = .ctrl
            · refine ⟨t, _, fun otherBound other _ more => ?_, sound, notMore⟩
              obtain ⟨other, rfl⟩ : ∃ less, other = less + 1 := ⟨other - 1, by omega⟩
              exact doRead0Loop_stop ended known last
            · have third := sound.next.next.next_pending_le
              obtain ⟨value, after, read, stays, fewer⟩ :=
                inductionHypothesis loopIdx t sound.next.next.next (by omega) (by omega)
              refine ⟨value, after, fun otherBound other inside more => ?_, stays, by omega⟩
              obtain ⟨other, rfl⟩ : ∃ less, other = less + 1 := ⟨other - 1, by omega⟩
              rw [doRead0Loop_pass ended known last]
              exact read otherBound other inside (by omega)
        | some member =>
            obtain ⟨part, middle, partRead, sound', fewer'⟩ :=
              JsonValue.readJson_returns (member.get t) sound.next.next
                (Nat.lt_of_le_of_lt second (by omega : _ < bound))
            obtain ⟨value, after, read, stays, fewer⟩ :=
              inductionHypothesis (loopIdx + 1) (member.set part t) sound' (by omega) (by omega)
            refine ⟨value, after, fun otherBound other inside more => ?_, stays, by omega⟩
            obtain ⟨other, rfl⟩ : ∃ less, other = less + 1 := ⟨other - 1, by omega⟩
            rw [doRead0Loop_read ended known (partRead otherBound inside)]
            exact read otherBound other inside (by omega)

/-- Reading a record returns on any text. -/
theorem readRecord_returns (settled : reader.Settled) (enough : reader.pending < turns) :
    reader.Returns turns fun turns => readRecord turns reader t := by
  obtain ⟨value, after, read, stays, fewer⟩ :=
    doRead0Loop_returns 0 t settled enough enough
  refine ⟨value, after.next, fun other more => ?_, stays.next,
    Nat.le_trans stays.next_pending_le fewer⟩
  simp only [readRecord, doRead0, read other other more more, Option.map_some]

end SM.Inc
