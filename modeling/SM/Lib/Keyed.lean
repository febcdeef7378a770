/-!
# Records with a key

`select` restricts a list of records to one key. Adding or replacing a record
changes the selection of its own key only. In a table which keeps the first record of
a key, the first record that was added is found (`lookup_foldl`).
-/

namespace SM.Lib

variable {Record Key : Type} [DecidableEq Key] {key : Record → Key} {wanted : Key}
  {records : List Record} {record changed : Record} {index : Nat}

/-- The records with a key, in their order. -/
def select (key : Record → Key) (wanted : Key) (records : List Record) : List Record :=
  records.filter (key · = wanted)

@[simp] theorem select_nil : select key wanted [] = [] :=
  rfl

@[simp] theorem select_append (records more : List Record) :
    select key wanted (records ++ more) = select key wanted records ++ select key wanted more :=
  List.filter_append ..

/-- A record with the key is selected. -/
theorem select_cons_of_eq (same : key record = wanted) (records : List Record) :
    select key wanted (record :: records) = record :: select key wanted records := by
  simp [select, same]

/-- A record with another key is not selected. -/
theorem select_cons_of_ne (other : key record ≠ wanted) (records : List Record) :
    select key wanted (record :: records) = select key wanted records := by
  simp [select, other]

/-- The first record is selected if it has the key. -/
theorem select_cons (record : Record) (records : List Record) :
    select key wanted (record :: records) =
      if key record = wanted then record :: select key wanted records
      else select key wanted records := by
  by_cases same : key record = wanted <;> simp [select, same]

/-- The records selected are those with the key. -/
theorem mem_select : record ∈ select key wanted records ↔
    record ∈ records ∧ key record = wanted := by
  simp [select]

/-- Where a record stands in the selection of its key, and its replacement. -/
theorem exists_select_set (found : records[index]? = some record) (same : key record = wanted)
    (changedSame : key changed = wanted) :
    ∃ before after, select key wanted records = before ++ record :: after ∧
      select key wanted (records.set index changed) = before ++ changed :: after := by
  induction records generalizing index with
  | nil => simp at found
  | cons head records inductionHypothesis =>
      cases index with
      | zero =>
          cases found
          refine ⟨[], select key wanted records, ?_, ?_⟩
          · exact select_cons_of_eq same records
          · exact select_cons_of_eq changedSame records
      | succ index =>
          have restFound : records[index]? = some record := found
          obtain ⟨before, after, selected, replaced⟩ := inductionHypothesis restFound
          by_cases headSame : key head = wanted
          · refine ⟨head :: before, after, ?_, ?_⟩
            · simp [select_cons_of_eq headSame, selected]
            · simp [select_cons_of_eq headSame, replaced]
          · refine ⟨before, after, ?_, ?_⟩
            · rw [select_cons_of_ne headSame, selected]
            · rw [List.set_cons_succ, select_cons_of_ne headSame, replaced]

/-- Replacing a record of another key by one of another key selects the same. -/
theorem select_set_of_ne (found : records[index]? = some record) (other : key record ≠ wanted)
    (changedOther : key changed ≠ wanted) :
    select key wanted (records.set index changed) = select key wanted records := by
  induction records generalizing index with
  | nil => rfl
  | cons head records inductionHypothesis =>
      cases index with
      | zero =>
          cases found
          rw [List.set_cons_zero, select_cons_of_ne changedOther, select_cons_of_ne other]
      | succ index =>
          have restFound : records[index]? = some record := found
          have rest := inductionHypothesis restFound
          by_cases headSame : key head = wanted
          · simp [select_cons_of_eq headSame, rest]
          · simp [select_cons_of_ne headSame, rest]

/-- The only record with its key is replaced. -/
theorem select_set_of_only {only : Record} (found : records[index]? = some record)
    (same : key record = wanted) (changedSame : key changed = wanted)
    (selected : select key wanted records = [only]) :
    record = only ∧ select key wanted (records.set index changed) = [changed] := by
  obtain ⟨before, after, split, replaced⟩ := exists_select_set found same changedSame
  rw [selected] at split
  cases before with
  | nil =>
      cases split
      exact ⟨rfl, replaced⟩
  | cons head before => simp at split

/-- Selecting and filtering commute. -/
theorem select_filter (p : Record → Bool) (records : List Record) :
    select key wanted (records.filter p) = (select key wanted records).filter p := by
  simp only [select, List.filter_filter, Bool.and_comm]

/-- Selecting behind a map selects by the key of what is mapped. -/
theorem select_map {Other : Type} (map : Other → Record) (records : List Other) :
    select key wanted (records.map map) =
      (select (fun record => key (map record)) wanted records).map map := by
  simp only [select, List.filter_map, Function.comp_def]

/-- A key occurs as often as records with it. -/
theorem count_map_key (key : Record → Key) (wanted : Key) (records : List Record) :
    (records.map key).count wanted = (select key wanted records).length := by
  rw [List.count, List.countP_map, List.countP_eq_length_filter, select]
  rfl

/-- Keys are distinct if no two records have the same. -/
theorem nodup_map_key (single : ∀ wanted, (select key wanted records).length ≤ 1) :
    (records.map key).Nodup := by
  apply List.nodup_iff_count.mpr
  intro wanted
  rw [count_map_key]
  exact single wanted

omit [DecidableEq Key] in
/-- A table which keeps the first record of a key. -/
theorem lookup_foldl {Table Value : Type} (lookup : Table → Key → Option Value)
    (add : Table → Record → Table) (holds : Key → Record → Bool) (value : Record → Value)
    (first : ∀ table record wanted, lookup (add table record) wanted =
      (lookup table wanted).or (if holds wanted record then some (value record) else none))
    (records : List Record) (table : Table) (wanted : Key) :
    lookup (records.foldl add table) wanted =
      (lookup table wanted).or ((records.find? (holds wanted)).map value) := by
  induction records generalizing table with
  | nil => simp
  | cons record records inductionHypothesis =>
      rw [List.foldl_cons, inductionHypothesis, first, Option.or_assoc]
      cases same : holds wanted record <;> simp [same]

end SM.Lib
