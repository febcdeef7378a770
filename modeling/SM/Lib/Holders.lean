import Mathlib.Logic.Function.Basic

/-!
# Entries and their holders

Records in a list stand for the entries of a table: `key` gives the entry which
a record holds, if any. `Held` says that every entry present has exactly one
holder and that nothing else is held. There is one lemma for each way in which
records and table change together.
-/

namespace SM.Lib

variable {Record Key : Type} [DecidableEq Key] {key : Record → Option Key} {present : Key → Bool}
  {records : List Record} {record changed : Record} {index : Nat} {entry : Key}

/-- Every entry present has exactly one holder, and every other entry none. -/
def Held (key : Record → Option Key) (present : Key → Bool) (records : List Record) : Prop :=
  ∀ entry, records.countP (key · = some entry) = (present entry).toNat

/-- A property of all records is kept where one is replaced by another which has it. -/
theorem forall_mem_set {holds : Record → Prop} (all : ∀ record ∈ records, holds record)
    (new : holds changed) : ∀ record ∈ records.set index changed, holds record := by
  intro record member
  rcases List.mem_or_eq_of_mem_set member with before | rfl
  · exact all record before
  · exact new

/-- A property of all records is kept where one is added which has it. -/
theorem forall_mem_added {holds : Record → Prop} (all : ∀ record ∈ records, holds record)
    (new : holds changed) : ∀ record ∈ records ++ [changed], holds record := by
  intro record member
  rcases List.mem_append.mp member with before | added
  · exact all record before
  · rw [List.mem_singleton.mp added]
    exact new

/-- A record found after one is added is an earlier one or that one. -/
theorem getElem?_added (found : (records ++ [changed])[index]? = some record) :
    records[index]? = some record ∨ index = records.length ∧ changed = record := by
  rw [List.getElem?_append] at found
  split at found
  · exact .inl found
  · rename_i outside
    obtain ⟨inside, same⟩ := List.getElem?_eq_some_iff.mp found
    simp only [List.length_singleton] at inside
    simp only [List.getElem_singleton] at same
    exact .inr ⟨by omega, same⟩

omit [DecidableEq Key] in
/-- Where a record is replaced by one which holds the same or nothing, every holder was one
before. -/
theorem getElem?_set_holder {position : Nat} {holder : Record}
    (found : records[index]? = some record)
    (same : key changed = none ∨ key changed = key record)
    (there : (records.set index changed)[position]? = some holder)
    (holds : key holder = some entry) :
    ∃ before, records[position]? = some before ∧ key before = some entry := by
  by_cases moved : index = position
  · subst moved
    have inside : index < records.length := (List.getElem?_eq_some_iff.mp found).1
    rw [List.getElem?_set_self inside, Option.some.injEq] at there
    subst there
    rcases same with free | same
    · rw [free] at holds
      cases holds
    · exact ⟨record, found, same ▸ holds⟩
  · rw [List.getElem?_set_ne moved] at there
    exact ⟨holder, there, holds⟩

namespace Held

/-- Without records nothing is held. -/
theorem nil : Held key (fun _ => false) [] := by
  intro entry
  simp

/-- An entry which is present has a holder. -/
theorem exists_of_present (held : Held key present records) (there : present entry = true) :
    ∃ record ∈ records, key record = some entry := by
  have counted := held entry
  rw [there, Bool.toNat_true] at counted
  have positive : 0 < records.countP (key · = some entry) := by omega
  obtain ⟨record, member, holds⟩ := List.countP_pos_iff.mp positive
  exact ⟨record, member, of_decide_eq_true holds⟩

/-- An entry which is held is present. -/
theorem present_of_mem (held : Held key present records) (member : record ∈ records)
    (holds : key record = some entry) : present entry = true := by
  have counted := held entry
  have positive : 0 < records.countP (key · = some entry) :=
    List.countP_pos_iff.mpr ⟨record, member, decide_eq_true holds⟩
  cases there : present entry with
  | true => rfl
  | false =>
      rw [there, Bool.toNat_false] at counted
      omega

/-- Two holders of one entry are the same record. -/
theorem eq_of_mem (held : Held key present records) (member : record ∈ records)
    (holds : key record = some entry) (other : changed ∈ records)
    (otherHolds : key changed = some entry) : record = changed := by
  have counted := held entry
  rw [present_of_mem held member holds, Bool.toNat_true, List.countP_eq_length_filter] at counted
  obtain ⟨only, filtered⟩ := List.length_eq_one_iff.mp counted
  have first : record ∈ [only] := filtered ▸ List.mem_filter.mpr ⟨member, decide_eq_true holds⟩
  have second : changed ∈ [only] :=
    filtered ▸ List.mem_filter.mpr ⟨other, decide_eq_true otherHolds⟩
  rw [List.mem_singleton.mp first, List.mem_singleton.mp second]

/-- A record without an entry can be added. -/
theorem append_free (held : Held key present records) (free : key record = none) :
    Held key present (records ++ [record]) := by
  intro entry
  simp [free, held entry]

/-- A record can be added together with its entry. -/
theorem append_holder (held : Held key present records) (absent : present entry = false)
    (holds : key record = some entry) :
    Held key (Function.update present entry true) (records ++ [record]) := by
  intro other
  rw [List.countP_append, held other]
  by_cases same : entry = other
  · subst same
    simp [holds, absent]
  · simp [holds, same, Function.update_of_ne (Ne.symm same)]

/-- The count after a record was replaced. -/
theorem countP_replaced (key : Record → Option Key) (found : records[index]? = some record)
    (changed : Record) (entry : Key) :
    (records.set index changed).countP (key · = some entry) +
        (decide (key record = some entry)).toNat =
      records.countP (key · = some entry) + (decide (key changed = some entry)).toNat := by
  obtain ⟨inside, rfl⟩ := List.getElem?_eq_some_iff.mp found
  rw [List.countP_set inside]
  by_cases before : key records[index] = some entry
  · have positive : 0 < records.countP (key · = some entry) :=
      List.countP_pos_iff.mpr ⟨_, List.getElem_mem inside, decide_eq_true before⟩
    by_cases after : key changed = some entry <;> simp [before, after] <;> omega
  · by_cases after : key changed = some entry <;> simp [before, after]

/-- A record can be replaced by one with the same entry. -/
theorem set_same (held : Held key present records) (found : records[index]? = some record)
    (same : key changed = key record) : Held key present (records.set index changed) := by
  intro entry
  have counted := countP_replaced key found changed entry
  rw [same, held entry] at counted
  omega

/-- A record can get an entry which was absent. -/
theorem set_acquired (held : Held key present records) (found : records[index]? = some record)
    (absent : present entry = false) (free : key record = none)
    (holds : key changed = some entry) :
    Held key (Function.update present entry true) (records.set index changed) := by
  intro other
  have counted := countP_replaced key found changed other
  rw [free, holds, held other] at counted
  by_cases same : entry = other
  · subst same
    simpa [absent] using counted
  · rw [Function.update_of_ne (Ne.symm same)]
    simpa [same] using counted

/-- A record can give up its entry. -/
theorem set_released (held : Held key present records) (found : records[index]? = some record)
    (holds : key record = some entry) (free : key changed = none) :
    Held key (Function.update present entry false) (records.set index changed) := by
  intro other
  have there := present_of_mem held (List.mem_of_getElem? found) holds
  have counted := countP_replaced key found changed other
  rw [free, holds, held other] at counted
  by_cases same : entry = other
  · subst same
    simpa [there] using counted
  · rw [Function.update_of_ne (Ne.symm same)]
    simpa [same] using counted

end Held
end SM.Lib
