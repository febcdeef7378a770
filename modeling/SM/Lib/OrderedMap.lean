import Mathlib.Order.Defs.Unbundled

/-!
# Ordered maps

A map keeps its entries in the order of their keys, so that no key occurs twice.
Assigning a value changes what is found under its key only.
-/

namespace SM.Lib

/-- A map with its entries, the smallest key first. -/
structure OrderedMap (Key Value : Type) [LT Key] where
  entries : List (Key × Value)
  sorted : entries.Pairwise fun left right => left.1 < right.1

namespace OrderedMap

variable {Key Value : Type} [LT Key]

def empty : OrderedMap Key Value where
  entries := []
  sorted := List.Pairwise.nil

def find [DecidableEq Key] (map : OrderedMap Key Value) (key : Key) : Option Value :=
  map.entries.lookup key

/-- The values, that of the smallest key first. -/
def values (map : OrderedMap Key Value) : List Value :=
  map.entries.map (·.2)

/-- An empty map has nothing. -/
@[simp] theorem find_empty [DecidableEq Key] (key : Key) :
    (empty : OrderedMap Key Value).find key = none :=
  rfl

variable [DecidableLT Key] [DecidableEq Key]

/-- The entry of a key is replaced, or a new one put where its key belongs. -/
def assignEntry (key : Key) (value : Value) : List (Key × Value) → List (Key × Value)
  | [] => [(key, value)]
  | entry :: entries =>
      if key < entry.1 then (key, value) :: entry :: entries
      else if key = entry.1 then (key, value) :: entries
      else entry :: assignEntry key value entries

/-- An entry after an assignment is the new one or was there. -/
theorem mem_assignEntry {key : Key} {value : Value} {entries : List (Key × Value)}
    {entry : Key × Value} (member : entry ∈ assignEntry key value entries) :
    entry = (key, value) ∨ entry ∈ entries := by
  induction entries with
  | nil => exact .inl (List.mem_singleton.mp member)
  | cons head entries inductionHypothesis =>
      unfold assignEntry at member
      split at member
      · exact List.mem_cons.mp member
      split at member
      · exact (List.mem_cons.mp member).imp_right (List.mem_cons_of_mem _)
      rcases List.mem_cons.mp member with rfl | later
      · exact .inr List.mem_cons_self
      · exact (inductionHypothesis later).imp_right (List.mem_cons_of_mem _)

omit [LT Key] [DecidableLT Key] in
/-- A lookup looks at the first entry first. -/
theorem lookup_cons_if (wanted : Key) (head : Key × Value) (entries : List (Key × Value)) :
    (head :: entries).lookup wanted =
      if wanted = head.1 then some head.2 else entries.lookup wanted := by
  rw [List.lookup_cons]
  by_cases same : wanted = head.1
  · rw [if_pos same, beq_iff_eq.mpr same]
  · rw [if_neg same, beq_false_of_ne same]

omit [LT Key] [DecidableLT Key] in
/-- What is found is an entry. -/
theorem mem_of_lookup {key : Key} {value : Value} {entries : List (Key × Value)}
    (found : entries.lookup key = some value) : (key, value) ∈ entries := by
  induction entries with
  | nil => cases found
  | cons head entries inductionHypothesis =>
      rw [lookup_cons_if] at found
      split at found
      · next same =>
          cases found
          rw [same]
          exact List.mem_cons_self
      · exact List.mem_cons_of_mem _ (inductionHypothesis found)

section Entries

variable [@Std.Irrefl Key (· < ·)]

omit [DecidableLT Key] in
/-- In entries which are in order every one is found. -/
theorem lookup_of_mem {key : Key} {value : Value} {entries : List (Key × Value)}
    (sorted : entries.Pairwise fun left right => left.1 < right.1)
    (member : (key, value) ∈ entries) : entries.lookup key = some value := by
  induction entries with
  | nil => cases member
  | cons head entries inductionHypothesis =>
      obtain ⟨above, rest⟩ := List.pairwise_cons.mp sorted
      rw [lookup_cons_if]
      rcases List.mem_cons.mp member with rfl | later
      · rw [if_pos rfl]
      · have other : key ≠ head.1 := by
          rintro rfl
          exact Std.Irrefl.irrefl _ (above (head.1, value) later)
        rw [if_neg other, inductionHypothesis rest later]

omit [DecidableLT Key] in
/-- No key occurs twice, so every entry is found. -/
theorem find_eq_some_iff {map : OrderedMap Key Value} {key : Key} {value : Value} :
    map.find key = some value ↔ (key, value) ∈ map.entries :=
  ⟨mem_of_lookup, lookup_of_mem map.sorted⟩

omit [DecidableLT Key] in
/-- A map is given by what is found in it. -/
theorem ext_find [@Std.Asymm Key (· < ·)] {left right : OrderedMap Key Value}
    (same : ∀ key, left.find key = right.find key) : left = right := by
  have members (entry : Key × Value) : entry ∈ left.entries ↔ entry ∈ right.entries := by
    obtain ⟨key, value⟩ := entry
    rw [← find_eq_some_iff, ← find_eq_some_iff, same]
  have distinct (map : OrderedMap Key Value) : map.entries.Nodup := by
    refine map.sorted.imp ?_
    rintro entry _ before rfl
    exact Std.Irrefl.irrefl _ before
  have permuted : left.entries.Perm right.entries :=
    (List.perm_ext_iff_of_nodup (distinct left) (distinct right)).mpr members
  have entries : left.entries = right.entries := by
    refine permuted.eq_of_pairwise ?_ left.sorted right.sorted
    intro first second _ _ before after
    exact absurd after (Std.Asymm.asymm _ _ before)
  cases left
  cases right
  cases entries
  rfl

end Entries

/-- The key which was assigned has the new value, and the others their own. -/
theorem lookup_assignEntry (key wanted : Key) (value : Value) (entries : List (Key × Value)) :
    (assignEntry key value entries).lookup wanted =
      if wanted = key then some value else entries.lookup wanted := by
  induction entries with
  | nil => exact lookup_cons_if wanted (key, value) []
  | cons head entries inductionHypothesis =>
      unfold assignEntry
      split
      · exact lookup_cons_if wanted (key, value) (head :: entries)
      split
      · next here =>
          rw [lookup_cons_if, lookup_cons_if, ← here]
          split <;> rfl
      · next other =>
          rw [lookup_cons_if, lookup_cons_if, inductionHypothesis]
          by_cases same : wanted = key
          · rw [if_pos same, if_pos same, same, if_neg other]
          · rw [if_neg same, if_neg same]

section Sorted

variable [IsTrans Key (· < ·)] [@Std.Trichotomous Key (· < ·)]

/-- An assignment keeps the order. -/
theorem sorted_assignEntry (key : Key) (value : Value) {entries : List (Key × Value)}
    (sorted : entries.Pairwise fun left right => left.1 < right.1) :
    (assignEntry key value entries).Pairwise fun left right => left.1 < right.1 := by
  induction entries with
  | nil => exact List.pairwise_singleton ..
  | cons head entries inductionHypothesis =>
      obtain ⟨above, rest⟩ := List.pairwise_cons.mp sorted
      unfold assignEntry
      split
      · next before =>
          refine List.pairwise_cons.mpr ⟨?_, sorted⟩
          intro entry member
          rcases List.mem_cons.mp member with rfl | later
          · exact before
          · exact Trans.trans before (above entry later)
      split
      · next same =>
          subst same
          exact List.pairwise_cons.mpr ⟨above, rest⟩
      · next notBefore other =>
          refine List.pairwise_cons.mpr ⟨?_, inductionHypothesis rest⟩
          intro entry member
          rcases mem_assignEntry member with rfl | later
          · by_cases after : head.1 < key
            · exact after
            · exact absurd (Std.Trichotomous.trichotomous key head.1 notBefore after) other
          · exact above entry later

/-- `operator[]` and an assignment to its result. -/
def assign (map : OrderedMap Key Value) (key : Key) (value : Value) : OrderedMap Key Value where
  entries := assignEntry key value map.entries
  sorted := sorted_assignEntry key value map.sorted

/-- A map has what was assigned to it. -/
@[simp] theorem find_assign (map : OrderedMap Key Value) (key wanted : Key) (value : Value) :
    (map.assign key value).find wanted = if wanted = key then some value else map.find wanted :=
  lookup_assignEntry key wanted value map.entries

/-- `insert`: an entry that is there already keeps its value. -/
def insert (map : OrderedMap Key Value) (key : Key) (value : Value) : OrderedMap Key Value :=
  if (map.find key).isSome then map else map.assign key value

/-- An insertion leaves the value of a key which is there. -/
@[simp] theorem find_insert (map : OrderedMap Key Value) (key wanted : Key) (value : Value) :
    (map.insert key value).find wanted =
      (map.find wanted).or (if wanted = key then some value else none) := by
  unfold insert
  cases found : map.find key with
  | none =>
      simp only [Option.isSome_none, Bool.false_eq_true, if_false, find_assign]
      by_cases same : wanted = key
      · rw [if_pos same, same, found, if_pos rfl, Option.none_or]
      · rw [if_neg same, if_neg same, Option.or_none]
  | some old =>
      simp only [Option.isSome_some, if_true]
      by_cases same : wanted = key
      · rw [same, found, Option.some_or]
      · rw [if_neg same, Option.or_none]

/-- A single assignment is the only value. -/
@[simp] theorem values_assign_empty (key : Key) (value : Value) :
    ((empty : OrderedMap Key Value).assign key value).values = [value] :=
  rfl

end Sorted

end OrderedMap

end SM.Lib
