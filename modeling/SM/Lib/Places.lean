import Mathlib.Data.List.Perm.Subperm
import Mathlib.Logic.Function.Basic

/-!
# Places of resources

Resources are numbered in the order in which they are made, and lie in places. `Apart` says that
none lies in two places or twice in one. There is one lemma for each way in which a resource
is made, moved or lost.
-/

namespace SM.Lib

variable {Place : Type} {made : Nat} {held : Place → List Nat}

/-- Every resource was made, and lies in one place at most, once. -/
structure Apart (made : Nat) (held : Place → List Nat) : Prop where
  nodup : ∀ place, (held place).Nodup
  same : ∀ place other resource, resource ∈ held place → resource ∈ held other → place = other
  made : ∀ place resource, resource ∈ held place → resource < made

namespace Apart

/-- Before anything is made nothing is held. -/
theorem nil : Apart made fun _ : Place => [] where
  nodup _ := List.nodup_nil
  same _ _ _ inside := absurd inside List.not_mem_nil
  made _ _ inside := absurd inside List.not_mem_nil

/-- The next number is in no place. -/
theorem fresh (apart : Apart made held) (place : Place) : made ∉ held place := by
  intro inside
  exact Nat.lt_irrefl _ (apart.made place made inside)

/-- What is made and held nowhere is apart. -/
theorem grow (apart : Apart made held) : Apart (made + 1) held where
  nodup := apart.nodup
  same := apart.same
  made place resource inside := Nat.lt_succ_of_lt (apart.made place resource inside)

variable [DecidableEq Place] {source target : Place} {resource : Nat} {rest more : List Nat}

/-- Resources of one place are lost. -/
theorem lose (apart : Apart made held) (fewer : rest.Subperm (held source)) :
    Apart made (Function.update held source rest) := by
  have kept : ∀ place resource, resource ∈ Function.update held source rest place →
      resource ∈ held place := by
    intro place resource inside
    by_cases here : place = source
    · subst here
      rw [Function.update_self] at inside
      exact fewer.subset inside
    · rwa [Function.update_of_ne here] at inside
  refine ⟨?_, ?_, ?_⟩
  · intro place
    by_cases here : place = source
    · subst here
      obtain ⟨ordered, perm, sublist⟩ := fewer
      rw [Function.update_self, ← perm.nodup_iff]
      exact (apart.nodup place).sublist sublist
    · rw [Function.update_of_ne here]
      exact apart.nodup place
  · intro place other resource inside also
    exact apart.same place other resource (kept _ _ inside) (kept _ _ also)
  · exact fun place resource inside => apart.made place resource (kept _ _ inside)

/-- A resource that is in no place is put into one. -/
theorem put (apart : Apart made held) (free : ∀ place, resource ∉ held place)
    (known : resource < made) (filled : more.Perm (resource :: held target)) :
    Apart made (Function.update held target more) := by
  have split : ∀ place other, other ∈ Function.update held target more place →
      other = resource ∧ place = target ∨ other ∈ held place := by
    intro place other inside
    by_cases here : place = target
    · subst here
      rw [Function.update_self] at inside
      exact (List.mem_cons.mp (filled.subset inside)).imp_left fun same => ⟨same, rfl⟩
    · rw [Function.update_of_ne here] at inside
      exact Or.inr inside
  refine ⟨?_, ?_, ?_⟩
  · intro place
    by_cases here : place = target
    · subst here
      rw [Function.update_self, filled.nodup_iff, List.nodup_cons]
      exact ⟨free place, apart.nodup place⟩
    · rw [Function.update_of_ne here]
      exact apart.nodup place
  · intro place other resource' inside also
    rcases split _ _ inside with ⟨rfl, rfl⟩ | before
    · rcases split _ _ also with ⟨_, rfl⟩ | alsoBefore
      · rfl
      · exact absurd alsoBefore (free other)
    · rcases split _ _ also with ⟨rfl, _⟩ | alsoBefore
      · exact absurd before (free place)
      · exact apart.same place other resource' before alsoBefore
  · intro place resource' inside
    rcases split _ _ inside with ⟨rfl, _⟩ | before
    · exact known
    · exact apart.made place resource' before

/-- A new resource is put into a place. -/
theorem make (apart : Apart made held) (filled : more.Perm (made :: held target)) :
    Apart (made + 1) (Function.update held target more) :=
  apart.grow.put apart.fresh (Nat.lt_succ_self made) filled

/-- A resource goes from one place to another. -/
theorem move (apart : Apart made held) (different : source ≠ target)
    (taken : (held source).Perm (resource :: rest))
    (filled : more.Perm (resource :: held target)) :
    Apart made (Function.update (Function.update held source rest) target more) := by
  have inside : resource ∈ held source := taken.symm.subset List.mem_cons_self
  have fewer : rest.Subperm (held source) :=
    (List.sublist_cons_self resource rest).subperm.trans taken.symm.subperm
  refine (apart.lose fewer).put ?_ (apart.made source resource inside) ?_
  · intro place also
    by_cases here : place = source
    · subst here
      rw [Function.update_self] at also
      exact (List.nodup_cons.mp (taken.nodup_iff.mp (apart.nodup place))).1 also
    · rw [Function.update_of_ne here] at also
      exact here (apart.same place source resource also inside)
  · rw [Function.update_of_ne different.symm]
    exact filled

end Apart

end SM.Lib
