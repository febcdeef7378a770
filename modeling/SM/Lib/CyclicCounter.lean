import Mathlib.Logic.Function.Iterate

/-!
# Cyclic counters

A counter that counts up to a last value and then falls back to its first one.
`iterate_next` gives the value after any number of steps, and `exists_iterate_iff`
which values it has had by then.
-/

namespace SM.Lib.CyclicCounter

/-- The value after `value`. -/
def next (first last value : Nat) : Nat := if value = last then first else value + 1

/-- The step at which a counter started at `first` comes to a value again or for the first time. -/
def arrival (first last value : Nat) : Nat :=
  if value = first then last + 1 - first else value - first

/-- The remainder counts up and falls back to zero. -/
theorem succ_mod {period : Nat} (positive : 0 < period) (count : Nat) :
    (count + 1) % period = if count % period + 1 = period then 0 else count % period + 1 := by
  have below : count % period < period := Nat.mod_lt _ positive
  rw [← Nat.mod_add_mod]
  split
  · rename_i full
    rw [full, Nat.mod_self]
  · exact Nat.mod_eq_of_lt (by omega)

/-- After some steps the counter stands at their number, modulo the cycle. -/
theorem iterate_next {first last : Nat} (ordered : first ≤ last) (count : Nat) :
    (next first last)^[count] first = first + count % (last + 1 - first) := by
  induction count with
  | zero => simp
  | succ count inductionHypothesis =>
      rw [Function.iterate_succ_apply', inductionHypothesis, next, succ_mod (by omega)]
      by_cases full : count % (last + 1 - first) + 1 = last + 1 - first
      · rw [if_pos full, if_pos (by omega), Nat.add_zero]
      · rw [if_neg full, if_neg (by omega), Nat.add_assoc]

/-- A value comes back after a whole cycle at the earliest. -/
theorem cycle_le_of_iterate_eq {first last earlier later : Nat} (ordered : first ≤ last)
    (before : earlier < later)
    (same : (next first last)^[earlier] first = (next first last)^[later] first) :
    last + 1 - first ≤ later - earlier := by
  rw [iterate_next ordered, iterate_next ordered] at same
  have remainders : later % (last + 1 - first) = earlier % (last + 1 - first) :=
    (Nat.add_left_cancel same).symm
  have divides : last + 1 - first ∣ later - earlier :=
    Nat.dvd_of_mod_eq_zero (Nat.sub_mod_eq_zero_of_mod_eq remainders)
  exact Nat.le_of_dvd (Nat.sub_pos_of_lt before) divides

/-- The values which the counter has had after some steps. -/
theorem exists_iterate_iff {first last value count : Nat} (ordered : first ≤ last) :
    (∃ step, 0 < step ∧ step ≤ count ∧ (next first last)^[step] first = value) ↔
      first ≤ value ∧ value ≤ last ∧ arrival first last value ≤ count := by
  simp only [iterate_next ordered, arrival]
  constructor
  · rintro ⟨step, positive, inside, rfl⟩
    have bound : step % (last + 1 - first) < last + 1 - first := Nat.mod_lt _ (by omega)
    refine ⟨by omega, by omega, ?_⟩
    split
    · rename_i back
      have divides : (last + 1 - first) ∣ step := Nat.dvd_of_mod_eq_zero (by omega)
      exact Nat.le_trans (Nat.le_of_dvd positive divides) inside
    · have below := Nat.mod_le step (last + 1 - first)
      omega
  · rintro ⟨low, high, reached⟩
    split at reached
    · rename_i back
      refine ⟨last + 1 - first, by omega, reached, ?_⟩
      rw [Nat.mod_self, back, Nat.add_zero]
    · rename_i later
      refine ⟨value - first, by omega, reached, ?_⟩
      rw [Nat.mod_eq_of_lt (by omega)]
      omega

end SM.Lib.CyclicCounter
