import Mathlib.Data.List.Induction

/-!
# Lexical paths

Lists of names and of steps to the parent, and their normal forms: some steps to the parent, and
names behind them. `below_append_iff` says which paths stay below the one they are taken from.
-/

namespace SM.Lib.LexicalPath

variable {Name : Type}

inductive Component (Name : Type) where
  | parent
  | name (name : Name)
deriving DecidableEq

/-- A path in normal form. -/
structure Normal (Name : Type) where
  parents : Nat
  names : List Name
deriving DecidableEq

namespace Normal

/-- A step to the parent takes a name away, if there is one. -/
def push (path : Normal Name) : Component Name → Normal Name
  | .name name => ⟨path.parents, path.names ++ [name]⟩
  | .parent =>
      if path.names = [] then ⟨path.parents + 1, []⟩ else ⟨path.parents, path.names.dropLast⟩

/-- One path taken from another. -/
def append (path tail : Normal Name) : Normal Name :=
  ⟨path.parents + (tail.parents - path.names.length),
    path.names.take (path.names.length - tail.parents) ++ tail.names⟩

/-- One component less of a front part. -/
theorem dropLast_take_le {names : List Name} {count : Nat} (inside : count ≤ names.length) :
    (names.take count).dropLast = names.take (count - 1) := by
  rw [List.dropLast_eq_take, List.length_take, Nat.min_eq_left inside, List.take_take,
    Nat.min_eq_left (Nat.sub_le _ _)]

/-- Up to the parent of what is left of the first path, or into the names of the second. -/
theorem append_push (path tail : Normal Name) (component : Component Name) :
    (path.append tail).push component = path.append (tail.push component) := by
  cases component with
  | name name => simp [push, append]
  | parent =>
      by_cases empty : tail.names = []
      · simp only [push, append, empty, List.append_nil, if_true, List.take_eq_nil_iff]
        by_cases above : path.names.length ≤ tail.parents
        · have none : path.names.length - tail.parents = 0 := Nat.sub_eq_zero_of_le above
          have below : path.names.length - (tail.parents + 1) = 0 := by omega
          rw [if_pos (Or.inl none), below, List.take_zero, mk.injEq]
          exact ⟨by omega, rfl⟩
        · have kept : ¬ (path.names.length - tail.parents = 0 ∨ path.names = []) := by
            rintro (none | none)
            · omega
            · rw [none] at above
              exact above (Nat.zero_le _)
          have one : path.names.length - (tail.parents + 1) =
              path.names.length - tail.parents - 1 := by omega
          rw [if_neg kept, mk.injEq, dropLast_take_le (Nat.sub_le _ _), one]
          exact ⟨by omega, rfl⟩
      · have whole : path.names.take (path.names.length - tail.parents) ++ tail.names ≠ [] :=
          List.append_ne_nil_of_right_ne_nil _ empty
        simp only [push, append, whole, empty, if_false, List.dropLast_append_of_ne_nil empty]

end Normal

/-- The normal form of a list of components. -/
def normalize (components : List (Component Name)) : Normal Name :=
  components.foldl Normal.push ⟨0, []⟩

/-- The last component is pushed onto those before it. -/
theorem normalize_concat (components : List (Component Name)) (component : Component Name) :
    normalize (components ++ [component]) = (normalize components).push component :=
  List.foldl_append

/-- An empty path adds nothing. -/
theorem append_empty (path : Normal Name) : path.append ⟨0, []⟩ = path := by
  simp [Normal.append]

/-- Pushing components one after another adds their path. -/
theorem foldl_push (path : Normal Name) (components : List (Component Name)) :
    components.foldl Normal.push path = path.append (normalize components) := by
  induction components using List.reverseRecOn with
  | nil => exact (append_empty path).symm
  | append_singleton components component inductionHypothesis =>
      rw [List.foldl_append, inductionHypothesis, normalize_concat]
      exact Normal.append_push path (normalize components) component

/-- Paths are normalized in parts. -/
theorem normalize_append (left right : List (Component Name)) :
    normalize (left ++ right) = (normalize left).append (normalize right) := by
  rw [normalize, List.foldl_append, foldl_push, ← normalize]

/-! ## Below a path -/

/-- Names follow those of the root. -/
def Below (root path : Normal Name) : Prop :=
  path.parents = root.parents ∧ root.names <+: path.names

instance [DecidableEq Name] (root path : Normal Name) : Decidable (Below root path) :=
  inferInstanceAs (Decidable (_ ∧ _))

/-- The names which the steps to the parent have left behind come again. -/
def Returns (root tail : Normal Name) : Prop :=
  root.names.drop (root.names.length - tail.parents) <+: tail.names

/-- A root is a prefix of a path behind it exactly when the path returns to it. -/
theorem prefix_append_iff (root tail : Normal Name) :
    root.names <+: (root.append tail).names ↔ Returns root tail := by
  have parts : root.names.take (root.names.length - tail.parents) ++
      root.names.drop (root.names.length - tail.parents) = root.names :=
    List.take_append_drop _ _
  rw [Normal.append, Returns]
  conv_lhs => lhs; rw [← parts]
  exact List.prefix_append_right_inj _

/-- A path is below its root exactly when it goes up no further than the root is long, and comes
back. -/
theorem below_append_iff (root tail : Normal Name) :
    Below root (root.append tail) ↔ tail.parents ≤ root.names.length ∧ Returns root tail := by
  rw [Below, prefix_append_iff, Normal.append]
  refine and_congr_left fun _ => ?_
  dsimp only
  omega

/-- Without a step to the parent a path stays where it starts. -/
theorem returns_of_parents_eq_zero {root tail : Normal Name} (none : tail.parents = 0) :
    Returns root tail := by
  rw [Returns, none, Nat.sub_zero, List.drop_length]
  exact List.nil_prefix

end SM.Lib.LexicalPath
