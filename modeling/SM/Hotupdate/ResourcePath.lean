import SM.Lib.LexicalPath

/-!
# Paths of resources

`FilePathMonitor::asyncGetResource` appends what follows the first slash of a URL to `_resRootPath`
and opens the file there. `staysInside_iff` says for which URLs that is a file below the root.
-/

namespace SM.Hotupdate

open SM.Lib.LexicalPath

/-- The characters of a `std::string`. -/
abbrev Chars := List Char

/-! ## Paths of the file system -/

namespace Path

def isAbsolute (path : Chars) : Bool := path.head? == some '/'

/-- `std::filesystem::path::append`: an absolute operand replaces the path. -/
def append (path operand : Chars) : Chars :=
  if isAbsolute operand then operand
  else if path = [] ∨ path.getLast? = some '/' then path ++ operand
  else path ++ '/' :: operand

/-- What stands between two slashes, if it is not nothing or a dot. -/
def component (segment : Chars) : Option (Component Chars) :=
  if segment = [] ∨ segment = ['.'] then none
  else if segment = ['.', '.'] then some .parent
  else some (.name segment)

def components (path : Chars) : List (Component Chars) :=
  (path.splitOn '/').filterMap component

/-- `std::filesystem::path::lexically_normal`. Above the root directory there is the root
directory. -/
def lexicallyNormal (path : Chars) : Normal Chars :=
  if isAbsolute path then ⟨0, (normalize (components path)).names⟩
  else normalize (components path)

/-- A path is the root or below it, after lexical normalisation. -/
def Inside (root path : Chars) : Prop :=
  isAbsolute path = isAbsolute root ∧ Below (lexicallyNormal root) (lexicallyNormal path)

variable {root path operand : Chars}

/-- A separator ends a component. -/
theorem components_cons (left right : Chars) :
    components (left ++ '/' :: right) = components left ++ components right := by
  rw [components, List.splitOn_append_cons_self, List.filterMap_append, components, components]

/-- A relative operand adds its components. -/
theorem components_append (relative : isAbsolute operand = false) :
    components (append root operand) = components root ++ components operand := by
  rw [append, relative, if_neg Bool.false_ne_true]
  by_cases empty : root = []
  · rw [if_pos (Or.inl empty), empty]
    rfl
  · by_cases ended : root.getLast? = some '/'
    · -- Nothing stands between the last slash of the root and its end.
      obtain ⟨front, rfl⟩ := List.getLast?_eq_some_iff.mp ended
      rw [if_pos (Or.inr ended), List.append_assoc, List.singleton_append, components_cons,
        components_cons]
      simp [components, component]
    · rw [if_neg (not_or.mpr ⟨empty, ended⟩), components_cons]

/-- A relative operand leaves the root as absolute as it was. -/
theorem isAbsolute_append (relative : isAbsolute operand = false) :
    isAbsolute (append root operand) = isAbsolute root := by
  rw [append, relative, if_neg Bool.false_ne_true]
  cases root with
  | nil => exact relative
  | cons first rest => split <;> rfl

/-- The names of a normal path are those which its components leave. -/
theorem names_lexicallyNormal (path : Chars) :
    (lexicallyNormal path).names = (normalize (components path)).names := by
  rw [lexicallyNormal]
  split <;> rfl

/-- A relative operand takes the path out of the root unless its names lead back. -/
theorem inside_append_iff (relative : isAbsolute operand = false) :
    Inside root (append root operand) ↔
      (isAbsolute root = false →
        (lexicallyNormal operand).parents ≤ (lexicallyNormal root).names.length) ∧
      Returns (lexicallyNormal root) (lexicallyNormal operand) := by
  have normal : lexicallyNormal operand = normalize (components operand) := by
    rw [lexicallyNormal, relative, if_neg Bool.false_ne_true]
  have names : Returns (lexicallyNormal root) (lexicallyNormal operand) ↔
      Returns (normalize (components root)) (normalize (components operand)) := by
    rw [Returns, Returns, names_lexicallyNormal, normal]
  rw [Inside, isAbsolute_append relative, eq_self, true_and, names, names_lexicallyNormal, normal]
  cases absolute : isAbsolute root with
  | true =>
      rw [lexicallyNormal, lexicallyNormal, isAbsolute_append relative, absolute, if_pos rfl,
        if_pos rfl, components_append relative, normalize_append]
      have back := prefix_append_iff (normalize (components root)) (normalize (components operand))
      exact ⟨fun below => ⟨fun rootless => Bool.noConfusion rootless, back.mp below.2⟩,
        fun returns => ⟨rfl, back.mpr returns.2⟩⟩
  | false =>
      rw [lexicallyNormal, lexicallyNormal, isAbsolute_append relative, absolute,
        if_neg Bool.false_ne_true, if_neg Bool.false_ne_true, components_append relative,
        normalize_append, below_append_iff]
      simp

/-- An absolute operand replaces the root, and is inside of it only if it leads there itself. -/
theorem inside_of_absolute_iff (absolute : isAbsolute operand = true) :
    Inside root (append root operand) ↔
      isAbsolute root = true ∧
        (lexicallyNormal root).names <+: (lexicallyNormal operand).names := by
  rw [append, if_pos absolute, Inside, absolute, eq_comm]
  refine and_congr_right fun rooted => ?_
  rw [Below, lexicallyNormal, lexicallyNormal, absolute, rooted]
  simp

end Path

/-! ## Requests -/

/-- The string which starts at a `const char*` ends before the first null character. -/
def cString (chars : Chars) : Chars := chars.takeWhile (· ≠ Char.ofNat 0)

/-- The path which `asyncGetResource` opens, if it accepts the URL. -/
def absPath (resRootPath url : Chars) : Option Chars :=
  match url with
  | [] => none
  | first :: rest => if first ≠ '/' then none else some (Path.append resRootPath (cString rest))

/-- The URL which a request for a resource asks for. -/
def resourceUrl (url : Chars) : Chars :=
  if url = ['/'] then ['/', 'i', 'n', 'd', 'e', 'x', '.', 'h', 't', 'm', 'l'] else url

/-- Every path that is opened for a URL is inside the root. -/
def StaysInside (resRootPath url : Chars) : Prop :=
  ∀ opened, absPath resRootPath url = some opened → Path.Inside resRootPath opened

/-- What follows the first slash of a URL does not lead out of the root: it is absolute and names
the root again, or relative with names that take back its steps to the parent. -/
def Contained (resRootPath operand : Chars) : Prop :=
  if Path.isAbsolute operand then
    Path.isAbsolute resRootPath = true ∧
      (Path.lexicallyNormal resRootPath).names <+: (Path.lexicallyNormal operand).names
  else
    (Path.isAbsolute resRootPath = false → (Path.lexicallyNormal operand).parents ≤
      (Path.lexicallyNormal resRootPath).names.length) ∧
    Returns (Path.lexicallyNormal resRootPath) (Path.lexicallyNormal operand)

/-- A URL stays inside of the root if and only if its path, up to the first zero, does. -/
theorem staysInside_iff (resRootPath rest : Chars) :
    StaysInside resRootPath ('/' :: rest) ↔ Contained resRootPath (cString rest) := by
  have opened : absPath resRootPath ('/' :: rest) =
      some (Path.append resRootPath (cString rest)) := by simp [absPath]
  rw [StaysInside, opened, Contained]
  simp only [Option.some.injEq, forall_eq']
  cases absolute : Path.isAbsolute (cString rest) with
  | true => rw [if_pos rfl, Path.inside_of_absolute_iff absolute]
  | false => rw [if_neg Bool.false_ne_true, Path.inside_append_iff absolute]

/-- A URL without steps to the parent and without a second slash in front stays inside. -/
theorem contained_of_plain {resRootPath operand : Chars}
    (relative : Path.isAbsolute operand = false)
    (plain : (Path.lexicallyNormal operand).parents = 0) : Contained resRootPath operand := by
  rw [Contained, relative, if_neg Bool.false_ne_true]
  exact ⟨fun _ => by rw [plain]; exact Nat.zero_le _, returns_of_parents_eq_zero plain⟩

/-- From `dist` a URL leads to `../secret`, and another one to `/etc`. -/
theorem staysInside_escape :
    (absPath ['d', 'i', 's', 't'] (resourceUrl ['/', '.', '.', '/', 's']) =
        some ['d', 'i', 's', 't', '/', '.', '.', '/', 's'] ∧
      ¬ StaysInside ['d', 'i', 's', 't'] (resourceUrl ['/', '.', '.', '/', 's'])) ∧
    (absPath ['d', 'i', 's', 't'] (resourceUrl ['/', '/', 'e', 't', 'c']) =
        some ['/', 'e', 't', 'c'] ∧
      ¬ StaysInside ['d', 'i', 's', 't'] (resourceUrl ['/', '/', 'e', 't', 'c'])) := by
  refine ⟨⟨by decide, fun inside => ?_⟩, ⟨by decide, fun inside => ?_⟩⟩
  · exact absurd (inside _ rfl).2 (by decide)
  · exact absurd (inside _ rfl).1 (by decide)

end SM.Hotupdate
