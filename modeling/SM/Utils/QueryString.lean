import Mathlib.Logic.Basic
import Mathlib.Tactic.ByContra
import SM.Lib.Keyed
import SM.Lib.OrderedMap
import SM.Utils.PackInt

/-!
# Query strings

`parseQueryString` cuts a string at each `'&'` and each segment at its first `'='`. What it reads
is given by the segments of the string, and pairs written as a query string are read back:
`parseQueryString_reads`.
-/

namespace SM.Utils

open SM.Lib

/-- The character `'&'`. -/
def ampersand : UInt8 := 38

/-- The character `'='`. -/
def equalsSign : UInt8 := 61

/-- `string::find`; the position `npos` is `none`. -/
def findChar (str : Bytes) (c : UInt8) : Option Nat := str.idxOf? c

/-- `pos + 1`, which for `npos` wraps to zero. -/
def succPos : Option Nat → Nat
  | some pos => pos + 1
  | none => 0

/-- One turn of the first loop: `vtemp` and `str` afterwards. -/
def cutSegment (vtemp : List Bytes) (str : Bytes) : List Bytes × Bytes :=
  let pos := findChar str ampersand
  let (vtemp, str) := match pos with
    | some pos => (vtemp ++ [str.take pos], str)
    | none => (vtemp ++ [str], [])
  (vtemp, str.drop (succPos pos))

/-- A character is not found exactly where it is not there. -/
theorem findChar_eq_none {str : Bytes} {c : UInt8} : findChar str c = none ↔ c ∉ str :=
  List.idxOf?_eq_none_iff

/-- A character is found at its first place. -/
theorem findChar_append {before : Bytes} {c : UInt8} (absent : c ∉ before) (after : Bytes) :
    findChar (before ++ c :: after) c = some before.length := by
  induction before with
  | nil => simp [findChar, List.idxOf?_cons]
  | cons head before inductionHypothesis =>
      have other : c ≠ head := List.ne_of_not_mem_cons absent
      have rest : c ∉ before := List.not_mem_of_not_mem_cons absent
      have found := inductionHypothesis rest
      rw [findChar] at found ⊢
      rw [List.cons_append, List.idxOf?_cons, found]
      simp [Ne.symm other]

/-- A segment ends at its ampersand. -/
theorem cutSegment_append {before : Bytes} (absent : ampersand ∉ before) (vtemp : List Bytes)
    (after : Bytes) :
    cutSegment vtemp (before ++ ampersand :: after) = (vtemp ++ [before], after) := by
  rw [cutSegment, findChar_append absent]
  simp [succPos]

/-- The last segment ends with the text. -/
theorem cutSegment_of_not_mem {str : Bytes} (absent : ampersand ∉ str) (vtemp : List Bytes) :
    cutSegment vtemp str = (vtemp ++ [str], []) := by
  rw [cutSegment, findChar_eq_none.mpr absent]
  rfl

/-- A turn of the loop shortens the string, also where `npos + 1` characters are erased. -/
theorem length_cutSegment {str : Bytes} (something : str ≠ []) (vtemp : List Bytes) :
    (cutSegment vtemp str).2.length < str.length := by
  by_cases member : ampersand ∈ str
  · obtain ⟨before, after, rfl, absent⟩ := List.eq_append_cons_of_mem member
    simp only [cutSegment_append absent, List.length_append, List.length_cons]
    omega
  · rw [cutSegment_of_not_mem member]
    exact List.length_pos_iff.mpr something

/-- The first loop. -/
def cutSegments (vtemp : List Bytes) (str : Bytes) : List Bytes :=
  if something : str ≠ [] then
    have := length_cutSegment something vtemp
    cutSegments (cutSegment vtemp str).1 (cutSegment vtemp str).2
  else vtemp
termination_by str.length

/-! The keys of the map are in the order of their bytes. -/

instance bytesTrans : IsTrans Bytes (· < ·) := inferInstance

instance bytesTrichotomous : @Std.Trichotomous Bytes (· < ·) := inferInstance

/-- One turn of the second loop: `ret` with the segment's value, unless its key has one. -/
def insertSegment (ret : OrderedMap Bytes Bytes) (segment : Bytes) : OrderedMap Bytes Bytes :=
  match findChar segment equalsSign with
  | some pos =>
      ret.insert (segment.take pos) ((segment.drop (pos + 1)).take (segment.length - pos - 1))
  | none => ret.insert segment []

def parseQueryString (str : Bytes) : OrderedMap Bytes Bytes :=
  (cutSegments [] str).foldl insertSegment OrderedMap.empty

/-! ## Segments -/

/-- The pieces between the `'&'`, without an empty rest behind the last one. -/
def segments (str : Bytes) : List Bytes :=
  let pieces := str.splitOn ampersand
  if pieces.getLast? = some [] then pieces.dropLast else pieces

@[simp] theorem segments_nil : segments [] = [] := by
  simp [segments]

/-- A text without an ampersand is one segment. -/
theorem segments_of_not_mem {str : Bytes} (something : str ≠ []) (absent : ampersand ∉ str) :
    segments str = [str] := by
  simp [segments, List.splitOn_eq_singleton absent, something]

/-- A text is cut at its first ampersand. -/
theorem segments_append {before : Bytes} (absent : ampersand ∉ before) (after : Bytes) :
    segments (before ++ ampersand :: after) = before :: segments after := by
  have pieces := List.splitOn_ne_nil ampersand after
  simp only [segments, List.splitOn_append_cons_self_of_not_mem absent,
    List.getLast?_cons_of_ne_nil pieces, List.dropLast_cons_of_ne_nil pieces]
  split <;> rfl

/-- The first loop cuts the string into its segments. -/
theorem cutSegments_eq (vtemp : List Bytes) (str : Bytes) :
    cutSegments vtemp str = vtemp ++ segments str := by
  induction vtemp, str using cutSegments.induct with
  | case1 vtemp str something shorter inductionHypothesis =>
      rw [cutSegments, dif_pos something, inductionHypothesis]
      by_cases member : ampersand ∈ str
      · obtain ⟨before, after, rfl, absent⟩ := List.eq_append_cons_of_mem member
        rw [cutSegment_append absent, segments_append absent, List.append_assoc]
        rfl
      · rw [cutSegment_of_not_mem member, segments_of_not_mem something member, segments_nil,
          List.append_nil]
  | case2 vtemp str nothing =>
      rw [cutSegments, dif_neg nothing, not_not.mp nothing, segments_nil, List.append_nil]

/-! ## Keys and values -/

/-- A segment read as a key and a value: it is split at its first `'='`, and without one the value
is empty. -/
def Splits (segment key value : Bytes) : Prop :=
  equalsSign ∉ key ∧ (segment = key ∧ value = [] ∨ segment = key ++ equalsSign :: value)

/-- The key and the value which the second loop takes from a segment. -/
def keyValue (segment : Bytes) : Bytes × Bytes :=
  match findChar segment equalsSign with
  | some pos => (segment.take pos, (segment.drop (pos + 1)).take (segment.length - pos - 1))
  | none => (segment, [])

/-- A segment inserts its key with its value. -/
theorem insertSegment_eq (ret : OrderedMap Bytes Bytes) (segment : Bytes) :
    insertSegment ret segment = ret.insert (keyValue segment).1 (keyValue segment).2 := by
  unfold insertSegment keyValue
  split <;> rfl

/-- A key ends at its first equals sign. -/
theorem keyValue_append {key : Bytes} (absent : equalsSign ∉ key) (value : Bytes) :
    keyValue (key ++ equalsSign :: value) = (key, value) := by
  have rest : (key ++ equalsSign :: value).drop (key.length + 1) = value := by
    rw [← List.drop_drop, List.drop_left]
    rfl
  have length : (key ++ equalsSign :: value).length - key.length - 1 = value.length := by
    simp only [List.length_append, List.length_cons]
    omega
  simp only [keyValue, findChar_append absent, List.take_left, rest, length, List.take_length]

/-- A segment without an equals sign is a key without a value. -/
theorem keyValue_of_not_mem {segment : Bytes} (absent : equalsSign ∉ segment) :
    keyValue segment = (segment, []) := by
  rw [keyValue, findChar_eq_none.mpr absent]

/-- A segment is read in one way. -/
theorem splits_iff {segment key value : Bytes} :
    Splits segment key value ↔ keyValue segment = (key, value) := by
  constructor
  · rintro ⟨absent, ⟨rfl, rfl⟩ | rfl⟩
    · exact keyValue_of_not_mem absent
    · exact keyValue_append absent value
  · intro read
    by_cases member : equalsSign ∈ segment
    · obtain ⟨before, after, rfl, absent⟩ := List.eq_append_cons_of_mem member
      rw [keyValue_append absent] at read
      cases read
      exact ⟨absent, .inr rfl⟩
    · rw [keyValue_of_not_mem member] at read
      cases read
      exact ⟨member, .inl ⟨rfl, rfl⟩⟩

/-- The map holds the values of the first segment with each key. -/
theorem find_parseQueryString (str key : Bytes) :
    (parseQueryString str).find key =
      ((segments str).find? fun segment => (keyValue segment).1 = key).map fun segment =>
        (keyValue segment).2 := by
  have first := lookup_foldl
    (fun (ret : OrderedMap Bytes Bytes) (key : Bytes) => ret.find key) insertSegment
    (fun key segment => (keyValue segment).1 = key) (fun segment => (keyValue segment).2)
  rw [parseQueryString, cutSegments_eq, List.nil_append]
  rw [first]
  · rw [OrderedMap.find_empty, Option.none_or]
  · intro ret segment wanted
    rw [insertSegment_eq, OrderedMap.find_insert]
    simp only [@eq_comm _ wanted, decide_eq_true_eq]

/-- What is found under a key: the value of the first segment that has it. -/
theorem find_parseQueryString_iff (str key value : Bytes) :
    (parseQueryString str).find key = some value ↔
      ∃ earlier segment later, segments str = earlier ++ segment :: later ∧
        Splits segment key value ∧
        ∀ other ∈ earlier, ∀ given, ¬ Splits other key given := by
  simp only [find_parseQueryString, Option.map_eq_some_iff, List.find?_eq_some_iff_append,
    splits_iff, Prod.ext_iff, decide_eq_true_eq, Bool.not_eq_true', decide_eq_false_iff_not]
  constructor
  · rintro ⟨segment, ⟨sameKey, earlier, later, split, others⟩, sameValue⟩
    refine ⟨earlier, segment, later, split, ⟨sameKey, sameValue⟩, ?_⟩
    rintro other member given ⟨same, -⟩
    exact others other member same
  · rintro ⟨earlier, segment, later, split, ⟨sameKey, sameValue⟩, others⟩
    refine ⟨segment, ⟨sameKey, earlier, later, split, ?_⟩, sameValue⟩
    intro other member same
    exact others other member _ ⟨same, rfl⟩

/-! ## Written pairs -/

/-- Pairs with distinct keys in which no separator occurs. -/
structure QueryPairs where
  pairs : List (Bytes × Bytes)
  distinct : (pairs.map (·.1)).Nodup
  keysFree : ∀ pair ∈ pairs, ampersand ∉ pair.1 ∧ equalsSign ∉ pair.1
  valuesFree : ∀ pair ∈ pairs, ampersand ∉ pair.2

namespace QueryPairs

/-- `key=value` -/
def written (pair : Bytes × Bytes) : Bytes := pair.1 ++ equalsSign :: pair.2

/-- The pairs, joined with `'&'`. -/
def queryString (query : QueryPairs) : Bytes :=
  [ampersand].intercalate (query.pairs.map written)

/-- A written pair has no ampersand. -/
theorem ampersand_not_mem_written {query : QueryPairs} {pair : Bytes × Bytes}
    (member : pair ∈ query.pairs) : ampersand ∉ written pair := by
  have keyFree := (query.keysFree pair member).1
  have valueFree := query.valuesFree pair member
  have apart : ampersand ≠ equalsSign := by decide
  simp [written, keyFree, valueFree, apart]

/-- The segments of a query are its pairs. -/
theorem segments_queryString (query : QueryPairs) :
    segments query.queryString = query.pairs.map written := by
  cases list : query.pairs with
  | nil => simp [queryString, list]
  | cons first rest =>
      have free : ∀ piece ∈ query.pairs.map written, ampersand ∉ piece := by
        intro piece member
        obtain ⟨pair, listed, rfl⟩ := List.mem_map.mp member
        exact ampersand_not_mem_written listed
      have something : query.pairs.map written ≠ [] := by simp [list]
      have last : (query.pairs.map written).getLast? ≠ some [] := by
        intro empty
        have member := List.mem_of_getLast? empty
        obtain ⟨pair, -, none⟩ := List.mem_map.mp member
        simp [written] at none
      rw [← list, segments, queryString, List.splitOn_intercalate ampersand free something]
      exact if_neg last

/-- A written pair is split into its key and its value. -/
theorem splits_written {query : QueryPairs} {pair : Bytes × Bytes} (member : pair ∈ query.pairs)
    {key value : Bytes} : Splits (written pair) key value ↔ pair = (key, value) := by
  rw [splits_iff, written, keyValue_append (query.keysFree pair member).2]

/-- The pairs of a query string are read back. -/
theorem find_queryString (query : QueryPairs) (key value : Bytes) :
    (parseQueryString query.queryString).find key = some value ↔ (key, value) ∈ query.pairs := by
  rw [find_parseQueryString_iff, segments_queryString]
  constructor
  · rintro ⟨earlier, segment, later, split, read, -⟩
    have member : segment ∈ query.pairs.map written := by simp [split]
    obtain ⟨pair, listed, rfl⟩ := List.mem_map.mp member
    rwa [← (splits_written listed).mp read]
  · intro member
    obtain ⟨before, after, split⟩ := List.append_of_mem member
    refine ⟨before.map written, written (key, value), after.map written, ?_, ?_, ?_⟩
    · rw [split, List.map_append, List.map_cons]
    · exact (splits_written member).mpr rfl
    · intro other early given read
      obtain ⟨pair, listed, rfl⟩ := List.mem_map.mp early
      have inside : pair ∈ query.pairs := by simp [split, listed]
      have same := (splits_written inside).mp read
      have distinct := query.distinct
      rw [split, List.map_append, List.map_cons, List.nodup_append] at distinct
      refine distinct.2.2 key ?_ key List.mem_cons_self rfl
      rw [same] at listed
      exact List.mem_map_of_mem listed

/-- The order of the pairs does not matter. -/
theorem parseQueryString_perm {query other : QueryPairs} (permuted : other.pairs.Perm query.pairs) :
    parseQueryString other.queryString = parseQueryString query.queryString := by
  apply OrderedMap.ext_find
  intro key
  ext value
  rw [find_queryString, find_queryString, permuted.mem_iff]

end QueryPairs

/-- What `parseQueryString` reads: the pairs of a query string, and in any string the segments. -/
structure ReadsQueryStrings (parse : Bytes → OrderedMap Bytes Bytes) : Prop where
  pairs : ∀ (query : QueryPairs) key value,
    (parse query.queryString).find key = some value ↔ (key, value) ∈ query.pairs
  anyOrder : ∀ query other : QueryPairs, other.pairs.Perm query.pairs →
    parse other.queryString = parse query.queryString
  anyString : ∀ str key value, (parse str).find key = some value ↔
    ∃ earlier segment later, segments str = earlier ++ segment :: later ∧
      Splits segment key value ∧ ∀ other ∈ earlier, ∀ given, ¬ Splits other key given

/-- Every turn of the first loop shortens the string, and the map has the pairs and the segments
of the string. -/
theorem parseQueryString_reads :
    (∀ vtemp str, str ≠ [] → (cutSegment vtemp str).2.length < str.length) ∧
      ReadsQueryStrings parseQueryString := by
  refine ⟨fun vtemp _ something => length_cutSegment something vtemp, ?_, ?_, ?_⟩
  · exact QueryPairs.find_queryString
  · exact fun _ _ permuted => QueryPairs.parseQueryString_perm permuted
  · exact find_parseQueryString_iff

/-- Two pairs in either order, one with an equals sign in its value. -/
example :
    let query : QueryPairs := ⟨[([97], [49]), ([98], [50, 61])], by decide, by decide, by decide⟩
    let other : QueryPairs := ⟨[([98], [50, 61]), ([97], [49])], by decide, by decide, by decide⟩
    query.queryString = [97, 61, 49, 38, 98, 61, 50, 61] ∧
      (parseQueryString query.queryString).find [98] = some [50, 61] ∧
      parseQueryString other.queryString = parseQueryString query.queryString := by
  refine ⟨by decide, ?_, ?_⟩
  · exact (QueryPairs.find_queryString _ _ _).mpr (by decide)
  · exact QueryPairs.parseQueryString_perm (List.Perm.swap _ _ _)

end SM.Utils
