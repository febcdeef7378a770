import SM.Inc.JsonRoundTrip
import SM.Inc.TemplateFuncs

/-!
# Records as arguments

`packArgs` and `unpackArgs` for arguments which are records, through their JSON texts. The reader
stores what it reads in the argument even when it fails, so `unpackArgs` may return the arguments of
a call though one was refused. Each comes from its own text if and only if their strings are plain.
-/

namespace SM.Inc

open SM.Utils Reader

/-! ## Readers -/

/-- A record as the type of an argument, with the token of the reader and the memory outside its
table, which the code leaves open. -/
structure RecordType where
  T : Type
  [reflection : Reflection T]
  token : Token
  outside : UInt8 → UInt8

attribute [instance] RecordType.reflection

/-- `my_json_parse_from_string`, which leaves in the argument what was read when it fails. A string
on which it does not return is taken for one that is refused. -/
def RecordType.read (type : RecordType) (ret : type.T) (str : StringView) : Bool × type.T × Bytes :=
  match fromJson0 (str.len + 1) (str.memory.take str.start) (str.memory.drop str.start) str.len
    type.token type.outside ret with
  | some (ok, t, before, after) => (ok, t, before ++ after)
  | none => (false, ret, str.memory)

/-- Reading a record keeps the memory around its text. -/
theorem RecordType.read_keeps (type : RecordType) (ret : type.T) (str : StringView) :
    str.Keeps (type.read ret str).2.2 := by
  unfold read
  split
  · rename_i ok t before after result
    obtain ⟨width, size, behind⟩ := fromJson0_keeps result
    have halves := congrArg List.length (List.take_append_drop str.start str.memory)
    rw [List.length_append, ← width, ← size] at halves
    refine ⟨by rw [List.length_append, halves], ?_⟩
    rw [List.length_take] at width
    dsimp only
    rcases Nat.le_total str.start str.memory.length with inside | beyond
    · have start : before.length = str.start := by omega
      rw [← start, ← List.drop_drop, List.drop_left, behind, start, List.drop_drop]
    · have short : (before ++ after).length ≤ str.start + str.len := by
        rw [List.length_append]
        omega
      rw [List.drop_eq_nil_of_le short, List.drop_eq_nil_of_le (by omega)]
  · exact .refl str

/-- `my_to_string` and `my_json_parse_from_string` of a record. -/
def RecordType.codec (type : RecordType) : Codec where
  Arg := type.T
  myToString := myToString
  myJsonParseFromString := type.read
  keeps := type.read_keeps
  initial := Reflection.initial

/-- The text of a record is read back if and only if its strings are plain. -/
theorem RecordType.read_text_iff (type : RecordType) {str : StringView} (fits : str.Fits) (t : type.T)
    (text : str.text = myToString t) :
    (type.read Reflection.initial str).1 = true ∧ (type.read Reflection.initial str).2.1 = t ↔
      ∀ str ∈ recordStrings t, Plain str := by
  have len : str.len = (myToString t).length := by rw [← text, StringView.length_text fits]
  have memory : str.memory.drop str.start =
      myToString t ++ str.memory.drop (str.start + str.len) := by
    rw [← text, StringView.text, ← List.drop_drop, List.take_append_drop]
  have back := @doRead0_back_iff type.T _ (str.memory.take str.start)
    (str.memory.drop (str.start + (myToString t).length)) type.token type.outside _ t
    (Nat.lt_succ_self _)
  refine Iff.trans ?_ back
  unfold read
  rw [memory, len]
  simp only [fromJson0, Reader.new]
  cases doRead0 ((myToString t).length + 1) _ (Reflection.initial : type.T) with
  | none => simp
  | some result =>
      obtain ⟨value, after⟩ := result
      simp only [Option.map_some, Option.some.injEq, Prod.mk.injEq, Bool.not_eq_true']
      constructor
      · rintro ⟨fine, rfl⟩
        exact ⟨after, ⟨rfl, rfl⟩, fine⟩
      · rintro ⟨other, ⟨rfl, rfl⟩, fine⟩
        exact ⟨fine, rfl⟩

/-- A record is read from its own text, wherever it stands, if and only if its strings are plain. -/
theorem RecordType.codec_text_iff (type : RecordType) {str : StringView} (fits : str.Fits)
    (t : type.codec.Arg) (text : str.text = type.codec.myToString t) :
    (type.codec.myJsonParseFromString type.codec.initial str).1 = true ∧
        (type.codec.myJsonParseFromString type.codec.initial str).2.1 = t ↔
      ∀ str ∈ recordStrings (T := type.T) t, Plain str :=
  type.read_text_iff fits t text

/-! ## Calls -/

/-- The strings of all arguments. -/
def argStrings : (types : List RecordType) → Tuple (types.map RecordType.codec) → List Bytes
  | [], _ => []
  | type :: types, (arg, args) => recordStrings (T := type.T) arg ++ argStrings types args

/-- The arguments come from the fields which are their texts. -/
theorem parsedFrom_texts_iff (types : List RecordType) (args : Tuple (types.map RecordType.codec))
    {rest : StringView} (fits : rest.Fits)
    (starts : StartsWith rest.text (texts (types.map RecordType.codec) args)) :
    ParsedFrom (types.map RecordType.codec) (texts (types.map RecordType.codec) args) rest args ↔
      ∀ str ∈ argStrings types args, Plain str := by
  induction types generalizing rest with
  | nil => exact iff_of_true rfl fun _ none => absurd none List.not_mem_nil
  | cons type types inductionHypothesis =>
      obtain ⟨arg, args⟩ : type.codec.Arg × Tuple (types.map RecordType.codec) := args
      obtain ⟨-, -, inside, text, -⟩ := strparam_first fits starts
      have own : type.codec.accepts rest = true ∧ type.codec.stored rest = arg ↔
          ∀ str ∈ recordStrings (T := type.T) arg, Plain str := type.codec_text_iff inside arg text
      refine ((parsedFrom_cons_iff fits starts).trans ?_).trans List.forall_mem_append.symm
      rw [← own]
      refine and_congr_right fun accepted => ?_
      obtain ⟨-, fitsAfter, behind⟩ := after_first fits starts accepted.1
      exact inductionHypothesis args fitsAfter (behind ▸ starts.tail)

/-- The arguments of a call are returned as they were sent and, if there are several, each was read
from its own text. -/
structure Arrives (codecs : List Codec) (args : Tuple codecs) (front behind : Bytes) : Prop where
  returned : unpackArgs (.function codecs) (.within front (packArgs codecs args []) behind) =
    (true, args)
  parsed : 2 ≤ codecs.length → ParsedFrom codecs (texts codecs args)
    (.within front (packArgs codecs args []) behind) args

/-- One argument alone is its text. -/
theorem arrives_one (type : RecordType) (arg : type.codec.Arg) (front behind : Bytes) :
    Arrives [type.codec] (arg, ()) front behind ↔
      ∀ str ∈ recordStrings (T := type.T) arg, Plain str := by
  have fits := StringView.within_fits front (type.codec.myToString arg) behind
  refine Iff.trans ?_ (type.codec_text_iff fits arg (StringView.text_within front _ behind))
  refine Iff.trans ?_ (unpackTuple_one type.codec arg _)
  exact ⟨Arrives.returned, fun returned => ⟨returned, fun more => absurd more (by simp)⟩⟩

/-- The arguments of a call arrive as they were if and only if no string of theirs has a zero, a
backslash, or a control character without a letter of its own before its last character. -/
theorem arguments_arrive_iff (types : List RecordType)
    (args : Tuple (types.map RecordType.codec))
    (short : ∀ text ∈ texts (types.map RecordType.codec) args, text.length < 0x100000000)
    (front behind : Bytes) :
    Arrives (types.map RecordType.codec) args front behind ↔
      ∀ str ∈ argStrings types args, Plain str := by
  have fits := StringView.within_fits front (packArgs (types.map RecordType.codec) args []) behind
  by_cases several : 2 ≤ (types.map RecordType.codec).length
  · have starts : StartsWith (StringView.within front
        (packArgs (types.map RecordType.codec) args []) behind).text
        (texts (types.map RecordType.codec) args) := by
      rw [StringView.text_within]
      exact ⟨short, packArgs_several args several ▸ List.prefix_rfl⟩
    rw [← parsedFrom_texts_iff types args fits starts]
    exact ⟨fun arrives => arrives.parsed several,
      fun parsed => ⟨(unpackTuple_fields several fits starts parsed).1, fun _ => parsed⟩⟩
  · obtain _ | ⟨type, _ | ⟨other, types⟩⟩ := types
    · exact iff_of_true ⟨rfl, fun more => absurd more several⟩
        fun _ none => absurd none List.not_mem_nil
    · obtain ⟨arg, ⟨⟩⟩ : type.codec.Arg × Unit := args
      have strings : argStrings [type] ((arg, ()) : type.codec.Arg × Unit) =
          recordStrings (T := type.T) arg := List.append_nil _
      rw [strings]
      exact arrives_one type arg front behind
    · exact absurd (Nat.le_add_left 2 _) several

/-- A reader whose token starts out as a control character. -/
def plainType (T : Type) [Reflection T] : RecordType where
  T
  token := ⟨.ctrl, 0, 0, 0, 0, false⟩
  outside := id

/-- Two arguments, the second one with a backslash. -/
theorem arguments_arrive_two :
    let types : List RecordType := [plainType GetSysAdminReq, plainType RegistRep]
    let args : Tuple (types.map RecordType.codec) :=
      ((⟨[65], [49, 50], []⟩ : GetSysAdminReq), (⟨0, [65, 0x5c], []⟩ : RegistRep), ())
    Arrives (types.map RecordType.codec) args [] [0] ↔ ∀ str ∈ argStrings types args, Plain str :=
  arguments_arrive_iff [plainType GetSysAdminReq, plainType RegistRep] _ (by decide) [] [0]

/-- The first argument is refused when it is stored, and the second one is read from its text. -/
example :
    let types : List RecordType := [plainType RegistRep, plainType AddSysAdminRep]
    let args : Tuple (types.map RecordType.codec) :=
      ((⟨20000, [65], [0x5c]⟩ : RegistRep), (⟨20000⟩ : AddSysAdminRep), ())
    unpackArgs (.function (types.map RecordType.codec))
      (.within [] (packArgs (types.map RecordType.codec) args []) [0]) = (true, args) := by
  rfl

end SM.Inc
