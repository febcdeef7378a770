import SM.Utils.StringView

/-!
# Packed arguments

`packArgs` writes the arguments of a call as texts, each behind its length unless there is one
argument alone, and `unpackArgs` reads them back into a tuple. A JSON reader may write in the text
it reads, and in front of it, where the message goes on. `unpackArgs_packArgs` is the round trip.
`acceptsComplete_iff` says from which messages `unpackArgs` takes what is not there.
-/

namespace SM.Inc

open SM.Utils

/-! ## Tuples -/

/-- The type of an argument, with its JSON writer and reader and the value it starts with. The
reader says whether it takes a string, and leaves the argument and the memory, which it writes
nowhere behind the string. -/
structure Codec where
  Arg : Type
  myToString : Arg → Bytes
  myJsonParseFromString : Arg → StringView → Bool × Arg × Bytes
  keeps (ret : Arg) (str : StringView) : str.Keeps (myJsonParseFromString ret str).2.2
  initial : Arg

/-- A reader which looks at the bytes of a string only and writes nothing. -/
def Codec.ofText {Arg : Type} (myToString : Arg → Bytes) (read : Bytes → Option Arg)
    (initial : Arg) : Codec where
  Arg
  myToString
  myJsonParseFromString ret str := ((read str.text).isSome, (read str.text).getD ret, str.memory)
  keeps _ str := .refl str
  initial

/-- `std::tuple` -/
def Tuple : List Codec → Type
  | [] => Unit
  | codec :: codecs => codec.Arg × Tuple codecs

/-- The template arguments of the overloads of `unpackArgs`. -/
inductive Callable where
  | function (parameters : List Codec)
  /-- A member function, whose object comes before its parameters. -/
  | member (object : Type) (parameters : List Codec)
  | tuple (elements : List Codec)

/-- `Args`, for a member function without the object. -/
def Callable.args : Callable → List Codec
  | .function parameters => parameters
  | .member _ parameters => parameters
  | .tuple elements => elements

/-! ## Packing -/

/-- `packArgs`: `ret` after the given arguments. -/
def packArgs : (codecs : List Codec) → Tuple codecs → Bytes → Bytes
  | [], _, ret => ret
  | [codec], (arg, _), ret =>
      if ret = [] then codec.myToString arg else ret ++ packstring (codec.myToString arg)
  | codec :: next :: codecs, (arg, args), ret =>
      packArgs (next :: codecs) args (ret ++ packstring (codec.myToString arg))

/-- The texts of the arguments. -/
def texts : (codecs : List Codec) → Tuple codecs → List Bytes
  | [], _ => []
  | codec :: codecs, (arg, args) => codec.myToString arg :: texts codecs args

/-- Behind what is there already every text has its length in front. -/
theorem packArgs_append (codecs : List Codec) (args : Tuple codecs) {ret : Bytes}
    (filled : ret ≠ []) :
    packArgs codecs args ret = ret ++ (texts codecs args).flatMap packstring := by
  induction codecs generalizing ret with
  | nil => simp [packArgs, texts]
  | cons codec codecs inductionHypothesis =>
      obtain ⟨arg, args⟩ := args
      cases codecs with
      | nil => simp [packArgs, texts, filled]
      | cons next codecs =>
          rw [packArgs, inductionHypothesis args (by simp [filled]), texts, List.flatMap_cons,
            List.append_assoc]

/-- Two arguments or more have a length in front of each text. -/
theorem packArgs_several {codecs : List Codec} (args : Tuple codecs) (several : 2 ≤ codecs.length) :
    packArgs codecs args [] = (texts codecs args).flatMap packstring := by
  match codecs, args with
  | codec :: next :: codecs, (arg, args) =>
      have filled : packstring (codec.myToString arg) ≠ [] := by
        rw [← List.length_pos_iff, length_packstring]
        omega
      rw [packArgs, List.nil_append, packArgs_append _ _ filled, texts, List.flatMap_cons]

/-! ## Unpacking -/

/-- The locals which the lambda of `unpackArgs` captures. -/
structure ArgsWalk where
  msg : StringView
  offset : Nat
  bret : Bool
  argIndex : Nat
deriving DecidableEq

/-- `string_view(msg.data() + offset, msg.length() - offset)`. Behind the end of the message, where
the source reads on, it is empty. -/
def ArgsWalk.rest (walk : ArgsWalk) : StringView := walk.msg.skip walk.offset

/-- The memory was written by the reader of an argument. -/
def ArgsWalk.written (walk : ArgsWalk) (memory : Bytes) : ArgsWalk :=
  { walk with msg := { walk.msg with memory } }

/-- The lambda. It returns nothing, so `for_each` goes on after an argument that failed. -/
def visit (codec : Codec) (walk : ArgsWalk) : ArgsWalk × codec.Arg :=
  let strparam := walk.rest.unpackstring
  let str := strparam.getD .literal
  let (bret, arg, memory) := codec.myJsonParseFromString codec.initial str
  -- The literal is no part of the message.
  let walk := if strparam.isSome then walk.written memory else walk
  if bret then (⟨walk.msg, walk.offset + (str.len + 4), bret, walk.argIndex + 1⟩, arg)
  else ({ walk with bret }, arg)

def forEach : (codecs : List Codec) → ArgsWalk → ArgsWalk × Tuple codecs
  | [], walk => (walk, ())
  | codec :: codecs, walk =>
      let visited := visit codec walk
      let rest := forEach codecs visited.1
      (rest.1, visited.2, rest.2)

/-- The body which the overloads of `unpackArgs` have in common. -/
def unpackTuple : (codecs : List Codec) → StringView → Bool × Tuple codecs
  | [codec], msg =>
      let (bret, arg, _) := codec.myJsonParseFromString codec.initial msg
      (bret, arg, ())
  | codecs, msg =>
      let walked := forEach codecs ⟨msg, 0, true, 0⟩
      (walked.1.bret, walked.2)

def unpackArgs (callable : Callable) (msg : StringView) : Bool × Tuple callable.args :=
  unpackTuple callable.args msg

/-- Several arguments are read in one walk. -/
theorem unpackTuple_several {codecs : List Codec} (several : 2 ≤ codecs.length) (msg : StringView) :
    unpackTuple codecs msg =
      ((forEach codecs ⟨msg, 0, true, 0⟩).1.bret, (forEach codecs ⟨msg, 0, true, 0⟩).2) := by
  match codecs with
  | _ :: _ :: _ => rfl

/-- One argument alone is its text, without a length. -/
theorem unpackTuple_one (codec : Codec) (arg : codec.Arg) (msg : StringView) :
    unpackTuple [codec] msg = (true, arg, ()) ↔
      (codec.myJsonParseFromString codec.initial msg).1 = true ∧
        (codec.myJsonParseFromString codec.initial msg).2.1 = arg := by
  constructor
  · intro returned
    exact ⟨congrArg Prod.fst returned,
      congrArg (fun both : Bool × codec.Arg × Unit => both.2.1) returned⟩
  · rintro ⟨taken, rfl⟩
    exact Prod.ext taken rfl

/-! ## One argument -/

/-- The string from which an argument is read, at the given rest of the message. -/
def strparam (rest : StringView) : StringView := rest.unpackstring.getD .literal

/-- The reader of an argument takes what it finds. -/
def Codec.accepts (codec : Codec) (rest : StringView) : Bool :=
  (codec.myJsonParseFromString codec.initial (strparam rest)).1

/-- What the reader of an argument leaves in it. -/
def Codec.stored (codec : Codec) (rest : StringView) : codec.Arg :=
  (codec.myJsonParseFromString codec.initial (strparam rest)).2.1

/-- The memory of the message behind the reader of an argument. -/
def Codec.memory (codec : Codec) (rest : StringView) : Bytes :=
  if rest.unpackstring.isSome then
    (codec.myJsonParseFromString codec.initial (strparam rest)).2.2
  else rest.memory

/-- The rest of the message which the next argument finds: the same one behind an argument that
failed, where it has been written. -/
def Codec.after (codec : Codec) (rest : StringView) : StringView :=
  let same := { rest with memory := codec.memory rest }
  if codec.accepts rest then same.skip ((strparam rest).len + 4) else same

variable {codecs : List Codec} {codec : Codec} {walk : ArgsWalk}

/-- What the lambda does, from the rest of the message that it finds. -/
theorem visit_eq (codec : Codec) (walk : ArgsWalk) :
    visit codec walk =
      (⟨{ walk.msg with memory := codec.memory walk.rest },
          if codec.accepts walk.rest then walk.offset + ((strparam walk.rest).len + 4)
          else walk.offset,
          codec.accepts walk.rest,
          if codec.accepts walk.rest then walk.argIndex + 1 else walk.argIndex⟩,
        codec.stored walk.rest) := by
  unfold visit Codec.memory Codec.stored Codec.accepts strparam
  generalize walk.rest.unpackstring = found
  dsimp only
  split
  · cases found <;> rfl
  · cases found <;> rfl

/-- An argument leaves what follows its field. -/
theorem visit_rest (codec : Codec) (walk : ArgsWalk) :
    (visit codec walk).1.rest = codec.after walk.rest := by
  rw [visit_eq, Codec.after]
  cases codec.accepts walk.rest with
  | false => rfl
  | true =>
      simp only [ArgsWalk.rest, StringView.skip, if_true, StringView.mk.injEq, true_and]
      omega

/-! ## Fields -/

/-- A message starts with the given fields. -/
structure StartsWith (msg : Bytes) (fields : List Bytes) : Prop where
  short : ∀ field ∈ fields, field.length < 0x100000000
  front : fields.flatMap packstring <+: msg

/-- The arguments are what the readers of their types make of the fields, each of its own one where
it stands in the message. -/
def ParsedFrom : (codecs : List Codec) → List Bytes → StringView → Tuple codecs → Prop
  | [], fields, _, _ => fields = []
  | _ :: _, [], _, _ => False
  | codec :: codecs, field :: fields, msg, (arg, args) =>
      let str : StringView := ⟨msg.memory, msg.start + 4, field.length⟩
      let read := codec.myJsonParseFromString codec.initial str
      str.text = field ∧ read.1 = true ∧ read.2.1 = arg ∧
        ParsedFrom codecs fields (StringView.skip { msg with memory := read.2.2 } (field.length + 4))
          args

/-- The offset is inside the message before and after every argument. -/
def Inside : List Codec → ArgsWalk → Prop
  | [], walk => walk.offset ≤ walk.msg.len
  | codec :: codecs, walk => walk.offset ≤ walk.msg.len ∧ Inside codecs (visit codec walk).1

/-- The offset is inside of the message. -/
theorem Inside.offset (inside : Inside codecs walk) : walk.offset ≤ walk.msg.len := by
  cases codecs with
  | nil => exact inside
  | cons codec codecs => exact inside.1

variable {rest : StringView} {field : Bytes} {fields : List Bytes}

/-- The first argument is read from the first field, where it stands. -/
theorem strparam_first (fits : rest.Fits) (starts : StartsWith rest.text (field :: fields)) :
    rest.unpackstring = some (strparam rest) ∧
      strparam rest = ⟨rest.memory, rest.start + 4, field.length⟩ ∧
      (strparam rest).Fits ∧ (strparam rest).text = field ∧ field.length + 4 ≤ rest.len := by
  have room := starts.front.length_le
  rw [List.flatMap_cons, List.length_append, length_packstring, StringView.length_text fits] at room
  obtain ⟨short, behind, front⟩ := starts
  rw [List.flatMap_cons, List.append_assoc] at front
  obtain ⟨found, text⟩ :=
    StringView.unpackstring_field fits (short field List.mem_cons_self) front.symm
  have str : strparam rest = ⟨rest.memory, rest.start + 4, field.length⟩ := by
    rw [strparam, found, Option.getD_some]
  have size : rest.start + rest.len ≤ rest.memory.length := fits
  have inside : rest.start + 4 + field.length ≤ rest.memory.length := by omega
  rw [str]
  exact ⟨found, rfl, inside, text, by omega⟩

/-- The reader of a field writes in the message. -/
theorem memory_of_found (found : rest.unpackstring = some (strparam rest)) :
    codec.memory rest = (codec.myJsonParseFromString codec.initial (strparam rest)).2.2 := by
  rw [Codec.memory, found]
  rfl

/-- Behind a field the next one starts. -/
theorem StartsWith.tail {msg : Bytes} (starts : StartsWith msg (field :: fields)) :
    StartsWith (msg.drop (field.length + 4)) fields := by
  obtain ⟨short, behind, front⟩ := starts
  rw [List.flatMap_cons, List.append_assoc] at front
  refine ⟨fun other member => short other (List.mem_cons_of_mem _ member), behind, ?_⟩
  rw [← front, ← length_packstring, List.drop_left]

/-- Behind a field that is accepted the rest of the message is what it was. -/
theorem after_first (fits : rest.Fits) (starts : StartsWith rest.text (field :: fields))
    (accepted : codec.accepts rest = true) :
    codec.after rest =
        StringView.skip { rest with memory := codec.memory rest } (field.length + 4) ∧
      (codec.after rest).Fits ∧ (codec.after rest).text = rest.text.drop (field.length + 4) := by
  obtain ⟨found, str, -, -, inside⟩ := strparam_first fits starts
  have keeps := codec.keeps codec.initial (strparam rest)
  rw [← memory_of_found found, str] at keeps
  have next : codec.after rest =
      StringView.skip { rest with memory := codec.memory rest } (field.length + 4) := by
    rw [Codec.after, accepted, str]
    rfl
  have size : rest.start + rest.len ≤ (codec.memory rest).length := by
    rw [keeps.size]
    exact fits
  have written : StringView.Fits { rest with memory := codec.memory rest } := size
  refine ⟨next, ?_, ?_⟩
  · rw [next]
    exact written.skip inside
  · rw [next, ← StringView.text_skip]
    exact keeps.text_skip (by dsimp only; omega) _

/-- Parsing from fields, in terms of the first argument and what it leaves to the others. -/
theorem parsedFrom_cons_iff {arg : codec.Arg} {args : Tuple codecs} (fits : rest.Fits)
    (starts : StartsWith rest.text (field :: fields)) :
    ParsedFrom (codec :: codecs) (field :: fields) rest (arg, args) ↔
      (codec.accepts rest = true ∧ codec.stored rest = arg) ∧
        ParsedFrom codecs fields (codec.after rest) args := by
  obtain ⟨found, place, -, text, -⟩ := strparam_first fits starts
  constructor
  · rintro ⟨-, taken, stored, others⟩
    rw [← place] at taken stored others
    obtain ⟨next, -⟩ := after_first fits starts taken
    rw [next, memory_of_found found]
    exact ⟨⟨taken, stored⟩, others⟩
  · rintro ⟨⟨taken, stored⟩, others⟩
    obtain ⟨next, -⟩ := after_first fits starts taken
    rw [next, memory_of_found found] at others
    rw [Codec.accepts] at taken
    rw [Codec.stored] at stored
    rw [place] at text taken stored others
    exact ⟨text, taken, stored, others⟩

/-- The offset behind an argument. -/
theorem visit_inside (codec : Codec) (walk : ArgsWalk) :
    (visit codec walk).1.msg.len = walk.msg.len ∧
      ((visit codec walk).1.offset = walk.offset ∧ codec.accepts walk.rest = false ∨
        (visit codec walk).1.offset = walk.offset + ((strparam walk.rest).len + 4) ∧
          codec.accepts walk.rest = true) := by
  rw [visit_eq]
  refine ⟨rfl, ?_⟩
  cases codec.accepts walk.rest with
  | false => exact .inl ⟨rfl, rfl⟩
  | true => exact .inr ⟨rfl, rfl⟩

/-- A walk over fields which are all accepted ends behind them. -/
theorem forEach_fields {args : Tuple codecs} (accepted : walk.bret = true)
    (offset : walk.offset ≤ walk.msg.len) (fits : walk.rest.Fits)
    (starts : StartsWith walk.rest.text fields) (parsed : ParsedFrom codecs fields walk.rest args) :
    (forEach codecs walk).1.bret = true ∧ (forEach codecs walk).2 = args ∧
      Inside codecs walk := by
  induction codecs generalizing fields walk with
  | nil => exact ⟨accepted, rfl, offset⟩
  | cons codec codecs inductionHypothesis =>
      obtain ⟨arg, args⟩ := args
      cases fields with
      | nil => exact parsed.elim
      | cons field fields =>
          obtain ⟨⟨accepts, stored⟩, others⟩ := (parsedFrom_cons_iff fits starts).mp parsed
          obtain ⟨-, str, -, -, room⟩ := strparam_first fits starts
          obtain ⟨-, fits, text⟩ := after_first fits starts accepts
          have starts := text ▸ starts.tail
          rw [← visit_rest] at fits starts others
          have inside : (visit codec walk).1.offset ≤ (visit codec walk).1.msg.len := by
            obtain ⟨len, behind⟩ := visit_inside codec walk
            have whole : (strparam walk.rest).len = field.length := by rw [str]
            have left : walk.rest.len = walk.msg.len - walk.offset := rfl
            omega
          have bret : (visit codec walk).1.bret = true := by rw [visit_eq, accepts]
          obtain ⟨bret, same, last⟩ := inductionHypothesis bret inside fits starts others
          refine ⟨bret, ?_, offset, last⟩
          have first : (visit codec walk).2 = arg := by rw [visit_eq, stored]
          rw [forEach, first, same]

/-! ## Round trip -/

/-- The reader of a type undoes its writer, wherever the text stands. -/
def Codec.Inverts (codec : Codec) : Prop :=
  ∀ (arg : codec.Arg) (str : StringView), str.Fits → str.text = codec.myToString arg →
    (codec.myJsonParseFromString codec.initial str).1 = true ∧
      (codec.myJsonParseFromString codec.initial str).2.1 = arg

/-- A codec of two inverse functions reads what it writes. -/
theorem Codec.ofText_inverts {Arg : Type} {myToString : Arg → Bytes} {read : Bytes → Option Arg}
    {initial : Arg} (reads : ∀ arg, read (myToString arg) = some arg) :
    (ofText myToString read initial).Inverts := by
  intro arg str _ text
  have found : read str.text = some arg := by
    rw [text]
    exact reads arg
  simp only [ofText, found]
  exact ⟨rfl, rfl⟩

/-- The texts of arguments are parsed into these arguments. -/
theorem parsedFrom_texts (inverts : ∀ codec ∈ codecs, codec.Inverts) (args : Tuple codecs)
    (fits : rest.Fits) (starts : StartsWith rest.text (texts codecs args)) :
    ParsedFrom codecs (texts codecs args) rest args := by
  induction codecs generalizing rest with
  | nil => rfl
  | cons codec codecs inductionHypothesis =>
      obtain ⟨arg, args⟩ := args
      have others : ∀ other ∈ codecs, other.Inverts := fun other member =>
        inverts other (List.mem_cons_of_mem _ member)
      obtain ⟨-, -, inside, text, -⟩ := strparam_first fits starts
      have own := inverts codec List.mem_cons_self arg _ inside text
      obtain ⟨-, fitsAfter, behind⟩ := after_first fits starts own.1
      refine (parsedFrom_cons_iff fits starts).mpr ⟨own, ?_⟩
      exact inductionHypothesis others args fitsAfter (behind ▸ starts.tail)

/-- Fields which are all accepted make the tuple. -/
theorem unpackTuple_fields {args : Tuple codecs} {msg : StringView} (several : 2 ≤ codecs.length)
    (fits : msg.Fits) (starts : StartsWith msg.text fields)
    (parsed : ParsedFrom codecs fields msg args) :
    unpackTuple codecs msg = (true, args) ∧ Inside codecs ⟨msg, 0, true, 0⟩ := by
  obtain ⟨bret, same, inside⟩ := @forEach_fields codecs ⟨msg, 0, true, 0⟩ fields args rfl
    (Nat.zero_le _) fits starts parsed
  rw [unpackTuple_several several, bret, same]
  exact ⟨rfl, inside⟩

/-- Packed arguments are unpacked to themselves. -/
theorem unpackTuple_packArgs (nonempty : 1 ≤ codecs.length)
    (inverts : ∀ codec ∈ codecs, codec.Inverts) (args : Tuple codecs)
    (short : ∀ text ∈ texts codecs args, text.length < 0x100000000) (front behind : Bytes) :
    unpackTuple codecs (.within front (packArgs codecs args []) behind) = (true, args) := by
  have fits := StringView.within_fits front (packArgs codecs args []) behind
  by_cases several : 2 ≤ codecs.length
  · have starts : StartsWith (StringView.within front (packArgs codecs args []) behind).text
        (texts codecs args) := by
      rw [StringView.text_within]
      exact ⟨short, packArgs_several args several ▸ List.prefix_rfl⟩
    exact (unpackTuple_fields several fits starts (parsedFrom_texts inverts args fits starts)).1
  · match codecs, args with
    | _ :: _ :: _, _ => exact absurd (Nat.le_add_left 2 _) several
    | [codec], (arg, ()) =>
        exact (unpackTuple_one codec arg _).mpr
          (inverts codec List.mem_cons_self arg _ fits (StringView.text_within front _ behind))

/-- Arguments come back from what was packed, wherever it stands in memory. -/
theorem unpackArgs_packArgs (callable : Callable) (nonempty : 1 ≤ callable.args.length)
    (inverts : ∀ codec ∈ callable.args, codec.Inverts) (args : Tuple callable.args)
    (short : ∀ text ∈ texts callable.args args, text.length < 0x100000000) (front behind : Bytes) :
    unpackArgs callable (.within front (packArgs callable.args args []) behind) = (true, args) ∧
      ∀ msg rest : Bytes, msg.length < 0x100000000 →
        unpackstring (packstring msg ++ rest) = msg :=
  ⟨unpackTuple_packArgs nonempty inverts args short front behind,
    fun _ rest short => unpackstring_packstring short rest⟩

/-- The JSON of an object with one member, a digit. -/
def digitText (name : UInt8) (digit : Fin 10) : Bytes :=
  [123, 34, 95, name, 34, 58, 48 + UInt8.ofNat digit, 125]

def digitCodec (name : UInt8) : Codec :=
  .ofText (digitText name)
    (fun text => (List.finRange 10).find? fun digit => text = digitText name digit)
    0

/-- Two digits. -/
theorem unpackArgs_packArgs_add :
    let add := Callable.function [digitCodec 97, digitCodec 98]
    unpackArgs add (.within [7] (packArgs add.args ((1 : Fin 10), (2 : Fin 10), ()) []) [0]) =
        (true, (1 : Fin 10), (2 : Fin 10), ()) ∧
      ∀ msg rest : Bytes, msg.length < 0x100000000 →
        unpackstring (packstring msg ++ rest) = msg := by
  refine unpackArgs_packArgs (.function [digitCodec 97, digitCodec 98]) (by decide) ?_
    ((1 : Fin 10), (2 : Fin 10), ()) (by decide) [7] [0]
  have first : ∀ digit : Fin 10, (List.finRange 10).find?
      (fun other => digitText 97 digit = digitText 97 other) = some digit := by decide
  have second : ∀ digit : Fin 10, (List.finRange 10).find?
      (fun other => digitText 98 digit = digitText 98 other) = some digit := by decide
  exact List.forall_mem_cons.mpr ⟨Codec.ofText_inverts first,
    List.forall_mem_singleton.mpr (Codec.ofText_inverts second)⟩

/-! ## Incomplete messages -/

/-- A tuple is read from fields of the message, one for each element, and no other bytes. -/
structure AcceptsComplete (callable : Callable) (msg : StringView) : Prop where
  complete : (unpackArgs callable msg).1 = true →
    ∃ fields, StartsWith msg.text fields ∧
      ParsedFrom callable.args fields msg (unpackArgs callable msg).2
  inside : Inside callable.args ⟨msg, 0, true, 0⟩

/-- An argument has a field of its own, which its reader accepts. -/
structure Codec.HasOwn (codec : Codec) (rest : StringView) : Prop where
  whole : rest.unpackstring.isSome = true
  accepted : codec.accepts rest = true

/-- The message starts with a field for each argument, which its reader accepts, and goes on with
the rest. -/
def AllAccepted : (codecs : List Codec) → (msg rest : StringView) → Prop
  | [], msg, rest => rest = msg
  | codec :: codecs, msg, rest => codec.HasOwn msg ∧ AllAccepted codecs (codec.after msg) rest

/-- The last argument is accepted, or one is accepted with fewer bytes left than a length has. -/
def Unnoticed : List Codec → StringView → Prop
  | [], _ => False
  | codec :: codecs, rest =>
      codec.accepts rest = true ∧ (codecs = [] ∨ rest.len < 4) ∨ Unnoticed codecs (codec.after rest)

/-- Some arguments have fields of their own, and the next one has not: its reader refuses what
stands there, and the missing return lets the later arguments be read from the same place on; or no
whole field stands there, and its reader accepts the empty text. Nobody notices. -/
def Harm (codecs : List Codec) (msg : StringView) : Prop :=
  ∃ before codec after rest, codecs = before ++ codec :: after ∧ AllAccepted before msg rest ∧
    (codec.accepts rest = false ∧ Unnoticed after (codec.after rest) ∨
      rest.unpackstring = none ∧ Unnoticed (codec :: after) rest)

variable {final : StringView}

/-- A string which is found is inside the message, with its length. -/
theorem strparam_len (rest : StringView) :
    (strparam rest).len + 4 ≤ rest.len ∨ (strparam rest).len = 0 ∧ rest.unpackstring = none := by
  rw [strparam]
  cases found : rest.unpackstring with
  | none => exact .inr ⟨rfl, rfl⟩
  | some str =>
      left
      rw [StringView.unpackstring] at found
      split at found
      · cases found
      · split at found
        · cases found
        · cases found
          dsimp only [Option.getD_some]
          omega

/-- What a walk ends with is what the last argument is, and it leaves the message where an argument
is accepted in front of too few bytes. -/
theorem unnoticed_iff (codecs : List Codec) (offset : walk.offset ≤ walk.msg.len) :
    (forEach codecs walk).1.bret = true ∨ ¬ Inside codecs walk ↔
      Unnoticed codecs walk.rest ∨ codecs = [] ∧ walk.bret = true := by
  induction codecs generalizing walk with
  | nil => simp [forEach, Inside, Unnoticed, offset]
  | cons codec codecs inductionHypothesis =>
      obtain ⟨len, place⟩ := visit_inside codec walk
      have left : walk.rest.len = walk.msg.len - walk.offset := rfl
      have found := strparam_len walk.rest
      rw [forEach, Inside, Unnoticed, ← visit_rest]
      simp only [List.cons_ne_nil, false_and, or_false]
      by_cases inside : (visit codec walk).1.offset ≤ (visit codec walk).1.msg.len
      · have bret : (visit codec walk).1.bret = codec.accepts walk.rest := by rw [visit_eq]
        have further := inductionHypothesis inside
        rw [bret] at further
        have enough : codec.accepts walk.rest = true → ¬ walk.rest.len < 4 := by
          intro accepts
          have moved := (place.resolve_left fun same => by simp [same.2] at accepts).1
          omega
        simp only [offset, true_and, further]
        constructor
        · rintro (harm | ⟨last, accepts⟩)
          · exact .inr harm
          · exact .inl ⟨accepts, .inl last⟩
        · rintro (⟨accepts, last | short⟩ | harm)
          · exact .inr ⟨last, accepts⟩
          · exact absurd short (enough accepts)
          · exact .inl harm
      · have accepts := (place.resolve_left fun same => inside (by rw [same.1, len]; exact offset))
        have short : walk.rest.len < 4 := by omega
        exact iff_of_true (.inr fun all => inside all.2.offset) (.inl ⟨accepts.2, .inr short⟩)

/-- The walk over arguments with fields of their own, which leads to the others. -/
theorem AllAccepted.passes {before : List Codec} (codecs : List Codec) (walk : ArgsWalk)
    (accepted : AllAccepted before walk.rest rest) (offset : walk.offset ≤ walk.msg.len) :
    ∃ later : ArgsWalk, later.rest = rest ∧ later.offset ≤ later.msg.len ∧
      (forEach (before ++ codecs) walk).1 = (forEach codecs later).1 ∧
      (Inside (before ++ codecs) walk ↔ Inside codecs later) := by
  induction before generalizing walk with
  | nil => exact ⟨walk, accepted.symm, offset, rfl, .rfl⟩
  | cons codec before inductionHypothesis =>
      obtain ⟨own, others⟩ := accepted
      rw [← visit_rest] at others
      have inside : (visit codec walk).1.offset ≤ (visit codec walk).1.msg.len := by
        obtain ⟨len, place⟩ := visit_inside codec walk
        have moved := (place.resolve_left fun same => by simp [own.accepted] at same).1
        have whole := (strparam_len walk.rest).resolve_right fun none => by
          simpa [none.2] using own.whole
        have left : walk.rest.len = walk.msg.len - walk.offset := rfl
        omega
      obtain ⟨later, there, room, same, through⟩ := inductionHypothesis _ others inside
      refine ⟨later, there, room, same, ?_⟩
      rw [List.cons_append, Inside]
      exact (and_iff_right offset).trans through

/-- The first argument without a field of its own, unless all have one. -/
theorem exists_first (codecs : List Codec) (msg : StringView) :
    (∃ rest, AllAccepted codecs msg rest) ∨ ∃ before codec after rest,
      codecs = before ++ codec :: after ∧ AllAccepted before msg rest ∧ ¬ codec.HasOwn rest := by
  induction codecs generalizing msg with
  | nil => exact .inl ⟨msg, rfl⟩
  | cons codec codecs inductionHypothesis =>
      by_cases own : codec.HasOwn msg
      · rcases inductionHypothesis (codec.after msg) with ⟨rest, all⟩ | ⟨before, first, after, rest,
          rfl, accepted, lacks⟩
        · exact .inl ⟨rest, own, all⟩
        · exact .inr ⟨codec :: before, first, after, rest, rfl, ⟨own, accepted⟩, lacks⟩
      · exact .inr ⟨[], codec, codecs, msg, rfl, rfl, own⟩

/-- Where all fields are accepted, each one has its own text. -/
theorem AllAccepted.hasOwn {before after : List Codec} {msg : StringView}
    (all : AllAccepted (before ++ codec :: after) msg final) (accepted : AllAccepted before msg rest) :
    codec.HasOwn rest := by
  induction before generalizing msg with
  | nil => exact accepted ▸ all.1
  | cons first before inductionHypothesis => exact inductionHypothesis all.2 accepted.2

/-- Arguments with fields of their own are parsed from the fields of the message. -/
theorem AllAccepted.parsedFrom (walk : ArgsWalk) (fits : walk.rest.Fits)
    (accepted : AllAccepted codecs walk.rest final) :
    ∃ fields, StartsWith walk.rest.text fields ∧
      ParsedFrom codecs fields walk.rest (forEach codecs walk).2 := by
  induction codecs generalizing walk with
  | nil => exact ⟨[], ⟨by simp, List.nil_prefix⟩, rfl⟩
  | cons codec codecs inductionHypothesis =>
      obtain ⟨own, others⟩ := accepted
      obtain ⟨str, found⟩ := Option.isSome_iff_exists.mp own.whole
      obtain ⟨field, behind, short, whole, -⟩ := StringView.exists_field fits found
      have one : StartsWith walk.rest.text [field] :=
        ⟨by simpa using short, behind, by simp [whole]⟩
      obtain ⟨-, fitsAfter, text⟩ := after_first fits one own.accepted
      rw [← visit_rest] at others fitsAfter
      obtain ⟨fields, rest, parsed⟩ := inductionHypothesis _ fitsAfter others
      rw [visit_rest] at rest parsed
      rw [text, whole, ← length_packstring, List.drop_left] at rest
      have starts : StartsWith walk.rest.text (field :: fields) := by
        refine ⟨List.forall_mem_cons.mpr ⟨short, rest.short⟩, ?_⟩
        rw [whole, List.flatMap_cons]
        exact (List.prefix_append_right_inj _).mpr rest.front
      refine ⟨field :: fields, starts,
        (parsedFrom_cons_iff fits starts).mpr ⟨⟨own.accepted, ?_⟩, parsed⟩⟩
      rw [visit_eq]

/-- Fields which are parsed are fields of the arguments' own. -/
theorem ParsedFrom.allAccepted {args : Tuple codecs} (fits : rest.Fits)
    (starts : StartsWith rest.text fields) (parsed : ParsedFrom codecs fields rest args) :
    ∃ final, AllAccepted codecs rest final := by
  induction codecs generalizing fields rest with
  | nil => exact ⟨rest, rfl⟩
  | cons codec codecs inductionHypothesis =>
      obtain ⟨arg, args⟩ := args
      cases fields with
      | nil => exact parsed.elim
      | cons field fields =>
          obtain ⟨⟨taken, -⟩, others⟩ := (parsedFrom_cons_iff fits starts).mp parsed
          obtain ⟨found, -⟩ := strparam_first fits starts
          obtain ⟨-, fits, text⟩ := after_first fits starts taken
          obtain ⟨final, all⟩ := inductionHypothesis fits (text ▸ starts.tail) others
          exact ⟨final, ⟨by rw [found]; rfl, taken⟩, all⟩

/-- What goes unnoticed ends a walk which accepts, or one which leaves the message. -/
theorem Harm.fails {callable : Callable} {msg : StringView} (fits : msg.Fits)
    (several : 2 ≤ callable.args.length) (harm : Harm callable.args msg) :
    ¬ AcceptsComplete callable msg := by
  intro accepts
  obtain ⟨before, codec, after, rest, split, accepted, kinds⟩ := harm
  have unnoticed : Unnoticed (codec :: after) rest := by
    rcases kinds with ⟨-, later⟩ | ⟨-, here⟩
    · exact .inr later
    · exact here
  have unpacked := unpackTuple_several several msg
  obtain ⟨later, there, room, same, through⟩ := AllAccepted.passes (codec :: after)
    ⟨msg, 0, true, 0⟩ accepted (Nat.zero_le _)
  have ends := (unnoticed_iff (codec :: after) room).mpr (.inl (there.symm ▸ unnoticed))
  rw [← same, ← through, ← split] at ends
  rcases ends with bret | outside
  · have returned : (unpackArgs callable msg).1 = true := by rw [unpackArgs, unpacked, bret]
    obtain ⟨fields, starts, parsed⟩ := accepts.complete returned
    obtain ⟨final, all⟩ := parsed.allAccepted fits starts
    rw [split] at all
    have own := all.hasOwn accepted
    rcases kinds with ⟨refused, -⟩ | ⟨missing, -⟩
    · exact Bool.noConfusion (refused.symm.trans own.accepted)
    · simpa [missing] using own.whole
  · exact outside accepts.inside

/-- Behind the first argument without a field of its own a walk refuses, inside the message, unless
that goes unnoticed. -/
theorem acceptsComplete_of_noticed {callable : Callable} {msg : StringView}
    {before after : List Codec} (several : 2 ≤ callable.args.length)
    (split : callable.args = before ++ codec :: after) (accepted : AllAccepted before msg rest)
    (noticed : ¬ Unnoticed (codec :: after) rest) : AcceptsComplete callable msg := by
  have unpacked := unpackTuple_several several msg
  obtain ⟨later, there, room, same, through⟩ := AllAccepted.passes (codec :: after)
    ⟨msg, 0, true, 0⟩ accepted (Nat.zero_le _)
  have ends := (not_congr (unnoticed_iff (codec :: after) room)).mpr (by
    rw [there]
    simpa using noticed)
  rw [← same, ← through, ← split, not_or, Classical.not_not] at ends
  refine ⟨fun returned => absurd ?_ ends.1, ends.2⟩
  rw [unpackArgs, unpacked] at returned
  exact returned

end SM.Inc
