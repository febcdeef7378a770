import SM.Inc.JsonFront
import SM.Inc.JsonTokens

/-!
# Records as JSON

`to_json` writes the members of a record one behind the other and `from_json0` reads them in any
order. Both go through the reflection of the record, a list of its members. A reader which is not at
its end after the given turns of a loop gives nothing; the source has no such bound.
-/

namespace SM.Inc

open SM.Utils

namespace Reader

/-! ## Values -/

/-- What `strtoll` and `strtoull` find: a sign and digits behind blanks. -/
def strtolParts (str : Bytes) : Bool × Nat :=
  let str := str.dropWhile fun c => isBlank c || c == 0x0b || c == 0x0c
  let neg := str.head? == some 0x2d
  let digits := if neg || str.head? == some 0x2b then str.tail else str
  (neg, (digits.takeWhile isDigit).foldl (fun number c => number * 10 + (c - 0x30).toNat) 0)

/-- `strtoll`, which stays inside its type. -/
def strtoll (str : Bytes) : Int64 :=
  let (neg, number) := strtolParts str
  if neg then if 0x8000000000000000 ≤ number then Int64.minValue else -Int64.ofNat number
  else if 0x7fffffffffffffff ≤ number then Int64.maxValue else Int64.ofNat number

/-- `strtoull`, which takes a negative number modulo 2^64. -/
def strtoull (str : Bytes) : UInt64 :=
  let (neg, number) := strtolParts str
  if 0xffffffffffffffff < number then 0xffffffffffffffff
  else if neg then -UInt64.ofNat number else UInt64.ofNat number

/-- The memory from the token on, where a function of the C library reads. -/
def fromToken (reader : Reader) : Bytes := reader.memory.drop reader.token.str

/-- `check_result` -/
def checkResult (reader : Reader) (zero : Bool) : Reader :=
  if reader.first = 0x6e then reader
  else if zero ∧ reader.first ≠ 0x30 then reader.fail
  else reader

/-- `read_json` of an `int`, before its last `next`. -/
def readInt (reader : Reader) (val : Int32) : Int32 × Reader :=
  let signed (val : Int32) : Int32 := if reader.token.neg then -val else val
  match reader.token.type with
  | .string =>
      let val := (strtoll reader.fromToken).toInt32
      (val, reader.checkResult (val == 0))
  | .int => (signed reader.token.bits.toInt64.toInt32, reader)
  | .uint => (reader.token.bits.toInt64.toInt32, reader)
  | .number => (signed reader.token.d64.toInt32, reader)
  | .ctrl | .end' => (val, reader.fail)

/-- `read_json` of an `uint64_t`, before its last `next`. The sign of an integer is in `neg` and is
not looked at. -/
def readUInt64 (reader : Reader) (val : UInt64) : UInt64 × Reader :=
  match reader.token.type with
  | .string =>
      let val := strtoull reader.fromToken
      (val, reader.checkResult (val == 0))
  | .int => (reader.token.bits, if reader.token.bits.toInt64 < 0 then reader.fail else reader)
  | .uint => (reader.token.bits, reader)
  | .number => (reader.token.d64.toUInt64, if reader.token.d64 < 0 then reader.fail else reader)
  | .ctrl | .end' => (val, reader.fail)

/-- `read_json` of a string, before its last `next`. -/
def readString (reader : Reader) (val : Bytes) : Bytes × Reader :=
  if reader.token.type = .string then (reader.text, reader) else (val, reader.fail)

/-- `read_json` of a value which is one token. -/
def scalar {α : Type} (read : Reader → α → α × Reader) (reader : Reader) (val : α) :
    Option (α × Reader) :=
  some ((read reader val).1, (read reader val).2.next)

/-- The loop of `read_json` for a container whose elements start out as `element`. -/
def sequenceLoop {α : Type} (readJson : Reader → α → Option (α × Reader)) (element : α) :
    Nat → Reader → List α → Option (List α × Reader)
  | 0, _, _ => none
  | turns + 1, reader, val =>
      if reader.first = 0x5d ∧ reader.token.type ≠ .end' then some (val, reader)
      else
        match readJson reader element with
        | none => none
        | some (back, reader) =>
            let val := val ++ [back]
            if reader.first = 0x2c then sequenceLoop readJson element turns reader.next val
            else if reader.first = 0x5d then some (val, reader)
            else some (val, reader.fail)

/-- `read_json` of a container. -/
def readSequence {α : Type} (readJson : Reader → α → Option (α × Reader)) (element : α)
    (turns : Nat) (reader : Reader) (val : List α) : Option (List α × Reader) :=
  if reader.expect 0x5b then
    (sequenceLoop readJson element turns reader.next val).map fun (val, reader) =>
      (val, reader.next)
  else some (val, reader.fail)

/-- What closes a value in a text which was written. -/
def isClosing (c : UInt8) : Bool := c == 0x2c || c == 0x5d || c == 0x7d

/-- The value is read and the token behind it is the given character; without a value there is an
error, if the reader comes to an end. -/
def Comes {α : Type} (reader : Reader) (c : UInt8) (rest : Bytes)
    (result : Option (α × Reader)) : Option α → Prop
  | some value => ∃ after, result = some (value, after) ∧ after.Stands .ctrl [c] rest ∧
      after.error = reader.error
  | none => ∀ value after, result = some (value, after) → after.error = true

/-- Reading comes to an end in as many turns, and more turns make no difference. -/
def Returns {α : Type} (reader : Reader) (turns : Nat) (read : Nat → Option (α × Reader)) : Prop :=
  ∃ value after, (∀ other, turns ≤ other → read other = some (value, after)) ∧ after.Settled ∧
    after.pending ≤ reader.pending

end Reader

/-- `render_json_value` and `read_json` of a type, with the text of a value and what comes back
from it. A value is read into one which is there already. -/
class JsonValue (α : Type) where
  renderJsonValue : StringStream → α → StringStream
  readJson : Nat → Reader → α → Option (α × Reader)
  text : α → Bytes
  decoded : α → Option α
  /-- The value after reading the second one into the first one. -/
  assign : α → α → α
  /-- The strings which are written for a value. -/
  strings : α → List Bytes
  written_render (stream : StringStream) (value : α) :
    (renderJsonValue stream value).written = stream.written ++ text value
  readJson_text {turns : Nat} {reader : Reader} {c : UInt8} {rest : Bytes} (old value : α)
    (enough : (text value).length < turns) (closing : Reader.isClosing c = true)
    (stands : reader.At (text value ++ c :: rest)) :
    reader.Comes c rest (readJson turns reader.next old) ((decoded value).map (assign old))
  readJson_error {turns : Nat} {reader after : Reader} {old value : α}
    (read : readJson turns reader old = some (value, after)) (error : reader.error = true) :
    after.error = true
  readJson_advances {turns : Nat} {reader after : Reader} {old value : α}
    (read : readJson turns reader old = some (value, after)) (live : reader.Live) :
    reader.Advances after
  readJson_returns {turns : Nat} {reader : Reader} (old : α) (settled : reader.Settled)
    (enough : reader.pending < turns) :
    reader.Returns turns fun turns => readJson turns reader old
  text_clean (value : α) : 0 ∉ text value
  decoded_eq_self_iff (value : α) :
    decoded value = some value ↔ ∀ str ∈ strings value, Reader.Plain str

/-! ## Reflection -/

/-- A member of a record, under its name. -/
structure Member (T : Type) where
  name : Bytes
  Value : Type
  [json : JsonValue Value]
  get : T → Value
  set : Value → T → T

attribute [instance] Member.json

/-- Neither of two members is changed with the other. -/
def Member.Apart {T : Type} (first second : Member T) : Prop :=
  (∀ value t, second.get (first.set value t) = second.get t) ∧
    ∀ value t, first.get (second.set value t) = first.get t

/-- A name which stands in a text as it is, and is no single character. -/
def PlainName (name : Bytes) : Prop :=
  2 ≤ name.length ∧ ∀ c ∈ name, c ≠ 0 ∧ StringStream.escape c = 0

instance (name : Bytes) : Decidable (PlainName name) :=
  letI : Decidable (∀ c ∈ name, c ≠ 0 ∧ StringStream.escape c = 0) := List.decidableBAll _ _
  inferInstanceAs (Decidable (2 ≤ name.length ∧ _))

/-- `REFLECTION`: the members of a record, in their order, and the record as it is constructed. -/
class Reflection (T : Type) where
  initial : T
  members : List (Member T)
  members_ne_nil : members ≠ []
  names_plain : ∀ member ∈ members, PlainName member.name
  names_nodup : (members.map Member.name).Nodup
  get_set : ∀ member ∈ members, ∀ value t, member.get (member.set value t) = value
  apart : members.Pairwise Member.Apart
  rebuild : ∀ t start, members.foldl (fun built member => member.set (member.get t) built) start = t
  /-- Reading a member of a new record stores what was read. -/
  blank : ∀ member ∈ members, ∀ value,
    JsonValue.assign (member.get initial) value = value
  initial_plain : ∀ member ∈ members, ∀ str ∈ JsonValue.strings (member.get initial),
    Reader.Plain str

section

variable {T : Type}

/-- The members from the given ones on, with a comma behind each but the last. -/
def membersToJson (stream : StringStream) (t : T) : List (Member T) → StringStream
  | [] => stream
  | member :: members =>
      let stream := (((stream.put 0x22).write member.name).put 0x22).put 0x3a
      let stream := JsonValue.renderJsonValue stream (member.get t)
      membersToJson (if members = [] then stream else stream.put 0x2c) t members

/-- `to_json` -/
def toJson [Reflection T] (stream : StringStream) (t : T) : StringStream :=
  (membersToJson (stream.put 0x7b) t (Reflection.members (T := T))).put 0x7d

variable [Reflection T]

/-- The number of members. -/
abbrev size (T : Type) [Reflection T] : Nat := (Reflection.members (T := T)).length

/-- `get_index` and `tuple_switch`: the member of a name. -/
def findMember (T : Type) [Reflection T] (name : Bytes) : Option (Member T) :=
  (Reflection.members (T := T)).find? fun member => member.name == name

/-- The token which `do_read0` looks at: the next one, until all members are read. -/
def nameToken (T : Type) [Reflection T] (loopIdx : Nat) (reader : Reader) : Reader :=
  if loopIdx = size T then reader else reader.next

/-- The loop of `do_read0`. A token which names no member ends it, unless it is a string or a
number: then its value, taken for one token, is passed over. -/
def doRead0Loop (bound : Nat) : Nat → Nat → Reader → T → Option (T × Reader)
  | 0, _, _, _ => none
  | turns + 1, loopIdx, reader, t =>
      if reader.token.type = .end' then some (t, reader)
      else
        let reader := nameToken T loopIdx reader
        match findMember T reader.text with
        | none =>
            if reader.token.type = .end' ∨ reader.token.type = .ctrl then some (t, reader)
            else doRead0Loop bound turns loopIdx reader.next.next.next t
        | some member =>
            match JsonValue.readJson bound reader.next.next (member.get t) with
            | none => none
            | some (value, reader) =>
                doRead0Loop bound turns (loopIdx + 1) reader (member.set value t)

/-- `do_read0` -/
def doRead0 (turns : Nat) (reader : Reader) (t : T) : Option (T × Reader) :=
  doRead0Loop turns turns 0 reader t

/-- `read_json` of a record, in any order. -/
def readRecord (turns : Nat) (reader : Reader) (t : T) : Option (T × Reader) :=
  (doRead0 turns reader t).map fun (t, reader) => (t, reader.next)

/-- `from_json0`, for a text of the given length with what stands in memory in front of it and
behind it: what it returns, the record, and the memory it leaves. -/
def fromJson0 (turns : Nat) (front memory : Bytes) (len : Nat) (token : Token)
    (outside : UInt8 → UInt8) (t : T) : Option (Bool × T × Bytes × Bytes) :=
  (doRead0 turns (Reader.new front memory len token outside) t).map fun (t, reader) =>
    (!reader.error, t, reader.front.reverse, reader.memory)

def myToString (t : T) : Bytes := (toJson StringStream.new t).written

end

end SM.Inc
