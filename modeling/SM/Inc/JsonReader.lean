import SM.Utils.PackInt

/-!
# JSON tokens

`reader_t` takes a JSON text apart into tokens. It works on the text itself: a quoted string is
unescaped where it stands, and a token is a place in the text. A loop of the source is a function
with a number of turns, which is given by the number of characters left.
-/

namespace SM.Inc

open SM.Utils

/-- The types of `token`. -/
inductive TokenType where
  | string
  | int
  | uint
  | number
  | ctrl
  | end'
deriving DecidableEq

/-- A token: a place in the text, and its number. -/
structure Token where
  type : TokenType
  /-- Where `str.str` points to, from `ptr_` on. -/
  str : Nat
  len : Nat
  /-- `value.i64` and `value.u64`, which share their bits. -/
  bits : UInt64
  d64 : Float
  neg : Bool

structure Reader where
  /-- What stands in memory in front of `ptr_`, from there back. -/
  front : Bytes
  /-- What stands in memory from `ptr_` on: the text and what is behind it. -/
  memory : Bytes
  /-- `len_` -/
  len : Nat
  /-- `cur_offset_` -/
  offset : Nat
  /-- `end_mark_` -/
  endMark : Bool
  /-- `cur_tok_` -/
  token : Token
  /-- `g_has_error` -/
  error : Bool
  decimal : Float
  /-- What `table[v]` reads for a character which is negative. -/
  outside : UInt8 → UInt8

namespace Reader

/-- A byte of the memory; what is not known of it is zero. -/
def byte (reader : Reader) (index : Nat) : UInt8 := reader.memory.getD index 0

/-- The text of the token. -/
def text (reader : Reader) : Bytes := (reader.memory.drop reader.token.str).take reader.token.len

/-- `str.str[0]` of the token. -/
def first (reader : Reader) : UInt8 := reader.byte reader.token.str

def expect (reader : Reader) (c : UInt8) : Bool := reader.first == c

def fail (reader : Reader) : Reader := { reader with error := true }

def read (reader : Reader) : UInt8 := if reader.endMark then 0 else reader.byte reader.offset

/-- `take`, without the numbers of line and column. -/
def take (reader : Reader) : Reader :=
  if reader.endMark then reader
  else
    let offset := reader.offset + 1
    { reader with
      offset
      endMark := decide (0 < reader.len ∧ reader.len ≤ offset) || reader.byte offset == 0 }

/-- How many characters are left. -/
def left (reader : Reader) : Nat := reader.len - reader.offset

def isBlank (c : UInt8) : Bool := c == 0x20 || c == 0x09 || c == 0x0d || c == 0x0a

/-- `skip` -/
def skip (reader : Reader) : Reader :=
  loop (reader.left + 1) reader
where
  loop : Nat → Reader → Reader
    | 0, reader => reader
    | turns + 1, reader => if isBlank reader.read then loop turns reader.take else reader

/-! ## Strings -/

/-- `fill_escape_char`, which does not look where the text begins. -/
def fillEscapeChar (reader : Reader) (count : Nat) (c : UInt8) : Reader :=
  if count = 0 then reader
  else if count ≤ reader.offset then
    { reader with memory := reader.memory.set (reader.offset - count) c }
  else { reader with front := reader.front.set (count - reader.offset - 1) c }

/-- `table` -/
def table (v : UInt8) : UInt8 :=
  if 0x30 ≤ v ∧ v ≤ 0x39 then v - 0x30
  else if 0x41 ≤ v ∧ v ≤ 0x46 then v - 0x41 + 10
  else if 0x61 ≤ v ∧ v ≤ 0x66 then v - 0x61 + 10
  else if v = 0x09 ∨ v = 0x0a ∨ v = 0x0c ∨ v = 0x0d ∨ v = 0x20 then 17
  else 16

/-- `char_to_hex`, where a character is signed; it does not know the letter `f`. -/
def charToHex (reader : Reader) (v : UInt8) : UInt8 × Reader :=
  let v := if 0x80 ≤ v then reader.outside v else if v < 0x66 then table v else 16
  (v, if 15 < v.toInt8 then reader.fail else reader)

/-- A `char` as an `uint64_t`. -/
def charToU64 (v : UInt8) : UInt64 := v.toInt8.toInt64.toUInt64

/-- One digit of `read_utf`. -/
def readHex (reader : Reader) : UInt64 × Reader :=
  let (v, reader) := reader.charToHex reader.read
  (charToU64 v, reader.take)

def readUtf (reader : Reader) : UInt64 × Reader :=
  let (v, reader) := reader.readHex
  let utf := v <<< 4
  let (v, reader) := reader.readHex
  let utf := (utf + v) <<< 4
  let (v, reader) := reader.readHex
  let utf := (utf + v) <<< 4
  let (v, reader) := reader.readHex
  (utf + v, reader)

/-- A byte of a code, under the mark of its place. -/
def utf8Byte (mark : UInt64) (utf1 shift mask : UInt64) : UInt8 :=
  (mark ||| ((utf1 >>> shift) &&& mask)).toUInt8

/-- The bytes which `esacpe_utf8` writes for a code, in their order. -/
def utf8 (utf1 : UInt64) : Bytes :=
  if utf1 < 0x80 then [utf1.toUInt8]
  else if utf1 < 0x800 then [utf8Byte 0xC0 utf1 6 0xFF, utf8Byte 0x80 utf1 0 0x3F]
  else if utf1 < 0x80000 then
    [utf8Byte 0xE0 utf1 12 0xFF, utf8Byte 0x80 utf1 6 0x3F, utf8Byte 0x80 utf1 0 0x3F]
  else
    [utf8Byte 0xF0 utf1 18 0xFF, utf8Byte 0x80 utf1 12 0x3F, utf8Byte 0x80 utf1 6 0x3F,
      utf8Byte 0x80 utf1 0 0x3F]

/-- `fill_escape_char` for some bytes, each one place behind the one before. -/
def fillAll (reader : Reader) (count : Nat) : Bytes → Reader
  | [] => reader
  | c :: rest => (reader.fillEscapeChar count c).fillAll (count - 1) rest

/-- `esacpe_utf8`: the count of the characters which an escape has saved, and the reader. -/
def escapeUtf8 (reader : Reader) (escCount : Nat) : Nat × Reader :=
  let (utf1, reader) := reader.readUtf
  let escCount := escCount + 6
  let reader := if 0x80000 ≤ utf1 ∧ utf1 < 0x110000 then reader.fail else reader
  (escCount - (utf8 utf1).length, reader.fillAll escCount (utf8 utf1))

/-- The character which a letter behind a backslash stands for. -/
def unescape (c : UInt8) : Option UInt8 :=
  if c = 0x62 then some 0x08
  else if c = 0x66 then some 0x0c
  else if c = 0x6e then some 0x0a
  else if c = 0x72 then some 0x0d
  else if c = 0x74 then some 0x09
  else none

/-- The end of a string, whose length is counted without what its escapes have saved. -/
def endString (reader : Reader) (escCount : Nat) : Reader :=
  { reader with token := { reader.token with len := reader.offset - escCount - reader.token.str } }

/-- The loop of `parser_quote_string`. -/
def quoteLoop : Nat → Reader → Nat → UInt8 → Reader
  | 0, reader, _, _ => reader
  | turns + 1, reader, escCount, c =>
      if c = 0 ∨ c = 0x0a then reader.fail
      else if c = 0x5c then
        let reader := reader.take
        let c := reader.read
        if c = 0x75 then
          let (escCount, reader) := reader.take.escapeUtf8 escCount
          quoteLoop turns reader escCount reader.read
        else
          match if c = 0x2f ∨ c = 0x22 then some c else unescape c with
          | none => reader.fail
          | some c =>
              let reader := (reader.fillEscapeChar (escCount + 1) c).take
              quoteLoop turns reader (escCount + 1) reader.read
      else if c = 0x22 then (reader.endString escCount).take
      else
        let reader := (reader.fillEscapeChar escCount c).take
        quoteLoop turns reader escCount reader.read

/-- The token starts at the character which is read next. -/
def startToken (reader : Reader) (type : TokenType) : Reader :=
  { reader with token := { reader.token with type, str := reader.offset } }

def parserQuoteString (reader : Reader) : Reader :=
  let reader := reader.take.startToken .string
  quoteLoop (reader.left + 1) reader 0 reader.read

/-- What ends a string without quotes. -/
def isStop (c : UInt8) : Bool :=
  isBlank c || c == 0x2c || c == 0x5b || c == 0x5d || c == 0x3a || c == 0x7b || c == 0x7d

/-- The loop of `parser_string`. Behind `\u` the letter is taken once more, for `c` is not read
again. -/
def stringLoop : Nat → Reader → Nat → UInt8 → Reader
  | 0, reader, _, _ => reader
  | turns + 1, reader, escCount, c =>
      if c = 0 then reader.fail
      else if c = 0x5c then
        let reader := reader.take
        let c := reader.read
        if c = 0x75 then
          let (escCount, reader) := reader.take.escapeUtf8 escCount
          stringLoop turns reader escCount c
        else
          let reader := if unescape c = none then reader.fail else reader
          let reader := (reader.fillEscapeChar (escCount + 1) ((unescape c).getD c)).take
          stringLoop turns reader (escCount + 1) reader.read
      else if isStop c then reader.endString escCount
      else
        let reader := (reader.fillEscapeChar escCount c).take
        stringLoop turns reader escCount reader.read

def parserString (reader : Reader) : Reader :=
  let reader := (reader.startToken .string).take
  stringLoop (2 * reader.left + 1) reader 0 reader.read

/-! ## Numbers -/

def isDigit (c : UInt8) : Bool := decide (0x30 ≤ c ∧ c ≤ 0x39)

/-- A digit of a number. -/
def digit (reader : Reader) (c : UInt8) : Reader :=
  let value := UInt64.ofNat (c - 0x30).toNat
  match reader.token.type with
  | .int | .uint =>
      { reader with token := { reader.token with bits := reader.token.bits * 10 + value } }
  | .number =>
      { reader with
        token := { reader.token with
          d64 := reader.token.d64 + reader.decimal * Float.ofNat (c - 0x30).toNat }
        decimal := reader.decimal * 0.1 }
  | _ => reader

/-- The point of a number. -/
def point (reader : Reader) : Reader :=
  let start (d64 : Float) := { reader with
    token := { reader.token with type := .number, d64 }, decimal := 0.1 }
  match reader.token.type with
  | .int => start reader.token.bits.toInt64.toFloat
  | .uint => start reader.token.bits.toFloat
  | .number => reader.fail
  | _ => reader

/-- The loop of `parser_number`. -/
def numberLoop : Nat → Reader → UInt8 → Reader
  | 0, reader, _ => reader
  | turns + 1, reader, c =>
      if isDigit c then
        let reader := (reader.digit c).take
        numberLoop turns reader reader.read
      else if c = 0x2e then
        let reader := reader.point.take
        numberLoop turns reader reader.read
      else reader.endString 0

/-- `parser_number`, for a number whose first character has given its type. -/
def parserNumber (reader : Reader) (type : TokenType) (bits : UInt64) (neg : Bool) : Reader :=
  let reader := reader.startToken type
  let reader := { reader with token := { reader.token with bits, neg } }.take
  numberLoop (reader.left + 1) reader reader.read

/-! ## Comments -/

/-- The rest of a line. -/
def lineLoop : Nat → Reader → Reader
  | 0, reader => reader
  | turns + 1, reader =>
      if reader.read ≠ 0x0a ∧ reader.read ≠ 0 then lineLoop turns reader.take else reader

/-- The loops behind the opening of a block comment: the reader behind the slash which closes
it, or none at the end of the text. -/
def blockLoop : Nat → Reader → Reader × Bool
  | 0, reader => (reader, false)
  | turns + 1, reader =>
      if reader.read = 0x2a then
        let reader := reader.take
        if reader.read = 0x2f then (reader.take, true) else blockLoop turns reader
      else if reader.read = 0 then (reader, false)
      else blockLoop turns reader.take

/-- A token of one character. -/
def single (reader : Reader) (type : TokenType) : Reader :=
  let reader := reader.startToken type
  { reader with token := { reader.token with len := 1 } }

def isCtrl (c : UInt8) : Bool :=
  c == 0x7b || c == 0x7d || c == 0x5b || c == 0x5d || c == 0x3a || c == 0x2c

/-- The reader as `next` finds it behind `skip`. -/
def cleared (reader : Reader) : Reader :=
  { reader with token := { reader.token with neg := false } }

/-- The cases of `next`, which calls itself behind a comment. A block comment is an error even when
it is closed, and is followed by what stands behind it, read as a quoted string. -/
def nextToken (reader : Reader) (c : UInt8) (again : Reader → Reader) : Reader :=
  if c = 0 then reader.single .end'
  else if isCtrl c then (reader.single .ctrl).take
  else if c = 0x2f then
    let reader := reader.take
    let c := reader.read
    if c = 0x2f then again (lineLoop (reader.left + 1) reader.take)
    else if c = 0x2a then
      match blockLoop (reader.left + 1) reader.take with
      | (reader, false) => reader
      | (reader, true) => again reader.fail.parserQuoteString
    else reader.fail.parserQuoteString
  else if c = 0x22 then reader.parserQuoteString
  else if isDigit c then reader.parserNumber .uint (UInt64.ofNat (c - 0x30).toNat) false
  else if c = 0x2d then reader.parserNumber .int 0 true
  else reader.parserString

def nextLoop : Nat → Reader → Reader
  | 0, reader => reader
  | turns + 1, reader => reader.skip.cleared.nextToken reader.skip.cleared.read (nextLoop turns)

def next (reader : Reader) : Reader := nextLoop (reader.left + 1) reader

/-- The members of the constructor, for a text with what stands in memory in front of it and behind
it. The first token starts out indeterminate. -/
def start (front memory : Bytes) (len : Nat) (token : Token) (outside : UInt8 → UInt8) :
    Reader where
  front := front.reverse
  memory
  len
  offset := 0
  endMark := decide (len = 0) || memory.getD 0 0 == 0
  token
  error := false
  decimal := 0.1
  outside

/-- The constructor. -/
def new (front memory : Bytes) (len : Nat) (token : Token) (outside : UInt8 → UInt8) : Reader :=
  next (start front memory len token outside)

end Reader
end SM.Inc
