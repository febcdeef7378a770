import SM.Utils.PackInt

/-!
# String stream

`basic_string_stream` with the strings it writes for JSON. The buffer grows before a write that
would not fit, so what is written always does; `written_writeStr` is the text of a string between
its quotes.
-/

namespace SM.Inc

open SM.Utils

/-- `INIT_BUFF_SIZE` -/
def initBuffSize : Nat := 1024

/-- The bytes up to `m_write_ptr`, in a buffer of `m_length` bytes. -/
structure StringStream where
  written : Bytes
  length : Nat
  fits : written.length ≤ length

namespace StringStream

def new : StringStream := ⟨[], initBuffSize, Nat.zero_le _⟩

/-- The size which `growpup` allocates. -/
def grownSize (wantSize : Nat) : Nat := (wantSize + initBuffSize - 1) / initBuffSize * initBuffSize

/-- The grown size has what is wanted. -/
theorem le_grownSize (wantSize : Nat) : wantSize ≤ grownSize wantSize := by
  simp only [grownSize, initBuffSize]
  omega

/-- The size of the buffer once as many bytes have room. -/
def roomFor (stream : StringStream) (writedLen : Nat) : Nat :=
  if stream.length < writedLen then grownSize writedLen else stream.length

/-- There is room for what is written. -/
theorem le_roomFor (stream : StringStream) (writedLen : Nat) :
    writedLen ≤ stream.roomFor writedLen := by
  rw [roomFor]
  split
  · exact le_grownSize writedLen
  · omega

def write (stream : StringStream) (buffer : Bytes) : StringStream where
  written := stream.written ++ buffer
  length := stream.roomFor (stream.written.length + buffer.length)
  fits := by
    rw [List.length_append]
    exact stream.le_roomFor _

def put (stream : StringStream) (c : UInt8) : StringStream where
  written := stream.written ++ [c]
  length := stream.roomFor (stream.written.length + 1)
  fits := by
    rw [List.length_append]
    exact stream.le_roomFor _

/-- A new stream has nothing written. -/
@[simp] theorem written_new : new.written = [] := rfl

/-- A write comes behind what is written. -/
@[simp] theorem written_write (stream : StringStream) (buffer : Bytes) :
    (stream.write buffer).written = stream.written ++ buffer := rfl

/-- A character comes behind what is written. -/
@[simp] theorem written_put (stream : StringStream) (c : UInt8) :
    (stream.put c).written = stream.written ++ [c] := rfl

/-! ## Strings -/

/-- `escape`: zero, or the character behind the backslash. -/
def escape (c : UInt8) : UInt8 :=
  if c = 0x08 then 0x62
  else if c = 0x09 then 0x74
  else if c = 0x0a then 0x6e
  else if c = 0x0c then 0x66
  else if c = 0x0d then 0x72
  else if c < 0x20 then 0x75
  else if c = 0x22 then 0x22
  else if c = 0x5c then 0x5c
  else 0

/-- `hex_table` -/
def hexTable (digit : UInt8) : UInt8 := if digit < 10 then 0x30 + digit else 0x41 + (digit - 10)

/-- The two hexadecimal digits of a byte. -/
def hexByte (c : UInt8) : Bytes := [hexTable (c >>> 4), hexTable (c &&& 0xf)]

/-- What is written for the bytes of a string. A control character without a letter of its own
takes the byte behind it into its escape. -/
def escapeText : Bytes → Bytes
  | [] => []
  | c :: rest =>
      if c = 0 then []
      else if escape c = 0 then c :: escapeText rest
      else if escape c = 0x75 then
        match rest with
        | [] => [0x5c, 0x75, 0x30, 0x30] ++ hexByte c
        | c1 :: rest => [0x5c, 0x75] ++ hexByte c ++ hexByte c1 ++ escapeText rest
      else [0x5c, escape c] ++ escapeText rest

/-- The loop of `write_str`. -/
def writeStrLoop (stream : StringStream) : Bytes → StringStream
  | [] => stream
  | c :: rest =>
      if c = 0 then stream
      else if escape c = 0 then writeStrLoop (stream.put c) rest
      else if escape c = 0x75 then
        match rest with
        | [] => stream.write ([0x5c, 0x75, 0x30, 0x30] ++ hexByte c)
        | c1 :: rest => writeStrLoop (stream.write ([0x5c, 0x75] ++ hexByte c ++ hexByte c1)) rest
      else writeStrLoop (stream.write [0x5c, escape c]) rest

def writeStr (stream : StringStream) (str : Bytes) : StringStream :=
  ((stream.put 0x22).writeStrLoop str).put 0x22

section

variable {c c1 : UInt8} {rest : Bytes}

/-- The text ends at a zero. -/
theorem escapeText_zero : escapeText (0 :: rest) = [] := by
  rw [escapeText.eq_def]
  rfl

/-- A plain character is written as it is. -/
theorem escapeText_plain (nonzero : c ≠ 0) (plain : escape c = 0) :
    escapeText (c :: rest) = c :: escapeText rest := by
  rw [escapeText.eq_def]
  simp only [nonzero, plain, if_false, if_true]

/-- A control character at the end is written with two zeros in front. -/
theorem escapeText_last (nonzero : c ≠ 0) (control : escape c = 0x75) :
    escapeText [c] = [0x5c, 0x75, 0x30, 0x30] ++ hexByte c := by
  rw [escapeText.eq_def]
  simp [nonzero, control]

/-- A control character is written together with the one behind it. -/
theorem escapeText_control (nonzero : c ≠ 0) (control : escape c = 0x75) :
    escapeText (c :: c1 :: rest) =
      [0x5c, 0x75] ++ hexByte c ++ hexByte c1 ++ escapeText rest := by
  rw [escapeText.eq_def]
  simp [nonzero, control]

/-- Every other special character is written behind a backslash. -/
theorem escapeText_short (nonzero : c ≠ 0) (special : escape c ≠ 0) (short : escape c ≠ 0x75) :
    escapeText (c :: rest) = [0x5c, escape c] ++ escapeText rest := by
  rw [escapeText.eq_def]
  simp only [nonzero, special, short, if_false]

end

/-- The loop writes the escaped text. -/
theorem written_writeStrLoop (stream : StringStream) (str : Bytes) :
    (stream.writeStrLoop str).written = stream.written ++ escapeText str := by
  fun_induction writeStrLoop stream str with
  | case1 => simp [escapeText]
  | case2 => simp [escapeText_zero]
  | case3 stream c rest nonzero plain inductionHypothesis =>
      rw [inductionHypothesis, escapeText_plain nonzero plain, written_put, List.append_assoc]
      rfl
  | case4 stream c nonzero special control =>
      rw [written_write, escapeText_last nonzero control]
  | case5 stream c nonzero special control c1 rest inductionHypothesis =>
      rw [inductionHypothesis, escapeText_control nonzero control, written_write,
        List.append_assoc]
  | case6 stream c rest nonzero special short inductionHypothesis =>
      rw [inductionHypothesis, escapeText_short nonzero special short, written_write,
        List.append_assoc]

/-- A string stands between its quotes. -/
@[simp] theorem written_writeStr (stream : StringStream) (str : Bytes) :
    (stream.writeStr str).written = stream.written ++ ([0x22] ++ escapeText str ++ [0x22]) := by
  simp [writeStr, written_writeStrLoop]

end StringStream
end SM.Inc
