import SM.Inc.Json
import SM.Inc.ReqReps

/-!
# Values as JSON

Integers, enumerations and strings. Integers come back as they were; a string does if and only if it
is `Plain`.
-/

namespace SM.Inc

open SM.Utils

namespace Reader

variable {α : Type} {read : Reader → α → α × Reader} {reader : Reader} {c : UInt8} {rest : Bytes}

/-- What closes a value is a token of its own. -/
theorem isCtrl_of_isClosing (closing : isClosing c = true) : isCtrl c = true := by
  simp only [isClosing, Bool.or_eq_true, beq_iff_eq] at closing
  rcases closing with (rfl | rfl) | rfl <;> rfl

/-- What closes a value ends a number. -/
theorem EndsNumber.of_isClosing (closing : isClosing c = true) : EndsNumber (c :: rest) := by
  intro last found
  obtain rfl : last = c := by simpa using found.symm
  simp only [isClosing, Bool.or_eq_true, beq_iff_eq] at closing
  rcases closing with (rfl | rfl) | rfl <;> decide

/-- A token was read as a value. -/
theorem scalar_comes {old value : α} (ahead : reader.next.At (c :: rest))
    (error : reader.next.error = reader.error) (closing : isClosing c = true)
    (found : read reader.next old = (value, reader.next)) :
    reader.Comes c rest (scalar read reader.next old) (some value) := by
  obtain ⟨stands, same⟩ := next_ctrl ahead (isCtrl_of_isClosing closing)
  exact ⟨reader.next.next, by rw [scalar, found], stands, same.trans error⟩

/-- Reading the value of a token does no more to the reader than to note an error. -/
def OnlyFails (read : Reader → α → α × Reader) : Prop :=
  ∀ reader old, (read reader old).2 = reader ∨ (read reader old).2 = reader.fail

/-- Reading a scalar forgets no error. -/
theorem OnlyFails.error (onlyFails : OnlyFails read) {after : Reader} {old value : α}
    (result : scalar read reader old = some (value, after)) (error : reader.error = true) :
    after.error = true := by
  rw [scalar, Option.some.injEq, Prod.mk.injEq] at result
  rw [← result.2]
  apply next_error
  rcases onlyFails reader old with same | failed
  · rw [same, error]
  · rw [failed]
    rfl

/-- An error leaves a reader settled. -/
theorem Settled.fail (settled : reader.Settled) : reader.fail.Settled :=
  ⟨(fail_advances settled.live).live, settled.quiet, settled.stopped⟩

/-- Reading a scalar only goes forward. -/
theorem OnlyFails.advances (onlyFails : OnlyFails read) {after : Reader} {old value : α}
    (result : scalar read reader old = some (value, after)) (live : reader.Live) :
    reader.Advances after := by
  rw [scalar, Option.some.injEq, Prod.mk.injEq] at result
  rw [← result.2]
  have stays : reader.Advances (read reader old).2 := by
    rcases onlyFails reader old with same | failed
    · rw [same]
      exact .refl live
    · rw [failed]
      exact fail_advances live
  exact stays.trans (next_advances stays.live)

/-- Reading a scalar returns on any text. -/
theorem OnlyFails.returns (onlyFails : OnlyFails read) (settled : reader.Settled) (turns : Nat)
    (old : α) : reader.Returns turns fun _ => scalar read reader old := by
  refine ⟨_, _, fun _ _ => rfl, ?_⟩
  rcases onlyFails reader old with same | failed
  · rw [same]
    exact ⟨settled.next, settled.next_pending_le⟩
  · rw [failed]
    exact ⟨settled.fail.next, settled.fail.next_pending_le⟩

/-! ## Integers -/

/-- The check of a number does nothing but fail. -/
theorem checkResult_onlyFails (reader : Reader) (zero : Bool) :
    reader.checkResult zero = reader ∨ reader.checkResult zero = reader.fail := by
  rw [checkResult]
  split
  · exact .inl rfl
  · split
    · exact .inr rfl
    · exact .inl rfl

/-- Reading an int moves the reader by no more than an error. -/
theorem readInt_onlyFails : OnlyFails readInt := by
  intro reader old
  rw [readInt]
  dsimp only
  split
  · exact checkResult_onlyFails _ _
  · exact .inl rfl
  · exact .inl rfl
  · exact .inl rfl
  · exact .inr rfl
  · exact .inr rfl

/-- Reading an uint64_t moves the reader by no more than an error. -/
theorem readUInt64_onlyFails : OnlyFails readUInt64 := by
  intro reader old
  rw [readUInt64]
  split
  · exact checkResult_onlyFails _ _
  · dsimp only
    split
    · exact .inr rfl
    · exact .inl rfl
  · exact .inl rfl
  · dsimp only
    split
    · exact .inr rfl
    · exact .inl rfl
  · exact .inr rfl
  · exact .inr rfl

/-- Reading a string moves the reader by no more than an error. -/
theorem readString_onlyFails : OnlyFails readString := by
  intro reader old
  rw [readString]
  split
  · exact .inl rfl
  · exact .inr rfl

/-- An integer as it was written. -/
theorem readInt_comes (old value : Int32) (closing : isClosing c = true)
    (stands : reader.At (decimalInt value.toInt ++ c :: rest)) :
    reader.Comes c rest (scalar readInt reader.next old) (some value) := by
  by_cases negative : value.toInt < 0
  · rw [decimalInt, if_pos negative, List.append_assoc] at stands
    have counts := next_negative value.toInt.natAbs stands (.of_isClosing closing)
    refine scalar_comes counts.ahead counts.error_eq closing ?_
    rw [readInt, counts.type_eq, counts.bits_eq, counts.neg_eq]
    have magnitude : -Int32.ofNat value.toInt.natAbs = value := by
      rw [← Int32.ofInt_eq_ofNat, ← Int32.ofInt_neg, Int.ofNat_natAbs_of_nonpos (by omega), Int.neg_neg,
        Int32.ofInt_toInt]
    simp [magnitude]
  · rw [decimalInt, if_neg negative, List.nil_append] at stands
    have counts := next_number value.toInt.natAbs stands (.of_isClosing closing)
    refine scalar_comes counts.ahead counts.error_eq closing ?_
    rw [readInt, counts.type_eq, counts.bits_eq]
    have magnitude : Int32.ofNat value.toInt.natAbs = value := by
      rw [← Int32.ofInt_eq_ofNat, Int.natAbs_of_nonneg (by omega), Int32.ofInt_toInt]
    simp [magnitude]

/-- A printed uint64_t is read back. -/
theorem readUInt64_comes (old value : UInt64) (closing : isClosing c = true)
    (stands : reader.At (Inc.decimal value.toNat ++ c :: rest)) :
    reader.Comes c rest (scalar readUInt64 reader.next old) (some value) := by
  have counts := next_number value.toNat stands (.of_isClosing closing)
  refine scalar_comes counts.ahead counts.error_eq closing ?_
  rw [readUInt64, counts.type_eq, counts.bits_eq]
  simp

/-! ## Strings -/

/-- A printed string is read as what it reads back to. -/
theorem readString_comes (old value : Bytes) (closing : isClosing c = true)
    (stands : reader.At ([0x22] ++ StringStream.escapeText value ++ [0x22] ++ c :: rest)) :
    reader.Comes c rest (scalar readString reader.next old) (readBack value) := by
  have quoted : reader.At (0x22 :: (StringStream.escapeText value ++ 0x22 :: (c :: rest))) := by
    simpa using stands
  have reads := next_string value quoted
  cases found : readBack value with
  | none =>
      rw [found] at reads
      intro val after result
      exact readString_onlyFails.error result reads
  | some out =>
      rw [found] at reads
      obtain ⟨string, error⟩ := reads
      refine scalar_comes string.ahead error closing ?_
      rw [readString, if_pos string.type_eq, string.text_eq]

/-- The code of a control character and another one does not start with the character. -/
theorem utf8_code_head {c1 : UInt8} (nonzero : c ≠ 0) (small : c.toNat < 0x20) (rest more : Bytes) :
    utf8 (code c c1) ++ more ≠ c :: rest := by
  have positive : 0 < c.toNat := Nat.pos_of_ne_zero fun zero => nonzero (UInt8.toNat_inj.mp zero)
  have mark_le (mark utf1 shift mask : UInt64) :
      mark.toUInt8.toNat ≤ (utf8Byte mark utf1 shift mask).toNat := by
    rw [utf8Byte, UInt64.toUInt8_or, UInt8.toNat_or]
    exact Nat.left_le_or
  have large : 0x80 ≤ (code c c1).toNat := by
    have bound := c.toNat_lt
    have bound1 := c1.toNat_lt
    have power : (256 : UInt64).toNat = 256 := rfl
    rw [code, UInt64.toNat_add, UInt64.toNat_mul, UInt8.toNat_toUInt64, UInt8.toNat_toUInt64, power]
    omega
  have notAscii : ¬ code c c1 < 0x80 := fun less => by
    have below : (code c c1).toNat < 0x80 := less
    omega
  have short : code c c1 < 0x80000 := by
    have below := code_lt c c1
    rw [UInt64.lt_iff_toNat_lt]
    exact Nat.lt_trans below (by decide)
  intro same
  rw [utf8, if_neg notAscii, if_pos short] at same
  split at same
  · have head : utf8Byte 0xC0 (code c c1) 6 0xFF = c := by
      simpa using congrArg List.head? same
    have least := mark_le 0xC0 (code c c1) 6 0xFF
    rw [head] at least
    exact absurd (Nat.le_trans (by decide : 0x20 ≤ (0xC0 : UInt64).toUInt8.toNat) least) (by omega)
  · have head : utf8Byte 0xE0 (code c c1) 12 0xFF = c := by
      simpa using congrArg List.head? same
    have least := mark_le 0xE0 (code c c1) 12 0xFF
    rw [head] at least
    exact absurd (Nat.le_trans (by decide : 0x20 ≤ (0xE0 : UInt64).toUInt8.toNat) least) (by omega)

/-- A character which needs no code leaves a string as plain as what follows it. -/
theorem plain_cons_iff (nonzero : c ≠ 0) (readable : c ≠ 0x5c)
    (other : StringStream.escape c ≠ 0x75) : Plain (c :: rest) ↔ Plain rest := by
  cases rest with
  | nil => simp [Plain, nonzero, readable]
  | cons d rest => simp [Plain, nonzero, readable, other]

/-- The strings which come back. -/
theorem readBack_eq_self_iff (str : Bytes) : readBack str = some str ↔ Plain str := by
  induction str using readBack.induct with
  | case1 => simp [readBack, Plain]
  | case2 str => simp [readBack_zero, Plain]
  | case3 str => simp [readBack_backslash, Plain]
  | case4 c nonzero readable control =>
      simp [readBack_last nonzero readable control, Plain, nonzero, readable]
  | case5 c nonzero readable control c1 str =>
      rw [readBack_control nonzero readable control]
      constructor
      · intro same
        obtain ⟨more, -, joined⟩ := Option.map_eq_some_iff.mp same
        exact absurd joined (utf8_code_head nonzero (small_of_escape control) _ _)
      · rintro ⟨-, inner⟩
        exact absurd control (inner c (by simp))
  | case6 c str nonzero readable other inductionHypothesis =>
      rw [readBack_other nonzero readable other, plain_cons_iff nonzero readable other,
        ← inductionHypothesis]
      cases readBack str <;> simp

end Reader

/-! ## Instances -/

/-- A numeral has no zero byte. -/
theorem decimal_clean (number : Nat) : 0 ∉ decimal number := by
  rw [decimal, numeralText, List.mem_map]
  rintro ⟨digit, member, zero⟩
  have small : digit < 10 := Lib.Numerals.digit_lt_of_mem (by decide) member
  have known : ∀ digit < 10, UInt8.ofNat (0x30 + digit) ≠ 0 := by decide
  exact known digit small zero

/-- The numeral of an integer has no zero byte. -/
theorem decimalInt_clean (number : Int) : 0 ∉ decimalInt number := by
  rw [decimalInt, List.mem_append, not_or]
  refine ⟨?_, decimal_clean _⟩
  split <;> simp

/-- Hexadecimal digits have no zero byte. -/
theorem hexByte_clean (c : UInt8) : 0 ∉ StringStream.hexByte c := by
  have known : ∀ number < 16, StringStream.hexTable (UInt8.ofNat number) ≠ 0 := by decide
  obtain ⟨high, low, -⟩ := Reader.hexByte_value c
  have first := known (c >>> 4).toNat high
  have second := known (c &&& 0xf).toNat low
  rw [UInt8.ofNat_toNat] at first second
  simpa [StringStream.hexByte] using ⟨first.symm, second.symm⟩

/-- Escaped text has no zero byte. -/
theorem StringStream.escapeText_clean (str : Bytes) : 0 ∉ escapeText str := by
  induction str using escapeText.induct with
  | case1 => exact List.not_mem_nil
  | case2 str =>
      rw [escapeText_zero]
      exact List.not_mem_nil
  | case3 c str nonzero plain inductionHypothesis =>
      rw [escapeText_plain nonzero plain]
      simpa using ⟨Ne.symm nonzero, inductionHypothesis⟩
  | case4 c nonzero special control =>
      rw [escapeText_last nonzero control]
      simpa using hexByte_clean c
  | case5 c nonzero special control c1 str inductionHypothesis =>
      rw [escapeText_control nonzero control]
      simpa using ⟨hexByte_clean c, hexByte_clean c1, inductionHypothesis⟩
  | case6 c str nonzero special short inductionHypothesis =>
      rw [escapeText_short nonzero special short]
      simpa using ⟨Ne.symm special, inductionHypothesis⟩

instance : JsonValue Int32 where
  renderJsonValue stream value := stream.write (itoaFwd value)
  readJson _ := Reader.scalar Reader.readInt
  text value := decimalInt value.toInt
  decoded := some
  assign _ value := value
  strings _ := []
  written_render stream value := by rw [StringStream.written_write, itoaFwd_eq]
  readJson_text old value _ closing stands := Reader.readInt_comes old value closing stands
  readJson_error := Reader.readInt_onlyFails.error
  readJson_advances := Reader.readInt_onlyFails.advances
  readJson_returns old settled _ := Reader.readInt_onlyFails.returns settled _ old
  text_clean value := decimalInt_clean value.toInt
  decoded_eq_self_iff := by simp

instance : JsonValue UInt64 where
  renderJsonValue stream value := stream.write (xtoa value.toInt64 10 false)
  readJson _ := Reader.scalar Reader.readUInt64
  text value := decimal value.toNat
  decoded := some
  assign _ value := value
  strings _ := []
  written_render stream value := by rw [StringStream.written_write, xtoa_eq]
  readJson_text old value _ closing stands := Reader.readUInt64_comes old value closing stands
  readJson_error := Reader.readUInt64_onlyFails.error
  readJson_advances := Reader.readUInt64_onlyFails.advances
  readJson_returns old settled _ := Reader.readUInt64_onlyFails.returns settled _ old
  text_clean value := decimal_clean value.toNat
  decoded_eq_self_iff := by simp

instance : JsonValue Bytes where
  renderJsonValue := StringStream.writeStr
  readJson _ := Reader.scalar Reader.readString
  text value := [0x22] ++ StringStream.escapeText value ++ [0x22]
  decoded := Reader.readBack
  assign _ value := value
  strings value := [value]
  written_render := StringStream.written_writeStr
  readJson_text old value _ closing stands := by
    rw [Option.map_id']
    exact Reader.readString_comes old value closing stands
  readJson_error := Reader.readString_onlyFails.error
  readJson_advances := Reader.readString_onlyFails.advances
  readJson_returns old settled _ := Reader.readString_onlyFails.returns settled _ old
  text_clean value := by simpa using StringStream.escapeText_clean value
  decoded_eq_self_iff value := by simpa using Reader.readBack_eq_self_iff value

/-- An enumeration is written and read as its underlying integer. -/
instance : JsonValue AdminRole where
  renderJsonValue stream value := JsonValue.renderJsonValue stream value.underlying
  readJson turns reader value :=
    (JsonValue.readJson turns reader value.underlying).map fun (underlying, reader) =>
      (⟨underlying⟩, reader)
  text value := JsonValue.text value.underlying
  decoded := some
  assign _ value := value
  strings _ := []
  written_render stream value := JsonValue.written_render stream value.underlying
  readJson_text old value enough closing stands := by
    obtain ⟨after, read, ctrl, error⟩ :=
      JsonValue.readJson_text old.underlying value.underlying enough closing stands
    exact ⟨after, by rw [read]; rfl, ctrl, error⟩
  readJson_error read error := by
    obtain ⟨result, found, same⟩ := Option.map_eq_some_iff.mp read
    simp only [Prod.mk.injEq] at same
    exact same.2 ▸ JsonValue.readJson_error found error
  readJson_advances read live := by
    obtain ⟨result, found, same⟩ := Option.map_eq_some_iff.mp read
    simp only [Prod.mk.injEq] at same
    exact same.2 ▸ JsonValue.readJson_advances found live
  readJson_returns old settled enough := by
    obtain ⟨value, after, read, stays, less⟩ :=
      JsonValue.readJson_returns old.underlying settled enough
    exact ⟨⟨value⟩, after, fun other more => congrArg (Option.map _) (read other more), stays, less⟩
  text_clean value := JsonValue.text_clean value.underlying
  decoded_eq_self_iff := by simp

end SM.Inc
