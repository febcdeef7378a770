import SM.Inc.JsonEntries
import SM.Inc.JsonRecords

/-!
# Parsing what was written

`my_json_parse_from_string` on the text of a record, on an object with its members in any order, and
on any text: `parses_back_iff`, `parses_object_iff` and `parsing_returns_iff`. `turns_suffice` says
of the loops of a token that the number of their turns is no bound.
-/

namespace SM.Inc

open SM.Utils Reader StringStream

/-- What parsing leaves of a text and of what stands in front of it: the text keeps its length, and
of what is in front only the last three bytes are written, none of them when parsing succeeds. -/
structure Leaves (source front : Bytes) (ok : Bool) (before written : Bytes) : Prop where
  written_length : written.length = source.length
  before_length : before.length = front.length
  far : before.take (front.length - 3) = front.take (front.length - 3)
  fine : ok = true → before = front

/-- `my_json_parse_from_string` ends with the result, for a text with what stands in memory in front
of it and behind it, and has written in the text and at most three bytes in front of it. -/
def Parses {T : Type} [Reflection T] (source front behind : Bytes) (token : Token)
    (outside : UInt8 → UInt8) (initial : T) (ok : Bool) (t : T) : Prop :=
  ∃ turns, ∀ other, turns ≤ other → ∃ before written, Leaves source front ok before written ∧
    fromJson0 other front (source ++ behind) source.length token outside initial =
      some (ok, t, before, written ++ behind)

variable {T : Type} [Reflection T] {source front behind : Bytes} {token : Token}
  {outside : UInt8 → UInt8} {initial t : T}

/-- A reader starts in front of its text. -/
theorem start_at (filled : source ≠ []) (clean : 0 ∉ source) :
    (start front (source ++ behind) source.length token outside).At source := by
  have some : 0 < source.length := List.length_pos_iff.mpr filled
  refine ⟨?_, ?_, some, clean, ?_⟩
  · simp [start]
  · simp [start]
  · obtain ⟨c, rest, rfl⟩ := List.exists_cons_of_ne_nil filled
    have nonzero : c ≠ 0 := fun zero => clean (zero ▸ List.mem_cons_self)
    simp [start, nonzero]

/-- A reader starts live. -/
theorem start_live {memory : Bytes} {len : Nat} : (start front memory len token outside).Live := by
  refine ⟨Nat.zero_le _, ?_, ?_⟩
  · intro running
    simp only [start, Bool.or_eq_false_iff, decide_eq_false_iff_not, beq_eq_false_iff_ne] at running
    exact ⟨Nat.pos_of_ne_zero running.1, running.2⟩
  · intro ended more
    simp only [start, Bool.or_eq_true, decide_eq_true_eq, beq_iff_eq] at ended
    exact ended.resolve_left (Nat.pos_iff_ne_zero.mp more)

/-- What `do_read0` does to the memory. -/
theorem doRead0_advances {turns len : Nat} {memory : Bytes} {value : T} {after : Reader}
    (read : doRead0 turns (start front memory len token outside).next initial = some (value, after)) :
    (start front memory len token outside).Advances after := by
  have opened := next_advances (@start_live front token outside memory len)
  exact opened.trans (doRead0Loop_advances read opened.live)

/-- Parsing keeps the memory behind the text. -/
theorem fromJson0_keeps {turns len : Nat} {memory before after : Bytes} {ok : Bool}
    (result : fromJson0 turns front memory len token outside initial = some (ok, t, before, after)) :
    before.length = front.length ∧ after.length = memory.length ∧
      after.drop len = memory.drop len := by
  obtain ⟨⟨value, last⟩, read, same⟩ := Option.map_eq_some_iff.mp result
  simp only [Prod.mk.injEq] at same
  obtain ⟨-, -, rfl, rfl⟩ := same
  have advances := doRead0_advances read
  refine ⟨?_, advances.size, advances.behind⟩
  rw [List.length_reverse, advances.width]
  exact List.length_reverse

/-- What `do_read0` ends with is what parsing ends with. -/
theorem fromJson0_eq {turns : Nat} {value : T} {after : Reader}
    (read : doRead0 turns (start front (source ++ behind) source.length token outside).next initial =
      some (value, after)) :
    ∃ before written, Leaves source front (!after.error) before written ∧
      fromJson0 turns front (source ++ behind) source.length token outside initial =
        some (!after.error, value, before, written ++ behind) := by
  have advances := doRead0_advances read
  have size : after.memory.length = source.length + behind.length := by
    rw [advances.size]
    exact List.length_append
  have kept : after.memory.drop source.length = behind := by
    have same := advances.behind
    simpa only [start, List.drop_left] using same
  refine ⟨after.front.reverse, after.memory.take source.length, ⟨?_, ?_, ?_, ?_⟩, ?_⟩
  · rw [List.length_take, size]
    omega
  · rw [List.length_reverse, advances.width]
    exact List.length_reverse
  · have far := congrArg List.reverse advances.far
    rw [List.reverse_drop, List.reverse_drop, advances.width] at far
    simpa only [start, List.reverse_reverse, List.length_reverse] using far
  · intro ok
    have fine := advances.fine (by simpa using ok)
    rw [fine.2]
    exact List.reverse_reverse front
  · have whole := List.take_append_drop source.length after.memory
    rw [kept] at whole
    simp only [fromJson0, Reader.new, read, Option.map_some, whole]

/-- A text which is parsed is read into the record in some turns. -/
theorem Parses.doRead0 {ok : Bool} (parses : Parses source front behind token outside initial ok t)
    (least : Nat) : ∃ turns after, least ≤ turns ∧ doRead0 turns
      (start front (source ++ behind) source.length token outside).next initial = some (t, after) ∧
      ok = !after.error := by
  obtain ⟨turns, result⟩ := parses
  obtain ⟨before, written, -, ended⟩ := result (max turns least) (Nat.le_max_left _ _)
  obtain ⟨⟨value, after⟩, read, same⟩ := Option.map_eq_some_iff.mp ended
  rw [Prod.mk.injEq, Prod.mk.injEq] at same
  obtain ⟨rfl, rfl, -⟩ := same
  exact ⟨_, after, Nat.le_max_right _ _, read, rfl⟩

/-! ## The text of a record -/

/-- With a turn for every byte and one more, `do_read0` makes the record of its text if and only if
its strings are plain. -/
theorem doRead0_back_iff {turns : Nat} (t : T) (enough : (myToString t).length < turns) :
    (∃ after, doRead0 turns
        (start front (myToString t ++ behind) (myToString t).length token outside).next
        Reflection.initial = some (t, after) ∧ after.error = false) ↔
      ∀ str ∈ recordStrings t, Plain str := by
  rw [← decodedRecord_eq_self_iff]
  rw [myToString_eq] at enough ⊢
  have standing : (start front (recordText t ++ behind) (recordText t).length token outside).At
      (recordText t ++ []) := by
    rw [List.append_nil]
    exact start_at (List.cons_ne_nil _ _) (recordText_clean t)
  have comes := doRead0_comes t enough standing
  constructor
  · rintro ⟨after, read, fine⟩
    cases decoded : decodedRecord t with
    | none =>
        rw [decoded] at comes
        rw [comes _ _ read] at fine
        cases fine
    | some value =>
        rw [decoded] at comes
        obtain ⟨last, same, -⟩ := comes
        rw [read] at same
        cases same
        rfl
  · intro decoded
    rw [decoded] at comes
    obtain ⟨after, read, -, error⟩ := comes
    exact ⟨after, read, error⟩

/-- Round trip: a record comes back from its text if and only if none of its strings has a zero, a
backslash, or a control character without a letter of its own before its last character. -/
theorem parses_back_iff (t : T) (front behind : Bytes) (token : Token) (outside : UInt8 → UInt8) :
    Parses (myToString t) front behind token outside Reflection.initial true t ↔
      ∀ str ∈ recordStrings t, Plain str := by
  constructor
  · intro parses
    obtain ⟨turns, after, enough, read, ok⟩ := parses.doRead0 ((myToString t).length + 1)
    exact (doRead0_back_iff t enough).mp ⟨after, read, by simpa using ok⟩
  · intro plain
    refine ⟨(myToString t).length + 1, fun other more => ?_⟩
    obtain ⟨after, read, fine⟩ := (doRead0_back_iff t (Nat.lt_of_succ_le more)).mpr plain
    simpa only [fine, Bool.not_false] using fromJson0_eq read

/-- An object with entries in any order is parsed into the record which they make of the given
one. -/
theorem parses_object_iff (entries : List (Entry T)) (initial t : T) (front behind : Bytes)
    (token : Token) (outside : UInt8 → UInt8) :
    Parses (objectText entries) front behind token outside initial true t ↔
      assignAll 0 initial entries = some t := by
  have standing :
      (start front (objectText entries ++ behind) (objectText entries).length token outside).At
      (objectText entries) :=
    start_at (List.cons_ne_nil _ _) (objectText_clean entries)
  constructor
  · intro parses
    obtain ⟨turns, after, enough, read, ok⟩ := parses.doRead0 ((objectText entries).length + 1)
    have ends := doRead0_object entries initial enough standing
    cases assigned : assignAll 0 initial entries with
    | none =>
        rw [assigned] at ends
        rw [ends _ _ read] at ok
        cases ok
    | some value =>
        rw [assigned] at ends
        obtain ⟨last, same, -⟩ := ends
        rw [read] at same
        cases same
        rfl
  · intro assigned
    refine ⟨(objectText entries).length + 1, fun other more => ?_⟩
    have ends := doRead0_object entries initial (Nat.lt_of_succ_le more) standing
    rw [assigned] at ends
    obtain ⟨after, read, error⟩ := ends
    have fine : after.error = false := error
    simpa only [fine, Bool.not_false] using fromJson0_eq read

/-! ## Any text -/

/-- The byte behind the text. -/
theorem start_behind : (start front (source ++ behind) source.length token outside).byte source.length =
    behind.head?.getD 0 := by
  have found : (source ++ behind)[source.length]? = behind.head? := by
    rw [List.getElem?_append_right (Nat.le_refl _), Nat.sub_self, List.head?_eq_getElem?]
  simp only [byte, start, List.getD_eq_getElem?_getD, found]

/-- Parsing returns, whatever the text, if no comma stands right behind it, and no more turns are
taken than the text has bytes. -/
theorem parses_bounded (source front : Bytes) (quiet : behind.head? ≠ some 0x2c) (token : Token)
    (outside : UInt8 → UInt8) (initial : T) :
    ∃ ok t, ∀ turns, source.length < turns → ∃ before written, Leaves source front ok before written ∧
      fromJson0 turns front (source ++ behind) source.length token outside initial =
        some (ok, t, before, written ++ behind) := by
  have live := @start_live front token outside (source ++ behind) source.length
  let first := (start front (source ++ behind) source.length token outside).next
  by_cases ended : first.token.type = .end'
  · refine ⟨!first.error, initial, fun turns more => ?_⟩
    obtain ⟨turns, rfl⟩ : ∃ less, turns = less + 1 := ⟨turns - 1, by omega⟩
    have read : doRead0 (turns + 1) first initial = some (initial, first) := doRead0Loop_ended ended
    exact fromJson0_eq read
  · have advances := next_advances live
    have noComma : first.byte first.len ≠ 0x2c := by
      rw [advances.byte_len]
      change (start front (source ++ behind) source.length token outside).byte source.length ≠ 0x2c
      rw [start_behind]
      cases head : behind.head? with
      | none => decide
      | some c =>
          rintro rfl
          exact quiet head
    have settled : first.Settled := ⟨advances.live, noComma, fun type => absurd type ended⟩
    have pending : first.pending < source.length + 1 :=
      Nat.lt_succ_of_le (next_pending_le_left live)
    obtain ⟨value, after, read, -⟩ := doRead0Loop_returns 0 initial settled pending pending
    exact ⟨_, value, fun turns more => fromJson0_eq (read turns turns more more)⟩

/-- A reader at the end of its text, with a comma behind it. -/
structure Stalled (reader : Reader) : Prop where
  type_eq : reader.token.type = .end'
  read_eq : reader.read = 0
  first_eq : reader.first = 0x2c
  place : reader.token.str = reader.offset

variable {reader : Reader}

/-- The reader behind the last character of a text with a comma behind it. -/
theorem Stalled.of_end {opened : Reader} (advances : opened.Advances reader) (ahead : reader.At [])
    (comma : opened.byte opened.len = 0x2c) : Stalled reader.next := by
  have zero := ahead.read_nil
  have left := ahead.left
  have inside := advances.live.inside
  have last : reader.offset = reader.len := by
    rw [Reader.left, List.length_nil] at left
    omega
  rw [next_of_read_zero zero]
  refine ⟨rfl, zero, ?_, rfl⟩
  change reader.byte reader.offset = 0x2c
  rw [last, advances.byte_len, comma]

/-- A stalled reader stays where it is. -/
theorem Stalled.next (stalled : Stalled reader) : Stalled reader.next := by
  have first := stalled.first_eq
  rw [Reader.first, stalled.place] at first
  rw [next_of_read_zero stalled.read_eq]
  exact ⟨rfl, stalled.read_eq, first, rfl⟩

/-- The loop for a container adds elements for ever. -/
theorem Stalled.sequenceLoop (stalled : Stalled reader) (other turns : Nat) (val : List T) :
    Reader.sequenceLoop (readRecord other) Reflection.initial turns reader val = none := by
  induction turns generalizing reader val with
  | zero => rfl
  | succ turns inductionHypothesis =>
      have open' : ¬ (reader.first = 0x5d ∧ reader.token.type ≠ .end') :=
        fun closed => closed.2 stalled.type_eq
      rw [Reader.sequenceLoop, if_neg open']
      cases other with
      | zero => rfl
      | succ other =>
          have read : readRecord (other + 1) reader (Reflection.initial : T) =
              some (Reflection.initial, reader.next) := by
            rw [readRecord, doRead0, doRead0Loop_ended stalled.type_eq]
            rfl
          rw [read]
          dsimp only
          rw [if_pos stalled.next.first_eq]
          exact inductionHypothesis stalled.next.next _

/-- A request whose text ends behind the opening bracket of its container. -/
def unclosedAdmins : Bytes := 0x7b :: (keyText (memberName "admins") ++ [0x5b])

/-- A list without its bracket, and with a comma behind the text, is read forever. -/
theorem unclosedAdmins_runs (front behind : Bytes) (token : Token) (outside : UInt8 → UInt8)
    (initial : AddSysAdminReq) (turns : Nat) :
    fromJson0 turns front (unclosedAdmins ++ 0x2c :: behind) unclosedAdmins.length token outside
        initial =
      none := by
  let opened := start front (unclosedAdmins ++ 0x2c :: behind) unclosedAdmins.length token outside
  have clean : 0 ∉ unclosedAdmins := by
    simpa [unclosedAdmins, keyText] using escapeText_clean (memberName "admins")
  have standing : opened.At unclosedAdmins := start_at (List.cons_ne_nil _ _) clean
  obtain ⟨stands, -⟩ := next_ctrl standing rfl
  let admins : Member AddSysAdminReq :=
    ⟨memberName "admins", List SysAdminItem, (·.admins), fun admins req => { req with admins }⟩
  have found : admins ∈ Reflection.members (T := AddSysAdminReq) := by
    simp [Reflection.members, admins]
  have key : readBack admins.name = some admins.name :=
    (Reflection.names_plain admins found).readBack_eq
  obtain ⟨string, colon, -⟩ := key_reads key stands.ahead
  obtain ⟨bracket, -⟩ := next_ctrl colon rfl
  have advances : opened.Advances opened.next.next.next.next := by
    have live : opened.Live := start_live
    have first := next_advances live
    have second := first.trans (next_advances first.live)
    have third := second.trans (next_advances second.live)
    exact third.trans (next_advances third.live)
  have stalled : Stalled opened.next.next.next.next.next := .of_end advances bracket.ahead start_behind
  cases turns with
  | zero => rfl
  | succ turns =>
      have token : nameToken AddSysAdminReq 0 opened.next = opened.next.next :=
        if_neg (by decide : 0 ≠ size AddSysAdminReq)
      have known : findMember AddSysAdminReq (nameToken AddSysAdminReq 0 opened.next).text =
          some admins := by
        rw [token, string.text_eq, findMember_name found]
      have expected : opened.next.next.next.next.expect 0x5b = true :=
        beq_iff_eq.mpr bracket.first_eq
      have read : JsonValue.readJson (turns + 1) opened.next.next.next.next (admins.get initial) =
          none := by
        change readSequence (readRecord (turns + 1)) Reflection.initial (turns + 1)
          opened.next.next.next.next initial.admins = none
        rw [readSequence, if_pos expected, stalled.sequenceLoop]
        rfl
      have stuck := @doRead0Loop_stuck _ _ _ (turns + 1) turns 0 initial admins
        (running_of_ctrl stands.type_eq) known (by rw [token]; exact read)
      rw [fromJson0, Reader.new, doRead0]
      change Option.map _ (doRead0Loop (turns + 1) (turns + 1) 0 opened.next initial) = none
      rw [stuck]
      rfl

/-- Every text is parsed to its end, into every record, if and only if no comma stands right behind
it in memory. -/
theorem parsing_returns_iff (front behind : Bytes) :
    (∀ (T : Type) [Reflection T] (source : Bytes) (token : Token) (outside : UInt8 → UInt8)
      (initial : T), ∃ ok t, Parses source front behind token outside initial ok t) ↔
      behind.head? ≠ some 0x2c := by
  constructor
  · rintro returns comma
    obtain ⟨others, rfl⟩ := List.head?_eq_some_iff.mp comma
    obtain ⟨ok, t, turns, result⟩ := returns AddSysAdminReq unclosedAdmins
      ⟨.ctrl, 0, 0, 0, 0, false⟩ id Reflection.initial
    obtain ⟨before, written, -, ended⟩ := result turns (Nat.le_refl _)
    rw [unclosedAdmins_runs] at ended
    cases ended
  · intro quiet T _ source token outside initial
    obtain ⟨ok, t, parses⟩ := parses_bounded source front quiet token outside initial
    exact ⟨ok, t, source.length + 1, parses⟩

/-- An escape which the end of the text cuts off is written in front of the text. -/
example : (fromJson0 4 [1, 2, 3, 4] [0x22, 0x5c, 0x75, 0] 3 ⟨.ctrl, 0, 0, 0, 0, false⟩ id
    (Reflection.initial : GetSysAdminReq)).map (fun result => result.2.2) =
    some ([1, 0xf1, 0x84, 0x90], [0x22, 0x5c, 0x75, 0]) := by rfl

/-- `next` calls itself as in the source, where the number of comments has no bound. -/
theorem next_eq (live : reader.Live) :
    reader.next = reader.skip.cleared.nextToken reader.skip.cleared.read Reader.next := by
  have skipped := skip_moves live
  have first := skipped.trans (cleared_moves skipped.live)
  have left := first.left
  rw [Reader.next, nextLoop]
  exact nextToken_congr first.live fun sound shorter =>
    nextLoop_congr sound (Nat.lt_of_lt_of_le shorter left) (Nat.lt_succ_self _)

/-- No loop of a token ends for want of turns: with more of them than characters are left, two for
each character in a string without quotes, their number makes no difference. -/
theorem turns_suffice {turns : Nat} (live : reader.Live) (enough : reader.left < turns)
    (escCount : Nat) :
    nextLoop turns reader = reader.next ∧
      skip.loop turns reader = reader.skip ∧
      lineLoop turns reader = lineLoop (reader.left + 1) reader ∧
      blockLoop turns reader = blockLoop (reader.left + 1) reader ∧
      numberLoop turns reader reader.read = numberLoop (reader.left + 1) reader reader.read ∧
      quoteLoop turns reader escCount reader.read =
        quoteLoop (reader.left + 1) reader escCount reader.read ∧
      stringLoop (2 * turns) reader escCount reader.read =
        stringLoop (2 * reader.left + 1) reader escCount reader.read := by
  have least : reader.left < reader.left + 1 := Nat.lt_succ_self _
  refine ⟨nextLoop_congr live enough least, skip_congr live enough least,
    lineLoop_congr live enough least, blockLoop_congr live enough least,
    numberLoop_congr live enough least, quoteLoop_congr escCount live enough least, ?_⟩
  exact stringLoop_congr escCount reader.read live (.inl ⟨rfl, by omega, by omega⟩)

end SM.Inc
