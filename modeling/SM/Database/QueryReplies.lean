import SM.Database.DBConnect
import SM.Inc.ReqReps

/-!
# Replies to queries

What `executeQuery` returns and leaves in the reply, whatever the transport received. The text
starts behind a head which nothing looks for, and its length is unsigned, so a reply that is
shorter than the head is read beyond its end.
-/

namespace SM.Database

open SM.Inc SM.Network SM.Utils

/-- The `string_view` of the text in a reply: its offset, and its length as a `size_t`. -/
def textView (packer : PlatformPack) (platformRep : Bytes) : Nat × Nat :=
  (packer.headLen, (platformRep.length + 2 ^ 64 - packer.headLen) % 2 ^ 64)

/-- How a call of `executeQuery` ends. -/
inductive QueryRun (Rep : Type) where
  /-- An assertion failed or a null pointer was dereferenced. -/
  | aborted
  /-- The text was taken from outside of the reply. -/
  | overran
  | returned (bret : Bool) (rep : Rep)

section Queries

variable {Rep : Type} [Reply Rep]

/-- The end of `executeQuery`, where `parse` leaves a reply whether or not it succeeds. -/
def replyEnd (parse : Rep → Bytes → Bool × Rep) (rep : Rep) : QueryEnd → QueryRun Rep
  | .execFailed =>
      .returned false (Reply.setCode StatusCode.sendDBQueryExecFailed.toInt rep)
  | .parsing text =>
      match parse rep text with
      | (true, rep) => .returned true rep
      | (false, rep) => .returned false (Reply.setCode StatusCode.invalidJson.toInt rep)
  | .outOfRange => .overran

/-- `DBConnectManager::executeQuery`. -/
def executeQueryRep (assertions : Bool) (platPacks : PlatPacks)
    (outcome : Bytes → Nat → Attempt) (parse : Rep → Bytes → Bool × Rep) (op : Int32)
    (strreq : Bytes) (rep : Rep) (method : DBMethod) : QueryRun Rep :=
  match startQuery assertions platPacks op strreq with
  | .aborted => .aborted
  | .refused => .returned false rep
  | .sending packer pstrreq => replyEnd parse rep (executeQuery outcome packer pstrreq method)

/-- No text is taken from outside of the reply, and a failure leaves its code. -/
structure Tolerates (run : QueryRun Rep) : Prop where
  inside : run ≠ .overran
  failed : ∀ rep, run = .returned false rep →
    Reply.code rep = StatusCode.sendDBQueryExecFailed.toInt ∨
      Reply.code rep = StatusCode.invalidJson.toInt

variable {assertions : Bool} {platPacks : PlatPacks} {outcome : Bytes → Nat → Attempt}
  {parse : Rep → Bytes → Bool × Rep} {op : Int32} {strreq pstrreq platformRep : Bytes} {rep : Rep}
  {method : DBMethod} {packer : PlatformPack}

/-- A text that would end before it begins has a length beyond the reply. -/
theorem finishQuery_outOfRange_iff :
    finishQuery packer (some platformRep) = .outOfRange ↔
      platformRep.length < (textView packer platformRep).1 + (textView packer platformRep).2 := by
  have small : packer.headLen ≤ 8 := by
    cases packer with
    | mainAss main ass => exact Nat.le_refl 8
    | noMainAss main => exact Nat.zero_le 8
  unfold finishQuery textView
  dsimp only
  split
  · next short =>
      have wrapped : (platformRep.length + 2 ^ 64 - packer.headLen) % 2 ^ 64 =
          platformRep.length + 2 ^ 64 - packer.headLen := Nat.mod_eq_of_lt (by omega)
      rw [wrapped]
      exact iff_of_true rfl (by omega)
  · next whole =>
      have length : platformRep.length + 2 ^ 64 - packer.headLen =
          platformRep.length - packer.headLen + 2 ^ 64 := by omega
      rw [length, Nat.add_mod_right]
      have bound := Nat.mod_le (platformRep.length - packer.headLen) (2 ^ 64)
      exact iff_of_false QueryEnd.noConfusion (by omega)

/-- The buffer has the size of the head when it is packed. -/
theorem startQuery_ne_refused : startQuery assertions platPacks op strreq ≠ .refused := by
  unfold startQuery
  cases platPacks dbQuery with
  | none => exact QueryStart.noConfusion
  | some packer =>
      cases packer with
      | mainAss main ass =>
          simp [PlatformPack.setAss, PlatformPack.pack, PlatformPack.len]
      | noMainAss main =>
          simp [PlatformPack.setAss, PlatformPack.pack]

/-- A query leaves the reply exactly when a reply by TCP is shorter than the head. -/
theorem executeQuery_outOfRange_iff :
    executeQuery outcome packer pstrreq method = .outOfRange ↔
      method = .tcp ∧ ∃ text, outcome pstrreq 0 = .reply text ∧
        text.length < packer.headLen := by
  cases method with
  | nng =>
      have never : (DBConnectNNG.execQuery outcome pstrreq []).succ = false := by
        unfold DBConnectNNG.execQuery
        cases outcome pstrreq 0 <;> rfl
      simp [executeQuery, execQuery, never, finishQuery]
  | tcp =>
      rw [executeQuery, execQuery, DBConnectTCP.execQuery_eq]
      cases outcome pstrreq 0 with
      | reply text => simp [finishQuery]
      | noChannel | threw | null => simp [finishQuery]

/-- A reply with one of the two error codes is tolerated. -/
theorem tolerates_failed {status : StatusCode}
    (error : status = .sendDBQueryExecFailed ∨ status = .invalidJson) :
    Tolerates (.returned false (Reply.setCode status.toInt rep)) where
  inside := nofun
  failed := by
    rintro _ ⟨⟩
    rw [Reply.code_setCode, StatusCode.toInt_inj, StatusCode.toInt_inj]
    exact error

/-- A parsed reply is tolerated. -/
theorem tolerates_parsed : Tolerates (.returned true rep) :=
  ⟨nofun, nofun⟩

/-- An assertion that fails is tolerated. -/
theorem tolerates_aborted : Tolerates (.aborted : QueryRun Rep) :=
  ⟨nofun, nofun⟩

/-- The end of a query is tolerated unless the reply was left. -/
theorem replyEnd_tolerates {ended : QueryEnd} :
    Tolerates (replyEnd parse rep ended) ↔ ended ≠ .outOfRange := by
  cases ended with
  | outOfRange => exact iff_of_false (fun tolerates => tolerates.inside rfl) (absurd rfl)
  | execFailed => exact iff_of_true (tolerates_failed (.inl rfl)) QueryEnd.noConfusion
  | parsing text =>
      refine iff_of_true ?_ QueryEnd.noConfusion
      rcases parsed : parse rep text with ⟨_ | _, left⟩
      · simp only [replyEnd, parsed]
        exact tolerates_failed (.inr rfl)
      · simp only [replyEnd, parsed]
        exact tolerates_parsed

end Queries

/-- A query tolerates what was received if and only if that is no reply over TCP which is shorter
than the head. -/
theorem executeQueryRep_tolerates_iff {Rep : Type} [Reply Rep] (assertions : Bool)
    (platPacks : PlatPacks) (outcome : Bytes → Nat → Attempt)
    (parse : Rep → Bytes → Bool × Rep) (op : Int32) (strreq : Bytes) (rep : Rep)
    (method : DBMethod) :
    Tolerates (executeQueryRep assertions platPacks outcome parse op strreq rep method) ↔
      ∀ packer pstrreq text, startQuery assertions platPacks op strreq = .sending packer pstrreq →
        method = .tcp → outcome pstrreq 0 = .reply text → packer.headLen ≤ text.length := by
  cases start : startQuery assertions platPacks op strreq with
  | refused => exact absurd start startQuery_ne_refused
  | aborted =>
      have ended : executeQueryRep assertions platPacks outcome parse op strreq rep method =
          .aborted := by
        simp only [executeQueryRep, start]
      rw [ended]
      refine iff_of_true tolerates_aborted ?_
      intro packer pstrreq text other
      cases other
  | sending packer pstrreq =>
      have ended : executeQueryRep assertions platPacks outcome parse op strreq rep method =
          replyEnd parse rep (executeQuery outcome packer pstrreq method) := by
        simp only [executeQueryRep, start]
      rw [ended, replyEnd_tolerates, Ne, executeQuery_outOfRange_iff]
      constructor
      · intro whole packer pstrreq text sending tcp reply
        cases sending
        by_contra short
        exact whole ⟨tcp, text, reply, Nat.lt_of_not_le short⟩
      · rintro whole ⟨tcp, text, reply, short⟩
        exact Nat.not_le_of_lt short (whole packer pstrreq text rfl tcp reply)

/-- The empty reply of a failed receive is read beyond its end, before anything parses it. -/
theorem executeQueryRep_empty_reply :
    ¬Tolerates (executeQueryRep true (dealers [.mainAss 6 0]) (fun _ _ => .reply [])
      (fun rep _ => (false, rep)) 4 [123, 125] ({} : LoginRep) .tcp) := by
  intro tolerates
  have started : startQuery true (dealers [.mainAss 6 0]) 4 [123, 125] =
      .sending (.mainAss 6 4) (queryHead 4 ++ [123, 125]) := startQuery_eq rfl true 4 [123, 125]
  have ended : executeQuery (fun _ _ => .reply []) (.mainAss 6 4) (queryHead 4 ++ [123, 125]) .tcp =
      .outOfRange := executeQuery_outOfRange_iff.mpr ⟨rfl, [], rfl, by decide⟩
  apply tolerates.inside
  simp only [executeQueryRep, started, ended, replyEnd]

end SM.Database
