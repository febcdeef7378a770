import Mathlib.Data.List.Basic
import Mathlib.Data.List.Induction
import SM.Inc.OneShotChannel
import SM.Network.NngChannels

/-!
# Calls of a ReqImpl

`sendPack` and `recvPack` have nng called in a task of `TFNET`. The task spawns a
coroutine on `IOCTX` which captures the result and sends it into the one-shot on
which the caller waits. The closure of this coroutine is a temporary of the statement
`co_spawn`: a coroutine which is resumed behind the end of the statement reads a
destroyed closure, unless `co_spawn` keeps the function object. `Finished.ending_eq`
says what every call comes to.
-/

namespace SM.Network.ReqImpl

open SM.Inc SM.Lib SM.Utils

/-- Where the task of `TFNET` is. -/
inductive Task where
  | queued
  /-- In the statement `co_spawn`. -/
  | spawning
  | done
deriving DecidableEq

/-- Where the coroutine is which the task spawns on `IOCTX`. -/
inductive Coroutine where
  | unspawned
  | posted
  | done
deriving DecidableEq

/-- What a call comes to, with what `get` gives; `none` when it throws. -/
inductive Ending (T : Type) where
  | returned (value : Option T)
  /-- An assertion of the task failed. -/
  | aborted
  /-- A destroyed closure was read. -/
  | undefined

variable {T : Type}

/-- A call in progress, with what the closure of the coroutine has captured, or `none` when there is
no closure, and with the one-shot `[s, r]`. -/
structure Call (T : Type) where
  task : Task
  closure : Option T
  coroutine : Coroutine
  oneshot : OneShot.Channel T
  ending : Option (Ending T)

/-- `silent_async` has returned. -/
def Call.start : Call T := ⟨.queued, none, .unspawned, .new, none⟩

inductive Step where
  /-- The task calls nng and enters the statement `co_spawn`. -/
  | task
  /-- The statement ends, and its temporaries are destroyed. -/
  | endSpawn
  /-- `IOCTX` resumes the coroutine. -/
  | resume
  /-- The caller comes to `async_wait`. -/
  | asyncWait
  /-- The wait of the caller is over, and `get` is called. -/
  | get
deriving DecidableEq

/-- A step of a call whose task has the result `result`, or fails an assertion. `keeps` says whether
`co_spawn` keeps the function object which it is given until the coroutine is done. -/
def Call.step (keeps : Bool) (result : Option T) (call : Call T) (step : Step) :
    Option (Call T) :=
  match call.ending, step with
  | some _, _ => none
  | none, .task =>
      match call.task, result with
      | .queued, some value =>
          some { call with task := .spawning, closure := some value, coroutine := .posted }
      | .queued, none => some { call with ending := some .aborted }
      | _, _ => none
  | none, .endSpawn =>
      if call.task = .spawning then
        some { call with task := .done, closure := if keeps then call.closure else none }
      else none
  | none, .resume =>
      match call.coroutine, call.closure with
      | .posted, some value =>
          (call.oneshot.call (.send value)).map fun oneshot =>
            { call with oneshot, coroutine := .done }
      | .posted, none => some { call with ending := some .undefined }
      | _, _ => none
  | none, .asyncWait =>
      if call.oneshot.waits = [] then
        (call.oneshot.call .wait).map fun oneshot => { call with oneshot }
      else none
  | none, .get =>
      if call.oneshot.waits = [some none] then
        (call.oneshot.call .get).map fun oneshot =>
          { call with oneshot, ending := some (.returned call.oneshot.outcome.object) }
      else none

/-- A call which came to its end, with the steps of its three threads. -/
structure Finished (keeps : Bool) (result : Option T) where
  steps : List Step
  ending : Ending T
  ran : ∃ call, Machine.run (Call.step keeps result) Call.start steps = some call ∧
    call.ending = some ending

/-- The coroutine is resumed while its closure is there. -/
def ReadsClosure (keeps : Bool) (steps : List Step) : Prop :=
  keeps = true ∨ steps.idxOf .resume < steps.idxOf .endSpawn

instance (keeps : Bool) (steps : List Step) : Decidable (ReadsClosure keeps steps) :=
  inferInstanceAs (Decidable (_ ∨ _))

/-! ## The two functions -/

/-- `bflag` of `sendPack`: the result of `nng_send` is compared with the length. -/
def bflag (nnop : Int32) (src : Bytes) : Bool := sizeOfInt nnop == src.length

/-- A call of `sendPack` on a message, with the result of `nng_send`. The number is only kept in
`_msgno`. -/
abbrev SendPack (keeps : Bool) (nnop : Int32) (src : Bytes) := Finished keeps (some (bflag nnop src))

/-- `bret`, which is false unless the one-shot gives something else. -/
def SendPack.bret {keeps : Bool} {nnop : Int32} {src : Bytes} (call : SendPack keeps nnop src) :
    Option Bool :=
  match call.ending with
  | .returned value => some (value.getD false)
  | .aborted | .undefined => none

/-- The view of `recvPack`, whose pointer is null: `nng_recv` is given the address of the pointer
for a buffer of no bytes. `none` when the assertion of the task fails. -/
def view (assertions : Bool) (nngRecv : Nat → Bytes → Int32 × Nat) (message : Bytes) : Option Nat :=
  let (nnop, len) := nngRecv 0 message
  if assertions && !decide (0 < nnop) then none else some len

/-- A call of `recvPack` which gets a message. -/
abbrev RecvPack (keeps assertions : Bool) (nngRecv : Nat → Bytes → Int32 × Nat) (message : Bytes) :=
  Finished keeps (view assertions nngRecv message)

/-- What `recvPack` returns, when it is defined. A `std::string` of a null pointer throws unless its
length is zero. -/
def received : Ending Nat → Option NngRecvPack
  | .returned len => some (.returned 0 (if len = some 0 then some [] else none))
  | .aborted => some .aborted
  | .undefined => none

/-! ## What every call comes to -/

/-- What holds of a call behind the steps which it has taken. -/
structure Call.Follows (keeps : Bool) (value : T) (steps : List Step) (call : Call T) : Prop where
  queued : call.task = .queued → call.coroutine = .unspawned
  endSpawn : .endSpawn ∈ steps ↔ call.task = .done
  resume : call.coroutine ≠ .done → call.ending = none → .resume ∉ steps
  closure : call.coroutine ≠ .unspawned →
    call.closure = if keeps = false ∧ call.task = .done then none else some value
  object : (call.oneshot.outcome = .undecided ∧ call.coroutine ≠ .done ∧
      (call.oneshot.waits = [] ∧ call.oneshot.armed = none ∨
        call.oneshot.waits = [none] ∧ call.oneshot.armed = some 0)) ∨
    (call.oneshot.outcome = .value value ∧ call.coroutine = .done ∧ ReadsClosure keeps steps)
  opened : call.oneshot.closed = false
  ending : ∀ ending, call.ending = some ending →
    (ending = .returned (some value) ∧ ReadsClosure keeps steps) ∨
      (ending = .undefined ∧ ¬ ReadsClosure keeps steps)

variable {keeps : Bool} {value : T} {steps : List Step} {call next : Call T}

/-- A call starts before its first step. -/
theorem Call.start_follows : Call.start.Follows keeps value [] where
  queued _ := rfl
  endSpawn := by simp [start]
  resume _ _ := by simp
  closure spawned := absurd rfl spawned
  object := .inl ⟨rfl, by simp [start], .inl ⟨rfl, rfl⟩⟩
  opened := rfl
  ending _ ended := by simp [start] at ended

/-- Later steps do not change that the coroutine was resumed in time. -/
theorem ReadsClosure.append (reads : ReadsClosure keeps steps) (step : Step) :
    ReadsClosure keeps (steps ++ [step]) := by
  refine reads.imp_right fun earlier => ?_
  have resumed : Step.resume ∈ steps :=
    List.idxOf_lt_length_iff.mp (Nat.lt_of_lt_of_le earlier List.idxOf_le_length)
  rw [List.idxOf_append_of_mem resumed]
  by_cases ended : Step.endSpawn ∈ steps
  · rw [List.idxOf_append_of_mem ended]
    exact earlier
  · rw [List.idxOf_append_of_notMem ended]
    exact Nat.lt_of_lt_of_le (List.idxOf_lt_length_iff.mpr resumed) (Nat.le_add_right _ _)

/-- A coroutine which is resumed last was resumed in time if and only if the statement had not
ended, or its closure is kept. -/
theorem readsClosure_resume (first : .resume ∉ steps) :
    ReadsClosure keeps (steps ++ [.resume]) ↔ keeps = true ∨ .endSpawn ∉ steps := by
  refine or_congr_right ?_
  rw [List.idxOf_append_of_notMem first]
  by_cases ended : Step.endSpawn ∈ steps
  · rw [List.idxOf_append_of_mem ended]
    have := List.idxOf_lt_length_iff.mpr ended
    simp only [ended, not_true, iff_false]
    omega
  · rw [List.idxOf_append_of_notMem ended]
    simp [ended]

/-- A closure which is gone was destroyed with the statement, and one which is there has the
result. -/
theorem Call.Follows.closure_of_posted (follows : call.Follows keeps value steps)
    (posted : call.coroutine = .posted) :
    (call.closure = none ∧ keeps = false ∧ .endSpawn ∈ steps) ∨
      (call.closure = some value ∧ (keeps = true ∨ .endSpawn ∉ steps)) := by
  have captured := follows.closure (by simp [posted])
  rw [follows.endSpawn]
  split at captured
  · rename_i gone
    exact .inl ⟨captured, gone⟩
  · rename_i kept
    refine .inr ⟨captured, ?_⟩
    cases keeps
    · exact .inr fun done => kept ⟨rfl, done⟩
    · exact .inl rfl

/-- The coroutine sends what its closure has, or reads a destroyed one. -/
theorem Call.Follows.resumed (follows : call.Follows keeps value steps) (running : call.ending = none)
    (stepped : Call.step keeps (some value) call .resume = some next) :
    next.Follows keeps value (steps ++ [.resume]) := by
  have posted : call.coroutine = .posted := by
    cases place : call.coroutine <;> simp [Call.step, running, place] at stepped ⊢
  have first := follows.resume (by simp [posted]) running
  have undecided := follows.object.resolve_right (by simp [posted])
  have endSpawn := follows.endSpawn
  have captured := follows.closure (by simp [posted])
  have queued : call.task ≠ .queued := fun queued => by simp [follows.queued queued] at posted
  rcases follows.closure_of_posted posted with ⟨gone, discards, ended⟩ | ⟨there, alive⟩
  · simp only [Call.step, running, posted, gone, Option.some.injEq] at stepped
    subst stepped
    refine ⟨fun same => absurd same queued, by simpa using endSpawn, by simp,
      fun _ => gone ▸ captured, .inl ⟨undecided.1, by simp, undecided.2.2⟩, follows.opened, ?_⟩
    rintro _ ⟨⟩
    refine .inr ⟨rfl, ?_⟩
    rw [readsClosure_resume first]
    simp [discards, ended]
  · simp only [Call.step, running, posted, there, OneShot.Channel.call, undecided.1,
      Option.map_some, Option.some.injEq] at stepped
    subst stepped
    exact ⟨fun same => absurd same queued, by simpa using endSpawn, by simp, fun _ => there ▸ captured,
      .inr ⟨rfl, rfl, (readsClosure_resume first).mpr alive⟩, follows.opened, by simp⟩

/-- The caller waits once. -/
theorem Call.Follows.waits (follows : call.Follows keeps value steps) (running : call.ending = none)
    (stepped : Call.step keeps (some value) call .asyncWait = some next) :
    next.Follows keeps value (steps ++ [.asyncWait]) := by
  have opened := follows.opened
  simp only [Call.step, running, OneShot.Channel.call, opened, Bool.false_eq_true, if_false,
    Option.map_some, Option.ite_none_right_eq_some, Option.some.injEq] at stepped
  obtain ⟨first, rfl⟩ := stepped
  refine ⟨follows.queued, by simpa using follows.endSpawn, by simpa [running] using follows.resume,
    follows.closure, ?_, ?_, by simp⟩
  · rcases follows.object with ⟨undecided, unfinished, waits⟩ | ⟨sent, done, reads⟩
    · have armed : call.oneshot.armed = none := by
        rcases waits with ⟨_, armed⟩ | ⟨waiting, _⟩
        · exact armed
        · simp [first] at waiting
      left
      simp [OneShot.Channel.wait, armed, undecided, first, unfinished, OneShot.Outcome.verdict]
    · right
      refine ⟨?_, done, reads.append _⟩
      simp only [OneShot.Channel.wait]
      split <;> exact sent
  · simp only [OneShot.Channel.wait]
    split <;> exact opened

/-- Every step of a call is remembered. -/
theorem Call.Follows.step (follows : call.Follows keeps value steps) (step : Step)
    (stepped : Call.step keeps (some value) call step = some next) :
    next.Follows keeps value (steps ++ [step]) := by
  have running : call.ending = none := by
    cases ended : call.ending with
    | none => rfl
    | some _ => simp [Call.step, ended] at stepped
  cases step with
  | task =>
      have queued : call.task = .queued := by
        cases place : call.task <;> simp [Call.step, running, place] at stepped ⊢
      have unspawned := follows.queued queued
      have undecided := follows.object.resolve_right (by simp [unspawned])
      have early := follows.endSpawn
      simp only [Call.step, running, queued, Option.some.injEq] at stepped
      subst stepped
      have first := follows.resume (by simp [unspawned]) running
      exact ⟨by simp, by simpa [queued] using early, by simpa using first, by simp,
        .inl ⟨undecided.1, by simp, undecided.2.2⟩, follows.opened, by simp⟩
  | endSpawn =>
      simp only [Call.step, running, Option.ite_none_right_eq_some, Option.some.injEq] at stepped
      obtain ⟨spawning, rfl⟩ := stepped
      refine ⟨by simp, by simp, by simpa [running] using follows.resume, ?_, ?_, follows.opened,
        by simp⟩
      · intro spawned
        have captured := follows.closure spawned
        simp only [spawning, reduceCtorEq, and_false, if_false] at captured
        cases keeps <;> simp [captured]
      · exact follows.object.imp_right fun sent => ⟨sent.1, sent.2.1, sent.2.2.append _⟩
  | resume => exact follows.resumed running stepped
  | asyncWait => exact follows.waits running stepped
  | get =>
      have opened := follows.opened
      simp only [Call.step, running, OneShot.Channel.call, opened, Bool.false_eq_true, if_false,
        Option.map_some, Option.ite_none_right_eq_some, Option.some.injEq] at stepped
      obtain ⟨waited, rfl⟩ := stepped
      rcases follows.object with ⟨_, _, waits⟩ | ⟨sent, done, reads⟩
      · simp [waited] at waits
      · refine ⟨follows.queued, by simpa using follows.endSpawn, by simp [done], follows.closure,
          .inr ⟨sent, done, reads.append _⟩, rfl, ?_⟩
        rintro _ ⟨⟩
        exact .inl ⟨by rw [sent, OneShot.Outcome.object], reads.append _⟩

/-- A call says of its steps what it should. -/
theorem Call.follows_of_run (ran : Machine.run (Call.step keeps (some value)) Call.start steps =
    some call) : call.Follows keeps value steps := by
  induction steps using List.reverseRecOn generalizing call with
  | nil =>
      cases ran
      exact Call.start_follows
  | append_singleton steps step inductionHypothesis =>
      obtain ⟨middle, earlier, last⟩ := Machine.run_append.mp ran
      obtain ⟨final, stepped, done⟩ := Machine.run_cons.mp last
      cases done
      exact (inductionHypothesis earlier).step step stepped

/-- A call which came to its end returned the result of its task when the coroutine read its
closure, and is undefined otherwise. -/
theorem Finished.ending_eq {result : Option T} (call : Finished keeps result)
    (some : result = some value) :
    (call.ending = .returned value ∧ ReadsClosure keeps call.steps) ∨
      (call.ending = .undefined ∧ ¬ ReadsClosure keeps call.steps) := by
  subst some
  obtain ⟨steps, ending, final, ran, ended⟩ := call
  exact (Call.follows_of_run ran).ending ending ended

/-! ## Orders of the three threads -/

/-- The ending of a call whose coroutine reads its closure. -/
def Ending.ofResult (result : Option T) : Ending T :=
  result.elim .aborted fun value => .returned (some value)

/-- The coroutine may be resumed before the statement ends; a failed assertion ends the call. -/
theorem exists_finished (keeps : Bool) (result : Option T) :
    ∃ call : Finished keeps result, call.ending = .ofResult result := by
  cases result with
  | none => exact ⟨⟨[.task], .aborted, _, rfl, rfl⟩, rfl⟩
  | some value =>
      exact ⟨⟨[.task, .resume, .asyncWait, .get], .returned (some value), _, rfl, rfl⟩, rfl⟩

/-- It may be resumed behind the end, too. -/
theorem exists_undefined {result : Option T} (some : result = some value) :
    ∃ call : Finished false result, call.ending = .undefined := by
  subst some
  exact ⟨⟨[.task, .endSpawn, .resume], .undefined, _, rfl, rfl⟩, rfl⟩

/-! ## What the two functions return -/

/-- A send returns its flag exactly when the closure is read in time. -/
theorem SendPack.bret_eq {nnop : Int32} {src : Bytes} (call : SendPack keeps nnop src) :
    call.bret = if ReadsClosure keeps call.steps then some (bflag nnop src) else none := by
  rcases call.ending_eq rfl with ⟨returned, reads⟩ | ⟨undefined, late⟩
  · rw [if_pos reads, SendPack.bret, returned]
    rfl
  · rw [if_neg late, SendPack.bret, undefined]

/-- A result of zero is the length of an empty body alone. -/
theorem bflag_zero (src : Bytes) : bflag 0 src = true ↔ src = [] := by
  simp [bflag, eq_comm (a := 0)]

/-- The view of a message is that of the empty message if and only if it has no bytes, and no
assertion is evaluated. -/
theorem received_ofResult_iff {assertions : Bool} {nngRecv : Nat → Bytes → Int32 × Nat}
    (documented : NngRecvDocumented nngRecv) (no : UInt32) (message : Bytes) :
    received (.ofResult (view assertions nngRecv message)) = some (.returned no (some message)) ↔
      assertions = false ∧ no = 0 ∧ message = [] := by
  by_cases empty : message = []
  · subst empty
    have fits := documented 0 [] (Nat.le_refl 0)
    cases assertions <;> simp [view, fits, Ending.ofResult, received, eq_comm]
  · simp only [view, empty, and_false, iff_false]
    split
    · simp [Ending.ofResult, received]
    · intro same
      simp only [Ending.ofResult, Option.elim_some, received, Option.some.injEq,
        NngRecvPack.returned.injEq] at same
      split at same
      · injection same.2 with none
        exact empty none.symm
      · cases same.2

/-- Every order of the threads gives the message if and only if the closure is kept, no assertion is
evaluated, the number is zero and the message has no bytes. -/
theorem received_iff {assertions : Bool} {nngRecv : Nat → Bytes → Int32 × Nat}
    (documented : NngRecvDocumented nngRecv) (no : UInt32) (message : Bytes) :
    (∀ call : RecvPack keeps assertions nngRecv message,
        received call.ending = some (.returned no (some message))) ↔
      keeps = true ∧ assertions = false ∧ no = 0 ∧ message = [] := by
  have fits := documented 0 [] (Nat.le_refl 0)
  constructor
  · intro always
    obtain ⟨call, ended⟩ := exists_finished keeps (view assertions nngRecv message)
    have here := always call
    rw [ended, received_ofResult_iff documented] at here
    refine ⟨?_, here⟩
    obtain ⟨rfl, rfl, rfl⟩ := here
    cases keeps with
    | true => rfl
    | false =>
        have seen : view false nngRecv [] = some 0 := by simp [view, fits]
        obtain ⟨late, undefined⟩ := exists_undefined seen
        have nothing := always late
        simp [undefined, received] at nothing
  · rintro ⟨rfl, rfl, rfl, rfl⟩ call
    have seen : view false nngRecv [] = some 0 := by simp [view, fits]
    rcases call.ending_eq seen with ⟨returned, _⟩ | ⟨_, late⟩
    · rw [returned]
      rfl
    · exact absurd (.inl rfl) late

end SM.Network.ReqImpl
