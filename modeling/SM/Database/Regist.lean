import Mathlib.Data.List.Nodup
import Mathlib.Logic.Function.Basic
import SM.Database.DbCommon
import SM.Lib.Machine

/-!
# Concurrent registrations

`sregist` counts the rows with the name and inserts a row if there is none. The calls run on
several threads, so that the statements of other calls come between the two.
-/

namespace SM.Database

open SM.Inc SM.Lib.Machine SM.Utils

def hasName (username : Bytes) (row : Users) : Bool :=
  row.name = some username

def registRow (req : RegistReq) : Users where
  name := some req.username
  passwd := some req.password
  phone := some req.phone
  expiredate := none

/-- The reply where the name was counted. -/
def nameRepeated (req : RegistReq) : RegistRep :=
  { code := StatusCode.registNameRepeat.toInt, user := req.username }

/-- The reply after the row was inserted, with a token from `jwt::create`. -/
def nameRegistered (token : Bytes) (req : RegistReq) : RegistRep :=
  { user := req.username, token }

/-- `CommonDBProcess::sregist`, with nothing between its statements. -/
def sregist (token : Bytes) (users : List Users) (req : RegistReq) : List Users × RegistRep :=
  if users.countP (hasName req.username) ≠ 0 then (users, nameRepeated req)
  else (users ++ [registRow req], nameRegistered token req)

/-- Where a call stands. -/
inductive RegistStage where
  | idle
  | counted
  | ended (rep : RegistRep)
deriving DecidableEq

/-- The `users` table and the calls by their number. -/
structure Registrations where
  users : List Users
  calls : Nat → RegistStage

/-- A statement of a call; `threw` is one at which the call ended with an exception. -/
inductive Statement where
  | count (number : Nat)
  | insert (number : Nat)
  | threw (number : Nat)
deriving DecidableEq

def Statement.number : Statement → Nat
  | count number | insert number | threw number => number

namespace Registrations

variable (token : Bytes) (requests : Nat → RegistReq)

def put (state : Registrations) (number : Nat) (stage : RegistStage) : Registrations :=
  { state with calls := Function.update state.calls number stage }

def insertUser (state : Registrations) (req : RegistReq) : Registrations :=
  { state with users := state.users ++ [registRow req] }

/-- One statement of one call. `ROUTER_DBT2` replies `sqlExecuteFailed` for a call that threw. -/
def step (state : Registrations) : Statement → Option Registrations
  | .count number =>
      let req := requests number
      match state.calls number with
      | .idle =>
          if state.users.countP (hasName req.username) ≠ 0 then
            some (state.put number (.ended (nameRepeated req)))
          else some (state.put number .counted)
      | _ => none
  | .insert number =>
      let req := requests number
      match state.calls number with
      | .counted =>
          some ((state.insertUser req).put number (.ended (nameRegistered token req)))
      | _ => none
  | .threw number =>
      match state.calls number with
      | .idle | .counted =>
          some (state.put number (.ended { code := StatusCode.sqlExecuteFailed.toInt }))
      | .ended _ => none

section Steps

variable {token : Bytes} {requests : Nat → RegistReq} {state next final : Registrations}
  {statement : Statement} {statements : List Statement} {number : Nat} {stage : RegistStage}

/-- Another stage of a call leaves the rows as they are. -/
@[simp] theorem put_users : (state.put number stage).users = state.users :=
  rfl

/-- The stage which was set is the stage of the call. -/
@[simp] theorem put_calls_self : (state.put number stage).calls number = stage :=
  Function.update_self ..

/-- The stages of the other calls stay. -/
theorem put_calls_of_ne {other : Nat} (different : other ≠ number) :
    (state.put number stage).calls other = state.calls other :=
  Function.update_of_ne different ..

/-- What a statement needs and does. -/
inductive Stepped (token : Bytes) (requests : Nat → RegistReq) (state : Registrations) :
    Statement → Registrations → Prop where
  | repeated (number : Nat) (idle : state.calls number = .idle)
      (present : state.users.countP (hasName (requests number).username) ≠ 0) :
      Stepped token requests state (.count number)
        (state.put number (.ended (nameRepeated (requests number))))
  | counted (number : Nat) (idle : state.calls number = .idle)
      (absent : state.users.countP (hasName (requests number).username) = 0) :
      Stepped token requests state (.count number) (state.put number .counted)
  | inserted (number : Nat) (counted : state.calls number = .counted) :
      Stepped token requests state (.insert number)
        ((state.insertUser (requests number)).put number
          (.ended (nameRegistered token (requests number))))
  | threw (number : Nat) (running : state.calls number = .idle ∨ state.calls number = .counted) :
      Stepped token requests state (.threw number)
        (state.put number (.ended { code := StatusCode.sqlExecuteFailed.toInt }))

/-- What each statement does and when it is enabled. -/
theorem stepped (taken : step token requests state statement = some next) :
    Stepped token requests state statement next := by
  cases statement with
  | count number =>
      unfold step at taken
      cases stands : state.calls number with
      | idle =>
          simp only [stands] at taken
          split at taken
          · next present =>
              cases taken
              exact .repeated number stands present
          · next absent =>
              cases taken
              exact .counted number stands (not_not.mp absent)
      | counted => simp [stands] at taken
      | ended rep => simp [stands] at taken
  | insert number =>
      unfold step at taken
      cases stands : state.calls number with
      | idle => simp [stands] at taken
      | counted =>
          simp only [stands] at taken
          cases taken
          exact .inserted number stands
      | ended rep => simp [stands] at taken
  | threw number =>
      unfold step at taken
      cases stands : state.calls number with
      | idle =>
          simp only [stands] at taken
          cases taken
          exact .threw number (.inl stands)
      | counted =>
          simp only [stands] at taken
          cases taken
          exact .threw number (.inr stands)
      | ended rep => simp [stands] at taken

/-- A statement of a call leaves the other calls where they are. -/
theorem calls_of_ne (taken : step token requests state statement = some next)
    (different : number ≠ statement.number) : next.calls number = state.calls number := by
  cases stepped taken with
  | repeated | counted | inserted | threw => exact put_calls_of_ne different

/-- A call which has ended takes no further statement. -/
theorem not_ended (taken : step token requests state statement = some next) (rep : RegistRep) :
    state.calls statement.number ≠ .ended rep := by
  intro done
  cases stepped taken with
  | repeated other stands | counted other stands | inserted other stands =>
      cases stands.symm.trans done
  | threw other running =>
      rcases running with stands | stands <;> cases stands.symm.trans done

/-- A call that ended stays so. -/
theorem ended_step {rep : RegistRep} (done : state.calls number = .ended rep)
    (taken : step token requests state statement = some next) :
    next.calls number = .ended rep := by
  by_cases same : number = statement.number
  · subst same
    exact absurd done (not_ended taken rep)
  · exact (calls_of_ne taken same).trans done

/-- A call which has ended stays so in every run. -/
theorem ended_run {rep : RegistRep} (done : state.calls number = .ended rep)
    (ran : run (step token requests) state statements = some final) :
    final.calls number = .ended rep :=
  run_invariant (fun state => state.calls number = .ended rep) (fun _ => True)
    (fun done _ taken => ended_step done taken) done ran (fun _ _ => trivial)

/-- A call between whose statements nothing happens does what `sregist` does. -/
theorem sregist_alone (idle : state.calls number = .idle) :
    ∃ statements final, run (step token requests) state statements = some final ∧
      final.users = (sregist token state.users (requests number)).1 ∧
      final.calls number = .ended (sregist token state.users (requests number)).2 := by
  by_cases present : state.users.countP (hasName (requests number).username) ≠ 0
  · have repeated : step token requests state (.count number) =
        some (state.put number (.ended (nameRepeated (requests number)))) := by
      simp only [step, idle, if_pos present]
    refine ⟨[.count number], _, run_cons.mpr ⟨_, repeated, rfl⟩, ?_⟩
    simp only [sregist, if_pos present, put_users, put_calls_self, and_self]
  · have counted : step token requests state (.count number) =
        some (state.put number .counted) := by
      simp only [step, idle, if_neg present]
    have inserted : step token requests (state.put number .counted) (.insert number) =
        some (((state.put number .counted).insertUser (requests number)).put number
          (.ended (nameRegistered token (requests number)))) := by
      simp only [step, put_calls_self]
    refine ⟨[.count number, .insert number], _,
      run_cons.mpr ⟨_, counted, run_cons.mpr ⟨_, inserted, rfl⟩⟩, ?_⟩
    simp only [sregist, if_neg present, insertUser, put_users, put_calls_self, and_self]

end Steps

/-! ## Names -/

section Names

variable {token : Bytes} {requests : Nat → RegistReq} {start state next final : Registrations}
  {statement : Statement} {statements : List Statement} {number : Nat} {name : Bytes}

/-- The names in the table. -/
def names (users : List Users) : List Bytes :=
  users.filterMap (·.name)

/-- No row is counted exactly when the name is not in use. -/
theorem countP_hasName (users : List Users) (username : Bytes) :
    users.countP (hasName username) = 0 ↔ username ∉ names users := by
  rw [List.countP_eq_zero, names, List.mem_filterMap]
  simp [hasName]

/-- An inserted row adds its name behind the others. -/
theorem names_insertUser (state : Registrations) (req : RegistReq) :
    names (state.insertUser req).users = names state.users ++ [req.username] := by
  simp [names, insertUser, registRow]

/-- Only an insert adds a name. -/
theorem names_step (taken : step token requests state statement = some next) :
    (∃ number, statement = .insert number ∧
      names next.users = names state.users ++ [(requests number).username]) ∨
    ((∀ number, statement ≠ .insert number) ∧ next.users = state.users) := by
  cases stepped taken with
  | inserted number => exact .inl ⟨number, rfl, names_insertUser ..⟩
  | repeated | counted | threw => exact .inr ⟨nofun, rfl⟩

/-- The names after a run are those before it and those inserted in it. -/
theorem mem_names_run (ran : run (step token requests) state statements = some final) :
    name ∈ names final.users ↔ name ∈ names state.users ∨
      ∃ number, .insert number ∈ statements ∧ (requests number).username = name := by
  induction statements generalizing state with
  | nil =>
      cases ran
      simp
  | cons statement statements inductionHypothesis =>
      obtain ⟨next, taken, ran⟩ := run_cons.mp ran
      rw [inductionHypothesis ran]
      rcases names_step taken with ⟨number, rfl, added⟩ | ⟨other, same⟩
      · have first : (∃ other, Statement.insert other ∈ .insert number :: statements ∧
            (requests other).username = name) ↔ (requests number).username = name ∨
            ∃ other, .insert other ∈ statements ∧ (requests other).username = name := by
          simp [or_and_right, exists_or]
        rw [added, List.mem_append, List.mem_singleton, first, or_assoc, @eq_comm _ name]
      · have rest : ∀ number, .insert number ∈ statement :: statements ↔
            .insert number ∈ statements := by
          intro number
          simp [List.mem_cons, Ne.symm (other number)]
        simp only [same, rest]

/-- A call that has counted did so in the run, when its name was not in the table. -/
theorem exists_count (idle : start.calls number = .idle)
    (ran : run (step token requests) start statements = some final)
    (counted : final.calls number = .counted) :
    ∃ earlier between before, statements = earlier ++ .count number :: between ∧
      run (step token requests) start earlier = some before ∧
      (requests number).username ∉ names before.users ∧
      run (step token requests) (before.put number .counted) between = some final := by
  induction statements generalizing start with
  | nil =>
      cases ran
      rw [idle] at counted
      cases counted
  | cons statement statements inductionHypothesis =>
      obtain ⟨next, taken, ran⟩ := run_cons.mp ran
      by_cases own : number = statement.number
      · subst own
        cases stepped taken with
        | repeated other stands present =>
            have done := ended_run put_calls_self ran
            cases done.symm.trans counted
        | counted other stands absent =>
            exact ⟨[], statements, start, rfl, rfl, (countP_hasName ..).mp absent, ran⟩
        | inserted other stands => cases idle.symm.trans stands
        | threw other running =>
            have done := ended_run put_calls_self ran
            cases done.symm.trans counted
      · have stands := (calls_of_ne taken own).trans idle
        obtain ⟨earlier, between, before, rfl, first, absent, rest⟩ :=
          inductionHypothesis stands ran
        exact ⟨statement :: earlier, between, before, rfl,
          run_cons.mpr ⟨next, taken, first⟩, absent, rest⟩

end Names

/-! ## Unique names -/

section Unique

variable {token : Bytes} {requests : Nat → RegistReq} {start state next final : Registrations}
  {statement : Statement} {statements : List Statement} {number : Nat}

/-- No two rows have the same name. -/
def UniqueNames (state : Registrations) : Prop :=
  (names state.users).Nodup

/-- The statement inserts no name that is in the table. -/
def Fresh (requests : Nat → RegistReq) (state : Registrations) (statement : Statement) : Prop :=
  ∀ number, statement = .insert number → (requests number).username ∉ names state.users

/-- A step keeps the names unique exactly when an inserted name is new. -/
theorem uniqueNames_step (unique : UniqueNames state)
    (taken : step token requests state statement = some next) :
    UniqueNames next ↔ Fresh requests state statement := by
  unfold UniqueNames Fresh
  rcases names_step taken with ⟨number, rfl, added⟩ | ⟨other, same⟩
  · have before : (names state.users).Nodup := unique
    rw [added, ← List.concat_eq_append, List.nodup_concat, and_iff_left before]
    constructor
    · intro absent other inserts
      cases inserts
      exact absent
    · intro fresh
      exact fresh number rfl
  · rw [same]
    exact iff_of_true unique fun number inserts => absurd inserts (other number)

/-- No call inserts its name between the count and the insert of another call with that name. -/
def Undisturbed (requests : Nat → RegistReq) (statements : List Statement) : Prop :=
  ∀ earlier between later number,
    statements = earlier ++ .count number :: (between ++ .insert number :: later) →
      ∀ other, .insert other ∈ between → (requests other).username ≠ (requests number).username

/-- Where no call comes between the statements of another with its name, every inserted name is
new. -/
theorem fresh_of_undisturbed (idle : ∀ number, start.calls number = .idle)
    (undisturbed : Undisturbed requests statements)
    (ran : run (step token requests) start statements = some final) :
    Every (step token requests) (Fresh requests) start statements := by
  apply every_iff_split.mpr
  rintro earlier statement later reached rfl here number rfl present
  obtain ⟨middle, again, rest⟩ := run_append.mp ran
  cases here.symm.trans again
  obtain ⟨next, taken, -⟩ := run_cons.mp rest
  cases stepped taken with
  | inserted number counted =>
      obtain ⟨first, between, before, rfl, -, absent, ranBetween⟩ :=
        exists_count (idle number) here counted
      rcases (mem_names_run ranBetween).mp present with old | ⟨other, inserts, same⟩
      · exact absent old
      · refine undisturbed first between later number ?_ other inserts same
        rw [List.append_assoc, List.cons_append]

/-- Where every inserted name is new, no call came between the statements of another with its
name. -/
theorem undisturbed_of_fresh
    (ran : run (step token requests) start statements = some final)
    (every : Every (step token requests) (Fresh requests) start statements) :
    Undisturbed requests statements := by
  rintro earlier between later number rfl other inserts same
  rw [List.append_cons, ← List.append_assoc] at ran every
  obtain ⟨reached, here, -⟩ := run_append.mp ran
  have fresh := every_iff_split.mp every _ _ _ reached rfl here number rfl
  obtain ⟨before, -, ranBetween⟩ := run_append.mp here
  exact fresh ((mem_names_run ranBetween).mpr (.inr ⟨other, inserts, same⟩))

/-- The reply of a call that ended says that the name is there already. -/
def ReportsRepeat (stage : RegistStage) : Prop :=
  ∃ rep, stage = .ended rep ∧ rep.code = StatusCode.registNameRepeat.toInt

/-- No statement of a call that in the end reports a repeated name changes the table. -/
def RepeatsUnchanged (token : Bytes) (requests : Nat → RegistReq) (start : Registrations)
    (statements : List Statement) : Prop :=
  ∀ earlier statement later before next final, statements = earlier ++ statement :: later →
    run (step token requests) start earlier = some before →
    step token requests before statement = some next →
    run (step token requests) next later = some final →
    ReportsRepeat (final.calls statement.number) → next.users = before.users

/-- A call that inserts ends with `ok`. -/
theorem repeatsUnchanged (token : Bytes) (requests : Nat → RegistReq) (start : Registrations)
    (statements : List Statement) : RepeatsUnchanged token requests start statements := by
  rintro earlier statement later before next final - - taken ran ⟨rep, done, repeated⟩
  cases stepped taken with
  | repeated | counted | threw => rfl
  | inserted number counted =>
      cases done.symm.trans (ended_run put_calls_self ran)
      exact absurd ((StatusCode.toInt_inj .ok .registNameRepeat).mp repeated) nofun

/-- Names stay unique, and calls that report a repeated name change nothing. -/
structure NamesKept (token : Bytes) (requests : Nat → RegistReq) (start : Registrations)
    (statements : List Statement) : Prop where
  unique : Throughout (step token requests) UniqueNames start statements
  unchanged : RepeatsUnchanged token requests start statements

/-- In every run from unique names the names stay unique if and only if no call inserts its name
between the count and the insertion of another call with that name. -/
theorem namesKept_iff (token : Bytes) (requests : Nat → RegistReq)
    {start final : Registrations} {statements : List Statement}
    (idle : ∀ number, start.calls number = .idle) (unique : UniqueNames start)
    (ran : run (step token requests) start statements = some final) :
    NamesKept token requests start statements ↔ Undisturbed requests statements := by
  have tracked : Throughout (step token requests) UniqueNames start statements ↔
      Every (step token requests) (Fresh requests) start statements :=
    throughout_iff_every (fun _ => True) UniqueNames (Fresh requests) (fun _ _ _ => trivial)
      (fun _ unique taken => uniqueNames_step unique taken) trivial unique ran
  constructor
  · intro kept
    exact undisturbed_of_fresh ran (tracked.mp kept.unique)
  · intro undisturbed
    exact ⟨tracked.mpr (fresh_of_undisturbed idle undisturbed ran),
      repeatsUnchanged token requests start statements⟩

/-- Two calls register different names at the same time, and a third one finds its name taken. -/
theorem namesKept_iff_three :
    let requests (index : Nat) : RegistReq := ⟨if index = 2 then [98] else [97], [], [], []⟩
    let statements : List Statement := [.count 0, .count 2, .insert 0, .count 1, .insert 2]
    NamesKept [] requests ⟨[], fun _ => .idle⟩ statements ↔ Undisturbed requests statements :=
  namesKept_iff [] _ (fun _ => rfl) List.nodup_nil rfl

/-- Two calls with the same name both count before either inserts. -/
theorem namesKept_fails : ¬ NamesKept [] (fun _ => ⟨[97], [], [], []⟩) ⟨[], fun _ => .idle⟩
    [.count 0, .count 1, .insert 0, .insert 1] := by
  intro kept
  have unique := kept.unique [.count 0, .count 1, .insert 0, .insert 1] [] _ rfl rfl
  revert unique
  unfold UniqueNames
  decide

end Unique

end Registrations

end SM.Database
