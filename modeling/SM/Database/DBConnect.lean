import SM.Database.DBConnectManager

/-!
# Queries over TCP and over nng

`DBConnectTCP` and `DBConnectNNG` both send a query over a channel and wait for its reply.
`DBConnectTCP` counts every failed attempt twice, so that it makes one; `DBConnectNNG` never sets
the flag that it returns.
-/

namespace SM.Database

open SM.Network SM.Utils

/-- How one attempt to get a channel and to use its `reqrep` ends. -/
inductive Attempt where
  | noChannel
  | threw
  | null
  | reply (text : Bytes)
deriving DecidableEq

/-- The value returned, `rep` afterwards, and the attempts made. -/
structure ExecEnd where
  succ : Bool
  rep : Bytes
  attempts : Nat
deriving DecidableEq

/-- The loop of `DBConnectTCP::_execQuery` over the attempts to come. -/
def DBConnectTCP.execLoop (outcome : Nat → Attempt) (rep : Bytes) (trycount attempts : Nat) :
    ExecEnd :=
  if trycount + 1 < 3 then
    match outcome attempts with
    | .noChannel | .threw => ⟨false, rep, attempts + 1⟩
    | .reply text => ⟨true, text, attempts + 1⟩
    | .null => execLoop outcome rep (trycount + 1 + 1) (attempts + 1)
  else ⟨false, rep, attempts⟩
termination_by 3 - trycount

/-- `DBConnectTCP::_execQuery`, with the outcomes of the attempts for each request. -/
def DBConnectTCP.execQuery (outcome : Bytes → Nat → Attempt) (req rep : Bytes) : ExecEnd :=
  execLoop (outcome req) rep 0 0

/-- `DBConnectNNG::_execQuery`. -/
def DBConnectNNG.execQuery (outcome : Bytes → Nat → Attempt) (req rep : Bytes) : ExecEnd :=
  match outcome req 0 with
  | .noChannel | .threw | .null => ⟨false, rep, 1⟩
  | .reply text => ⟨false, text, 1⟩

inductive DBMethod where
  | tcp
  | nng
deriving DecidableEq

def execQuery (outcome : Bytes → Nat → Attempt) (req rep : Bytes) : DBMethod → ExecEnd
  | .tcp => DBConnectTCP.execQuery outcome req rep
  | .nng => DBConnectNNG.execQuery outcome req rep

/-- `executeQuery` from the request that it has packed on. -/
def executeQuery (outcome : Bytes → Nat → Attempt) (packer : PlatformPack) (pstrreq : Bytes)
    (method : DBMethod) : QueryEnd :=
  let ended := execQuery outcome pstrreq [] method
  finishQuery packer (if ended.succ then some ended.rep else none)

variable {outcome : Bytes → Nat → Attempt} {req rep : Bytes} {method : DBMethod}

/-- The loop of the TCP connection makes one attempt, whatever comes of it. -/
theorem DBConnectTCP.execQuery_eq : DBConnectTCP.execQuery outcome req rep =
    match outcome req 0 with
    | .noChannel | .threw | .null => ⟨false, rep, 1⟩
    | .reply text => ⟨true, text, 1⟩ := by
  rw [execQuery, execLoop, if_pos (by decide)]
  cases outcome req 0 with
  | noChannel => rfl
  | threw => rfl
  | reply text => rfl
  | null =>
      -- The second increment takes the counter to the limit.
      rw [execLoop, if_neg (by decide)]

/-- True with the reply when an attempt got one, and otherwise false with `rep` as it was. -/
def Meets (outcome : Nat → Attempt) (rep : Bytes) (ended : ExecEnd) : Prop :=
  (∃ index < ended.attempts, ∃ text, outcome index = .reply text ∧ ended.succ = true ∧
      ended.rep = text) ∨
    (∀ index < ended.attempts, ∀ text, outcome index ≠ .reply text) ∧ ended.succ = false ∧
      ended.rep = rep

/-- Both ways to the database do with a request what they should, and the same. -/
structure Agree (outcome : Bytes → Nat → Attempt) (req rep : Bytes) : Prop where
  meets : ∀ method, Meets (outcome req) rep (execQuery outcome req rep method)
  flag : (execQuery outcome req rep .tcp).succ = (execQuery outcome req rep .nng).succ
  text : (execQuery outcome req rep .tcp).rep = (execQuery outcome req rep .nng).rep
  query : ∀ packer, executeQuery outcome packer req .tcp = executeQuery outcome packer req .nng

/-- An attempt without a reply leaves both ways as they were. -/
theorem execQuery_of_no_reply (none : ∀ text, outcome req 0 ≠ .reply text) :
    execQuery outcome req rep method = ⟨false, rep, 1⟩ := by
  cases method with
  | tcp =>
      rw [execQuery, DBConnectTCP.execQuery_eq]
      cases first : outcome req 0 with
      | reply text => exact absurd first (none text)
      | noChannel | threw | null => rfl
  | nng =>
      rw [execQuery, DBConnectNNG.execQuery]
      cases first : outcome req 0 with
      | reply text => exact absurd first (none text)
      | noChannel | threw | null => rfl

/-- The two ways to the database agree if and only if there is no reply. -/
theorem agree_iff (outcome : Bytes → Nat → Attempt) (req rep : Bytes) :
    Agree outcome req rep ↔ ∀ text, outcome req 0 ≠ .reply text := by
  constructor
  · intro agree text reply
    have same := agree.flag
    rw [execQuery, execQuery, DBConnectTCP.execQuery_eq, DBConnectNNG.execQuery, reply] at same
    cases same
  · intro none
    have same : ∀ method rep, execQuery outcome req rep method = ⟨false, rep, 1⟩ :=
      fun method rep => execQuery_of_no_reply none
    refine ⟨?_, ?_, ?_, ?_⟩
    · intro method
      rw [same]
      refine .inr ⟨?_, rfl, rfl⟩
      intro index first
      rw [Nat.lt_one_iff.mp first]
      exact none
    · rw [same, same]
    · rw [same, same]
    · intro packer
      rw [executeQuery, executeQuery, same, same]

/-- With a reply the query fails over nng alone. -/
theorem agree_fails :
    DBConnectTCP.execQuery (fun _ _ => .reply [65]) [1] [] = ⟨true, [65], 1⟩ ∧
      DBConnectNNG.execQuery (fun _ _ => .reply [65]) [1] [] = ⟨false, [65], 1⟩ ∧
      ∃ packer, executeQuery (fun _ _ => .reply [65]) packer [1] .tcp = .parsing [65] ∧
        executeQuery (fun _ _ => .reply [65]) packer [1] .nng = .execFailed := by
  refine ⟨DBConnectTCP.execQuery_eq, rfl, .noMainAss 6, ?_, rfl⟩
  rw [executeQuery, execQuery, DBConnectTCP.execQuery_eq]
  rfl

end SM.Database
