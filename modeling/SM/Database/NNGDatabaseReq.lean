import Mathlib.Data.List.Basic
import SM.Utils.PackInt

/-!
# Queries over nng

`NNGDatabaseReq::query` makes three turns through a request and its reply. A turn that succeeds
does not end the loop, and `_disconnect` leaves `_connected` set, so no turn opens the socket again:
`query_retries_iff`.
-/

namespace SM.Database

open SM.Utils

/-- What a call into nng gives: whether it returned zero, and the socket or the bytes it filled
in. -/
structure NngOutcome where
  ok : Bool
  sock : Nat := 0
  bytes : Bytes := []

inductive NngCall where
  | req0Open
  | dialerCreate (sock : Nat) (addr : String)
  | dialerStart
  | close (sock : Nat)
  | send (sock : Nat) (strreq : Bytes)
  | recv (sock : Nat)
  /-- A buffer is known by the place in the log at which it was received. -/
  | free (buffer : Nat)
deriving DecidableEq

/-- A call, and whether it failed where its result is read. -/
structure NngLogged where
  call : NngCall
  ok : Bool := true
deriving DecidableEq

structure NngBuffer where
  place : Nat
  bytes : Bytes
deriving DecidableEq

/-- `NNG_SOCKET_INITIALIZER` is the socket 0. -/
structure NNGDatabaseReq where
  connected : Bool := false
  ip : String
  port : UInt16
  sock : Nat := 0
deriving DecidableEq

/-- The object within a query, with the calls that the query has made. -/
structure NngQuery extends NNGDatabaseReq where
  log : List NngLogged := []
deriving DecidableEq

namespace NngQuery

/-- A call whose result is read. The outcomes are given by their places in the log. -/
def perform (outcomes : Nat → NngOutcome) (call : NngCall) (query : NngQuery) :
    NngOutcome × NngQuery :=
  let outcome := outcomes query.log.length
  (outcome, { query with log := query.log ++ [⟨call, outcome.ok⟩] })

/-- A call whose result is not read. -/
def note (call : NngCall) (query : NngQuery) : NngQuery :=
  { query with log := query.log ++ [⟨call, true⟩] }

def closeSock (query : NngQuery) : NngQuery :=
  { query.note (.close query.sock) with sock := 0 }

def connect (outcomes : Nat → NngOutcome) (query : NngQuery) : Bool × NngQuery :=
  let bret := query.connected
  if bret then (bret, query)
  else
    let addr := "tcp://" ++ query.ip ++ ":" ++ toString query.port
    let (opened, query) := query.perform outcomes .req0Open
    if opened.ok then
      let query := { query with sock := opened.sock }
      let (created, query) := query.perform outcomes (.dialerCreate query.sock addr)
      if created.ok then
        let (started, query) := query.perform outcomes .dialerStart
        if started.ok then (true, query) else (bret, query.closeSock)
      else (bret, query.closeSock)
    else (bret, query)

/-- `_connected` stays as it is. -/
def disconnect (query : NngQuery) : NngQuery :=
  if query.connected then query.closeSock else query

/-- One turn of the loop of `_send_recv`: `pt` and the object afterwards. -/
def turn (outcomes : Nat → NngOutcome) (strreq : Bytes) (pt : Option NngBuffer)
    (query : NngQuery) : Option NngBuffer × NngQuery :=
  let (_, query) := query.connect outcomes
  let (sent, query) := query.perform outcomes (.send query.sock strreq)
  if sent.ok then
    let place := query.log.length
    let (received, query) := query.perform outcomes (.recv query.sock)
    -- The loop goes on after a reply, whose buffer the next reply replaces.
    if received.ok then (some ⟨place, received.bytes⟩, query) else (pt, query.disconnect)
  else (pt, query.disconnect)

def turns (outcomes : Nat → NngOutcome) (strreq : Bytes) :
    Nat → Option NngBuffer → NngQuery → Option NngBuffer × NngQuery
  | 0, pt, query => (pt, query)
  | count + 1, pt, query =>
      let (pt, query) := query.turn outcomes strreq pt
      turns outcomes strreq count pt query

/-- The value of `_retry`. -/
def retry : Nat := 3

def sendRecv (outcomes : Nat → NngOutcome) (strreq : Bytes) (query : NngQuery) :
    Option NngBuffer × NngQuery :=
  query.turns outcomes strreq retry none

end NngQuery

/-- What `query` returns, the reply, what `_send_recv` returned, and the object with the calls. -/
structure NngQueryEnd (Rep : Type) where
  bret : Bool
  rep : Rep
  recvblock : Option NngBuffer
  query : NngQuery

/-- The reply is parsed also where the pointer is null. -/
def NNGDatabaseReq.query {Rep : Type} (parse : Option Bytes → Rep → Bool × Rep)
    (outcomes : Nat → NngOutcome) (strreq : Bytes) (rep : Rep) (object : NNGDatabaseReq) :
    NngQueryEnd Rep :=
  let query : NngQuery := { object with log := [] }
  let (connected, query) := query.connect outcomes
  let query := { query with connected }
  if connected then
    let (ptrecv, query) := query.sendRecv outcomes strreq
    let (bret, rep) := parse (ptrecv.map (·.bytes)) rep
    match ptrecv with
    | some buffer =>
        { bret, rep, recvblock := ptrecv, query := query.note (.free buffer.place) }
    | none => { bret, rep, recvblock := ptrecv, query }
  else { bret := false, rep, recvblock := none, query }

/-! ## Exchanges -/

/-- `nng_recv` succeeded at this place of the log. -/
def Received (log : List NngLogged) (place : Nat) : Prop :=
  ∃ sock, log[place]? = some ⟨.recv sock, true⟩

def NngCall.IsSend : NngCall → Prop
  | .send .. => True
  | _ => False

def NngCall.IsRecv : NngCall → Prop
  | .recv _ => True
  | _ => False

/-- A request is answered once at most, what was received is returned or freed, and no request
follows a failed call on the same socket. -/
structure Retries (log : List NngLogged) (recvblock : Option NngBuffer) : Prop where
  once : ∀ first second, Received log first → Received log second → first = second
  returned : ∀ place, recvblock.map (·.place) = some place ↔ Received log place
  released : ∀ place, Received log place →
    recvblock.map (·.place) = some place ∨ ∃ entry ∈ log, entry.call = .free place
  reopened : ∀ before failed between sent after,
    log = before ++ failed :: (between ++ sent :: after) →
    failed.ok = false → failed.call.IsSend ∨ failed.call.IsRecv → sent.call.IsSend →
    (∀ entry ∈ between, ¬ entry.call.IsSend) → ∃ entry ∈ between, entry.call = .req0Open

/-- How a turn ends on an object that is connected. -/
inductive TurnEnd where
  | answered
  | unanswered
  | unsent
deriving DecidableEq

namespace TurnEnd

/-- The calls of a turn on a socket. -/
def entries (sock : Nat) (strreq : Bytes) : TurnEnd → List NngLogged
  | .answered => [⟨.send sock strreq, true⟩, ⟨.recv sock, true⟩]
  | .unanswered => [⟨.send sock strreq, true⟩, ⟨.recv sock, false⟩, ⟨.close sock, true⟩]
  | .unsent => [⟨.send sock strreq, false⟩, ⟨.close sock, true⟩]

/-- The socket after a turn, closed where a call failed. -/
def sock (before : Nat) : TurnEnd → Nat
  | .answered => before
  | .unanswered | .unsent => 0

/-- The calls of some turns, the first of them on the given socket. -/
def allEntries (strreq : Bytes) : Nat → List TurnEnd → List NngLogged
  | _, [] => []
  | before, turnEnd :: ends =>
      turnEnd.entries before strreq ++ allEntries strreq (turnEnd.sock before) ends

end TurnEnd

namespace NngQuery

variable (outcomes : Nat → NngOutcome) {query : NngQuery}

/-- A connected socket stays as it is. -/
theorem connect_of_connected (connected : query.connected = true) :
    query.connect outcomes = (true, query) := by
  rw [connect, connected]
  rfl

/-- On a connected object a turn sends on the socket which the turn before has left. -/
theorem turn_of_connected (connected : query.connected = true) (strreq : Bytes)
    (pt : Option NngBuffer) :
    ∃ turnEnd : TurnEnd, (query.turn outcomes strreq pt).2 =
      { query with
        sock := turnEnd.sock query.sock
        log := query.log ++ turnEnd.entries query.sock strreq } := by
  simp only [turn, connect_of_connected outcomes connected, perform, disconnect, connected, if_true]
  cases sent : (outcomes query.log.length).ok with
  | false => exact ⟨.unsent, by simp [closeSock, note, TurnEnd.sock, TurnEnd.entries, connected]⟩
  | true =>
      cases received : (outcomes
          (query.log ++ [NngLogged.mk (.send query.sock strreq) true]).length).ok with
      | false =>
          exact ⟨.unanswered, by
            simp [closeSock, note, TurnEnd.sock, TurnEnd.entries, connected]⟩
      | true =>
          refine ⟨.answered, ?_⟩
          simp only [if_true, TurnEnd.sock, TurnEnd.entries, List.append_assoc,
            List.cons_append, List.nil_append]
          rw [← connected]

/-- On a connected socket each turn adds the entries of one end to the log. -/
theorem turns_of_connected (connected : query.connected = true) (strreq : Bytes) (count : Nat)
    (pt : Option NngBuffer) :
    ∃ ends : List TurnEnd, ends.length = count ∧ (query.turns outcomes strreq count pt).2.log =
      query.log ++ TurnEnd.allEntries strreq query.sock ends := by
  induction count generalizing query pt with
  | zero => exact ⟨[], rfl, (List.append_nil _).symm⟩
  | succ count inductionHypothesis =>
      obtain ⟨turnEnd, turned⟩ := turn_of_connected outcomes connected strreq pt
      have still : (query.turn outcomes strreq pt).2.connected = true := by
        rw [turned]
        exact connected
      obtain ⟨ends, length, logged⟩ :=
        inductionHypothesis still (query.turn outcomes strreq pt).1
      refine ⟨turnEnd :: ends, congrArg (· + 1) length, ?_⟩
      rw [turns]
      dsimp only
      rw [logged, turned, List.append_assoc]
      rfl

end NngQuery

/-- A turn begins with a request. -/
theorem TurnEnd.exists_send (turnEnd : TurnEnd) (sock : Nat) (strreq : Bytes) :
    ∃ sent rest, turnEnd.entries sock strreq = ⟨.send sock strreq, sent⟩ :: rest := by
  cases turnEnd <;> exact ⟨_, _, rfl⟩

section Violations

variable {strreq : Bytes} {sock next : Nat} {before after : List NngLogged}
  {recvblock : Option NngBuffer}

/-- After a failed call, the next request is sent without a new socket. -/
theorem not_retries_of_failed {turnEnd later : TurnEnd} (failed : turnEnd ≠ .answered) :
    ¬ Retries (before ++ (turnEnd.entries sock strreq ++ (later.entries next strreq ++ after)))
      recvblock := by
  intro retries
  obtain ⟨sent, rest, entries⟩ := later.exists_send next strreq
  rw [entries] at retries
  have closed (before : List NngLogged) (call : NngCall) (tried : call.IsSend ∨ call.IsRecv)
      (retries : Retries (before ++ ⟨call, false⟩ ::
        ([⟨.close sock, true⟩] ++ ⟨.send next strreq, sent⟩ :: (rest ++ after))) recvblock) :
      False := by
    obtain ⟨entry, member, opened⟩ := retries.reopened before _ _ _ _ rfl rfl tried trivial (by
      intro entry member
      rw [List.mem_singleton.mp member]
      exact id)
    rw [List.mem_singleton.mp member] at opened
    cases opened
  cases turnEnd with
  | answered => exact failed rfl
  | unanswered =>
      apply closed (before ++ [⟨.send sock strreq, true⟩]) (.recv sock) (.inr trivial)
      rw [List.append_assoc]
      exact retries
  | unsent => exact closed before (.send sock strreq) (.inl trivial) retries

/-- After an answer, the request is sent again. -/
theorem not_retries_of_answered :
    ¬ Retries (before ++ (TurnEnd.answered.entries sock strreq ++
      (TurnEnd.answered.entries next strreq ++ after))) recvblock := by
  intro retries
  have first : Received (before ++ (TurnEnd.answered.entries sock strreq ++
      (TurnEnd.answered.entries next strreq ++ after))) (before.length + 1) := by
    refine ⟨sock, ?_⟩
    rw [List.getElem?_append_right (Nat.le_add_right _ _), Nat.add_sub_cancel_left]
    rfl
  have second : Received (before ++ (TurnEnd.answered.entries sock strreq ++
      (TurnEnd.answered.entries next strreq ++ after))) (before.length + 3) := by
    refine ⟨next, ?_⟩
    rw [List.getElem?_append_right (Nat.le_add_right _ _), Nat.add_sub_cancel_left]
    rfl
  have same := retries.once _ _ first second
  omega

end Violations

/-- A log without calls of send and recv shows no retry. -/
theorem retries_of_quiet {log : List NngLogged}
    (quiet : ∀ entry ∈ log, ¬ entry.call.IsSend ∧ ¬ entry.call.IsRecv) : Retries log none := by
  have nothing (place : Nat) : ¬ Received log place := by
    rintro ⟨sock, found⟩
    exact (quiet _ (List.mem_of_getElem? found)).2 trivial
  refine ⟨?_, ?_, ?_, ?_⟩
  · exact fun first _ received _ => absurd received (nothing first)
  · intro place
    exact ⟨nofun, fun received => absurd received (nothing place)⟩
  · exact fun place received => absurd received (nothing place)
  · rintro before failed between sent after rfl - - request -
    exact absurd request (quiet sent (by simp)).1

namespace NngQuery

variable (outcomes : Nat → NngOutcome)

/-- Connecting neither sends nor receives, and fails where one of its three calls does. -/
theorem connect_spec (object : NNGDatabaseReq) :
    ((NngQuery.connect outcomes { object with log := [] }).1 = false ↔
        object.connected = false ∧ ∃ step < 3, (outcomes step).ok = false) ∧
      ∀ entry ∈ (NngQuery.connect outcomes { object with log := [] }).2.log,
        ¬ entry.call.IsSend ∧ ¬ entry.call.IsRecv := by
  have steps (property : Nat → Prop) :
      (∃ step < 3, property step) ↔ property 0 ∨ property 1 ∨ property 2 := by
    constructor
    · rintro ⟨_ | _ | _ | step, inside, holds⟩
      · exact .inl holds
      · exact .inr (.inl holds)
      · exact .inr (.inr holds)
      · omega
    · rintro (holds | holds | holds)
      · exact ⟨0, by decide, holds⟩
      · exact ⟨1, by decide, holds⟩
      · exact ⟨2, by decide, holds⟩
  rw [steps]
  cases already : object.connected with
  | true => simp [connect, already]
  | false =>
      cases opened : (outcomes 0).ok with
      | false => simp [connect, perform, already, opened, NngCall.IsSend, NngCall.IsRecv]
      | true =>
          cases created : (outcomes 1).ok with
          | false =>
              simp [connect, perform, already, opened, created, closeSock, note, NngCall.IsSend,
                NngCall.IsRecv]
          | true =>
              cases started : (outcomes 2).ok <;>
                simp [connect, perform, already, opened, created, started, closeSock, note,
                  NngCall.IsSend, NngCall.IsRecv]

end NngQuery

namespace NNGDatabaseReq

variable {Rep : Type}

/-- A query that is connected makes three turns. -/
theorem log_of_connected (parse : Option Bytes → Rep → Bool × Rep) (outcomes : Nat → NngOutcome)
    (strreq : Bytes) (rep : Rep) (object : NNGDatabaseReq)
    (connected : (NngQuery.connect outcomes { object with log := [] }).1 = true) :
    ∃ before sock ends after, ends.length = 3 ∧
      (object.query parse outcomes strreq rep).query.log =
        before ++ (TurnEnd.allEntries strreq sock ends ++ after) := by
  obtain ⟨start, begun⟩ : ∃ start : NngQuery, start = { (NngQuery.connect outcomes
      { object with log := [] }).2 with connected := true } := ⟨_, rfl⟩
  have still : start.connected = true := congrArg (·.connected) begun
  obtain ⟨ends, three, logged⟩ :=
    NngQuery.turns_of_connected outcomes still strreq NngQuery.retry none
  have queried : (object.query parse outcomes strreq rep).query =
      match (start.sendRecv outcomes strreq).1 with
      | some buffer => (start.sendRecv outcomes strreq).2.note (.free buffer.place)
      | none => (start.sendRecv outcomes strreq).2 := by
    rw [begun]
    simp only [query, connected, if_true]
    split <;> rfl
  rw [queried]
  split
  · next buffer _ =>
      refine ⟨start.log, start.sock, ends, [⟨.free buffer.place, true⟩], three, ?_⟩
      rw [NngQuery.note, NngQuery.sendRecv, logged, List.append_assoc]
  · refine ⟨start.log, start.sock, ends, [], three, ?_⟩
    rw [NngQuery.sendRecv, logged, List.append_nil]

/-- Three turns never are one exchange with a new socket after each failed call. -/
theorem not_retries_of_turns {strreq : Bytes} {sock : Nat} {before after : List NngLogged}
    {recvblock : Option NngBuffer} {ends : List TurnEnd} (three : ends.length = 3) :
    ¬ Retries (before ++ (TurnEnd.allEntries strreq sock ends ++ after)) recvblock := by
  obtain ⟨first, second, third, rfl⟩ := List.length_eq_three.mp three
  simp only [TurnEnd.allEntries, List.append_nil, List.append_assoc]
  by_cases failed : first = .answered
  · subst failed
    by_cases failed : second = .answered
    · subst failed
      exact not_retries_of_answered
    · intro retries
      rw [← List.append_assoc] at retries
      exact not_retries_of_failed failed retries
  · exact not_retries_of_failed failed

/-- The calls of a query are as they should be if and only if it does not come to a request. -/
theorem query_retries_iff (parse : Option Bytes → Rep → Bool × Rep) (outcomes : Nat → NngOutcome)
    (strreq : Bytes) (rep : Rep) (object : NNGDatabaseReq) :
    Retries (object.query parse outcomes strreq rep).query.log
        (object.query parse outcomes strreq rep).recvblock ↔
      object.connected = false ∧ ∃ step < 3, (outcomes step).ok = false := by
  obtain ⟨fails, quiet⟩ := NngQuery.connect_spec outcomes object
  rw [← fails]
  cases connected : (NngQuery.connect outcomes { object with log := [] }).1 with
  | true =>
      refine iff_of_false ?_ Bool.noConfusion
      obtain ⟨before, sock, ends, after, three, logged⟩ :=
        log_of_connected parse outcomes strreq rep object connected
      rw [logged]
      exact not_retries_of_turns three
  | false =>
      refine iff_of_true ?_ rfl
      have ended : object.query parse outcomes strreq rep =
          ⟨false, rep, none, { (NngQuery.connect outcomes { object with log := [] }).2 with
            connected := false }⟩ := by
        simp [query, connected]
      rw [ended]
      exact retries_of_quiet quiet

/-- Where every call succeeds, the request is sent three times, and two of the three buffers are not
freed. -/
theorem query_three_exchanges :
    let object : NNGDatabaseReq := { ip := "10.0.0.1", port := 9998 }
    let outcomes : Nat → NngOutcome := fun _ => ⟨true, 7, [79, 75]⟩
    let ended := object.query (fun _ (_ : Unit) => (true, ())) outcomes [81] ()
    ended.query.log.drop 3 = [⟨.send 7 [81], true⟩, ⟨.recv 7, true⟩, ⟨.send 7 [81], true⟩,
        ⟨.recv 7, true⟩, ⟨.send 7 [81], true⟩, ⟨.recv 7, true⟩, ⟨.free 8, true⟩] ∧
      ended.recvblock = some ⟨8, [79, 75]⟩ ∧ ¬ Retries ended.query.log ended.recvblock := by
  refine ⟨by decide, by decide, ?_⟩
  intro retries
  have same := retries.once 4 6 ⟨7, by decide⟩ ⟨7, by decide⟩
  exact absurd same (by decide)

end NNGDatabaseReq

end SM.Database
