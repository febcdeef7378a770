import SM.Lib.Machine
import SM.Lib.Places

/-!
# Connections and channels of queries

`executeQueryTCP` takes a connection out of `_connsTcp` or makes one, `_execQuery` takes a channel
out of the pool of the connection or makes one, and both are given back after a reply. Queries run
at once, and any of them may be suspended in `async_connect` or in `reqrep` while others go on.
`channels_exclusive` says that nevertheless no two of them have one channel.
-/

namespace SM.Database

open SM.Lib

/-- Where a call of `executeQueryTCP` stands. -/
inductive QueryStage where
  /-- It has not been called. -/
  | idle
  /-- Before the condition of the loop in `_execQuery`. -/
  | looping (conn trycount : Nat)
  /-- In `getChannel`, which waits for `async_connect` the given time. -/
  | connecting (conn trycount tries : Nat) (retchannel : Option Nat)
  /-- Waits in `reqrep` of the channel. -/
  | querying (conn trycount channel : Nat)
  /-- `_execQuery` has returned. -/
  | executed (conn : Nat) (succ : Bool)
  | returned (bret : Bool)
deriving DecidableEq

namespace QueryStage

/-- The channel which a call has, if any. -/
def channels : QueryStage → List Nat
  | .connecting _ _ _ retchannel => retchannel.toList
  | .querying _ _ channel => [channel]
  | _ => []

/-- The connection which a call has, if any. -/
def conns : QueryStage → List Nat
  | .looping conn _ => [conn]
  | .connecting conn _ _ _ => [conn]
  | .querying conn _ _ => [conn]
  | .executed conn _ => [conn]
  | _ => []

end QueryStage

/-- How one round of the loop in `getChannel` goes. -/
inductive ConnectOutcome where
  /-- An exception before there is a channel, which `END_ASIO` swallows. -/
  | failed
  /-- An exception from `start` of the new channel. -/
  | startThrew
  | started
  /-- An exception outside `BEGIN_ASIO`, which leaves `getChannel`. -/
  | threw
deriving DecidableEq

inductive ReqrepOutcome where
  | reply
  | null
  | threw
deriving DecidableEq

/-- The connections, the channels and the calls. Connections and channels are numbered in the order
in which they are made. -/
structure DBConnections where
  connsTcp : List Nat := []
  /-- How many connections were made. -/
  conns : Nat := 0
  /-- `_channelpool` of every connection. -/
  channelpool : Nat → List Nat := fun _ => []
  /-- How many channels were made. -/
  channels : Nat := 0
  queries : Nat → QueryStage := fun _ => .idle
  /-- The channels whose `reqrep` failed. -/
  failed : List Nat := []

namespace DBConnections

def setStage (state : DBConnections) (query : Nat) (stage : QueryStage) : DBConnections :=
  { state with queries := Function.update state.queries query stage }

def setPool (state : DBConnections) (conn : Nat) (channelpool : List Nat) : DBConnections :=
  { state with channelpool := Function.update state.channelpool conn channelpool }

def setConnsTcp (state : DBConnections) (connsTcp : List Nat) : DBConnections :=
  { state with connsTcp }

def makeConn (state : DBConnections) : DBConnections := { state with conns := state.conns + 1 }

/-- `createTcpChannel` -/
def makeChannel (state : DBConnections) : DBConnections :=
  { state with channels := state.channels + 1 }

def fail (state : DBConnections) (channel : Nat) : DBConnections :=
  { state with failed := channel :: state.failed }

inductive Action where
  /-- The call begins. `try_dequeue` yields one of the connections in the queue, or none. -/
  | executeQueryTCP (query : Nat) (dequeued : Option Nat)
  /-- From the condition of the loop to the next suspension. -/
  | getChannel (query : Nat)
  /-- `async_connect` is over. -/
  | connect (query : Nat) (outcome : ConnectOutcome)
  | reqrep (query : Nat) (outcome : ReqrepOutcome)
  /-- `executeQueryTCP` returns. -/
  | finish (query : Nat)
deriving DecidableEq

/-- The stage after a round of the loop in `getChannel` that did not break it. -/
def retry (conn trycount tries : Nat) (retchannel : Option Nat) : QueryStage :=
  if tries + 1 ≤ 3 then .connecting conn trycount (tries + 1) retchannel
  else
    match retchannel with
    | none => .executed conn false
    | some channel => .querying conn trycount channel

def step (state : DBConnections) : Action → Option DBConnections
  | .executeQueryTCP query dequeued =>
      match state.queries query, dequeued with
      | .idle, some conn =>
          if conn ∈ state.connsTcp then
            some ((state.setConnsTcp (state.connsTcp.erase conn)).setStage query (.looping conn 0))
          else none
      | .idle, none => some (state.makeConn.setStage query (.looping state.conns 0))
      | _, _ => none
  | .getChannel query =>
      match state.queries query with
      | .looping conn trycount =>
          if trycount + 1 < 3 then
            match state.channelpool conn with
            | [] => some (state.setStage query (.connecting conn (trycount + 1) 1 none))
            | channel :: channelpool =>
                some ((state.setPool conn channelpool).setStage query
                  (.querying conn (trycount + 1) channel))
          else some (state.setStage query (.executed conn false))
      | _ => none
  | .connect query outcome =>
      match state.queries query, outcome with
      | .connecting conn trycount tries retchannel, .failed =>
          some (state.setStage query (retry conn trycount tries retchannel))
      | .connecting conn trycount tries _, .startThrew =>
          some (state.makeChannel.setStage query
            (retry conn trycount tries (some state.channels)))
      | .connecting conn trycount _ _, .started =>
          some (state.makeChannel.setStage query (.querying conn trycount state.channels))
      | .connecting conn _ _ _, .threw => some (state.setStage query (.executed conn false))
      | _, _ => none
  | .reqrep query outcome =>
      match state.queries query, outcome with
      | .querying conn _ channel, .reply =>
          some ((state.setStage query (.executed conn true)).setPool conn
            (state.channelpool conn ++ [channel]))
      | .querying conn trycount channel, .null =>
          some ((state.setStage query (.looping conn (trycount + 1))).fail channel)
      | .querying conn _ channel, .threw =>
          some ((state.setStage query (.executed conn false)).fail channel)
      | _, _ => none
  | .finish query =>
      match state.queries query with
      | .executed conn true =>
          some ((state.setStage query (.returned true)).setConnsTcp (state.connsTcp ++ [conn]))
      | .executed _ false => some (state.setStage query (.returned false))
      | _ => none

/-! ## Places -/

/-- Where a channel can be. -/
inductive ChannelPlace where
  | pool (conn : Nat)
  | query (query : Nat)
  | failed
deriving DecidableEq

/-- Where a connection can be. -/
inductive ConnPlace where
  | queue
  | query (query : Nat)
deriving DecidableEq

def channelsAt (state : DBConnections) : ChannelPlace → List Nat
  | .pool conn => state.channelpool conn
  | .query query => (state.queries query).channels
  | .failed => state.failed

def connsAt (state : DBConnections) : ConnPlace → List Nat
  | .queue => state.connsTcp
  | .query query => (state.queries query).conns

variable {state next : DBConnections} {action : Action}

/-- Another stage of a query moves the channels which the query holds, and no others. -/
@[simp] theorem channelsAt_setStage (query : Nat) (stage : QueryStage) :
    (state.setStage query stage).channelsAt =
      Function.update state.channelsAt (.query query) stage.channels := by
  funext place
  cases place with
  | query other =>
      by_cases same : other = query
      · subst same
        simp [channelsAt, setStage]
      · simp [channelsAt, setStage, same]
  | pool conn => simp [channelsAt, setStage]
  | failed => simp [channelsAt, setStage]

/-- Another stage of a query moves the connections which the query holds, and no others. -/
@[simp] theorem connsAt_setStage (query : Nat) (stage : QueryStage) :
    (state.setStage query stage).connsAt =
      Function.update state.connsAt (.query query) stage.conns := by
  funext place
  cases place with
  | query other =>
      by_cases same : other = query
      · subst same
        simp [connsAt, setStage]
      · simp [connsAt, setStage, same]
  | queue => simp [connsAt, setStage]

/-- Another pool moves the channels of this pool, and no others. -/
@[simp] theorem channelsAt_setPool (conn : Nat) (channelpool : List Nat) :
    (state.setPool conn channelpool).channelsAt =
      Function.update state.channelsAt (.pool conn) channelpool := by
  funext place
  cases place with
  | pool other =>
      by_cases same : other = conn
      · subst same
        simp [channelsAt, setPool]
      · simp [channelsAt, setPool, same]
  | query query => simp [channelsAt, setPool]
  | failed => simp [channelsAt, setPool]

/-- A channel that failed comes to those which failed. -/
@[simp] theorem channelsAt_fail (channel : Nat) : (state.fail channel).channelsAt =
    Function.update state.channelsAt .failed (channel :: state.failed) := by
  funext place
  cases place <;> simp [channelsAt, fail]

/-- Another queue moves the connections of the queue, and no others. -/
@[simp] theorem connsAt_setConnsTcp (connsTcp : List Nat) :
    (state.setConnsTcp connsTcp).connsAt = Function.update state.connsAt .queue connsTcp := by
  funext place
  cases place <;> simp [connsAt, setConnsTcp]

/-- Channels and connections are apart. -/
structure Owned (state : DBConnections) : Prop where
  channels : Apart state.channels state.channelsAt
  conns : Apart state.conns state.connsAt

/-- Before the first query everything is in one place. -/
theorem owned_initial : Owned {} where
  channels := by
    have empty : channelsAt {} = fun _ => [] := by
      funext place
      cases place <;> rfl
    rw [empty]
    exact Apart.nil
  conns := by
    have empty : connsAt {} = fun _ => [] := by
      funext place
      cases place <;> rfl
    rw [empty]
    exact Apart.nil

/-! ## Steps -/

section Steps

variable {query : Nat} {stage before : QueryStage} {outcome : ConnectOutcome}

/-- A query which goes on with the same channels leaves all channels where they are. -/
theorem channelsAt_proceed (here : state.queries query = before)
    (same : stage.channels = before.channels) :
    (state.setStage query stage).channelsAt = state.channelsAt := by
  have kept : stage.channels = state.channelsAt (.query query) := by
    rw [same, channelsAt, here]
  rw [channelsAt_setStage, kept, Function.update_eq_self]

/-- A query which goes on with the same connections leaves all connections where they are. -/
theorem connsAt_proceed (here : state.queries query = before)
    (same : stage.conns = before.conns) :
    (state.setStage query stage).connsAt = state.connsAt := by
  have kept : stage.conns = state.connsAt (.query query) := by
    rw [same, connsAt, here]
  rw [connsAt_setStage, kept, Function.update_eq_self]

/-- A call which goes on with what it has. -/
theorem Owned.proceed (owned : state.Owned) (here : state.queries query = before)
    (channels : stage.channels = before.channels) (conns : stage.conns = before.conns) :
    (state.setStage query stage).Owned where
  channels := (channelsAt_proceed here channels).symm ▸ owned.channels
  conns := (connsAt_proceed here conns).symm ▸ owned.conns

/-- A call which goes on with a new channel in place of the one it had. -/
theorem Owned.replace (owned : state.Owned) (here : state.queries query = before)
    (channels : stage.channels = [state.channels]) (conns : stage.conns = before.conns) :
    (state.makeChannel.setStage query stage).Owned where
  channels := by
    have lost := owned.channels.lose (@List.nil_subperm _ (state.channelsAt (.query query)))
    have made := @Apart.make _ _ _ _ (.query query) stage.channels lost (by
      rw [channels, Function.update_self])
    rw [Function.update_idem] at made
    rw [channelsAt_setStage]
    exact made
  conns := (@connsAt_proceed state.makeChannel query stage before here conns).symm ▸ owned.conns

/-- A call which drops its channel, if it has one. -/
theorem Owned.abandon (owned : state.Owned) (here : state.queries query = before)
    (channels : stage.channels = []) (conns : stage.conns = before.conns) :
    (state.setStage query stage).Owned where
  channels := by
    rw [channelsAt_setStage, channels]
    exact owned.channels.lose List.nil_subperm
  conns := (connsAt_proceed here conns).symm ▸ owned.conns

/-- A query which tries again holds the channel it was left with, if any. -/
theorem channels_retry (conn trycount tries : Nat) (retchannel : Option Nat) :
    (retry conn trycount tries retchannel).channels = retchannel.toList := by
  unfold retry
  split
  · rfl
  · cases retchannel <;> rfl

/-- A query which tries again holds its connection. -/
theorem conns_retry (conn trycount tries : Nat) (retchannel : Option Nat) :
    (retry conn trycount tries retchannel).conns = [conn] := by
  unfold retry
  split
  · rfl
  · cases retchannel <;> rfl

/-- Taking a connection from the queue keeps everything in one place. -/
theorem Owned.executeQueryTCP {dequeued : Option Nat} (owned : state.Owned)
    (stepped : state.step (.executeQueryTCP query dequeued) = some next) : next.Owned := by
  cases here : state.queries query with
  | idle =>
      have noConn : state.connsAt (.query query) = [] := by
        rw [connsAt, here]
        rfl
      cases dequeued with
      | none =>
          simp only [step, here] at stepped
          cases stepped
          refine ⟨(@channelsAt_proceed state.makeConn query (.looping state.conns 0) _ here
            rfl).symm ▸ owned.channels, ?_⟩
          rw [connsAt_setStage]
          refine owned.conns.make ?_
          rw [noConn]
          exact List.Perm.refl _
      | some conn =>
          simp only [step, here] at stepped
          split at stepped
          · next queued =>
              cases stepped
              refine ⟨(@channelsAt_proceed (state.setConnsTcp (state.connsTcp.erase conn)) query
                (.looping conn 0) _ here rfl).symm ▸ owned.channels, ?_⟩
              rw [connsAt_setStage, connsAt_setConnsTcp]
              refine owned.conns.move (by simp) (List.perm_cons_erase queued) ?_
              rw [noConn]
              exact List.Perm.refl _
          · cases stepped
  | looping | connecting | querying | executed | returned =>
      simp [step, here] at stepped

/-- Taking a channel from the pool keeps everything in one place. -/
theorem Owned.getChannel (owned : state.Owned)
    (stepped : state.step (.getChannel query) = some next) : next.Owned := by
  cases here : state.queries query with
  | looping conn trycount =>
      simp only [step, here] at stepped
      split at stepped
      · split at stepped
        · cases stepped
          exact owned.proceed here rfl rfl
        · next channel channelpool pooled =>
            cases stepped
            have taken : (state.channelsAt (.pool conn)).Perm (channel :: channelpool) := by
              rw [channelsAt, pooled]
            have noChannel : state.channelsAt (.query query) = [] := by
              rw [channelsAt, here]
              rfl
            constructor
            · rw [channelsAt_setStage, channelsAt_setPool]
              refine owned.channels.move (by simp) taken ?_
              rw [noChannel]
              exact List.Perm.refl _
            · exact (@connsAt_proceed (state.setPool conn channelpool) query
                (.querying conn (trycount + 1) channel) _ here rfl).symm ▸ owned.conns
      · cases stepped
        exact owned.proceed here rfl rfl
  | idle | connecting | querying | executed | returned =>
      simp [step, here] at stepped

/-- A connected channel is new, and in one place. -/
theorem Owned.connect (owned : state.Owned)
    (stepped : state.step (.connect query outcome) = some next) : next.Owned := by
  cases here : state.queries query with
  | connecting conn trycount tries retchannel =>
      cases outcome with
      | failed =>
          simp only [step, here] at stepped
          cases stepped
          exact owned.proceed here (channels_retry ..) (conns_retry ..)
      | startThrew =>
          simp only [step, here] at stepped
          cases stepped
          exact owned.replace here (channels_retry ..) (conns_retry ..)
      | started =>
          simp only [step, here] at stepped
          cases stepped
          exact owned.replace here rfl rfl
      | threw =>
          simp only [step, here] at stepped
          cases stepped
          exact owned.abandon here rfl rfl
  | idle | looping | querying | executed | returned =>
      simp [step, here] at stepped

/-- The channel of a call is put somewhere else. -/
theorem channels_handOver {conn trycount channel : Nat} {more : List Nat} {target : ChannelPlace}
    (owned : state.Owned) (here : state.queries query = .querying conn trycount channel)
    (none : stage.channels = []) (different : .query query ≠ target)
    (filled : more.Perm (channel :: state.channelsAt target)) :
    Apart state.channels
      (Function.update (state.setStage query stage).channelsAt target more) := by
  have taken : (state.channelsAt (.query query)).Perm (channel :: []) := by
    rw [channelsAt, here]
    exact List.Perm.refl _
  rw [channelsAt_setStage, none]
  exact owned.channels.move different taken filled

/-- A call on a channel leaves the channel with its query or among those which failed. -/
theorem Owned.reqrep {result : ReqrepOutcome} (owned : state.Owned)
    (stepped : state.step (.reqrep query result) = some next) : next.Owned := by
  cases here : state.queries query with
  | querying conn trycount channel =>
      cases result with
      | reply =>
          simp only [step, here] at stepped
          cases stepped
          refine ⟨?_, (@connsAt_proceed state query (.executed conn true) _ here rfl).symm ▸
            owned.conns⟩
          rw [channelsAt_setPool]
          exact channels_handOver owned here rfl (by simp) (List.perm_append_singleton ..)
      | null =>
          simp only [step, here] at stepped
          cases stepped
          refine ⟨?_, (@connsAt_proceed state query (.looping conn (trycount + 1)) _ here
            rfl).symm ▸ owned.conns⟩
          rw [channelsAt_fail]
          exact channels_handOver owned here rfl (by simp) (List.Perm.refl _)
      | threw =>
          simp only [step, here] at stepped
          cases stepped
          refine ⟨?_, (@connsAt_proceed state query (.executed conn false) _ here rfl).symm ▸
            owned.conns⟩
          rw [channelsAt_fail]
          exact channels_handOver owned here rfl (by simp) (List.Perm.refl _)
  | idle | looping | connecting | executed | returned =>
      simp [step, here] at stepped

/-- Giving back channel and connection keeps everything in one place. -/
theorem Owned.finish (owned : state.Owned)
    (stepped : state.step (.finish query) = some next) : next.Owned := by
  cases here : state.queries query with
  | executed conn succ =>
      have taken : (state.connsAt (.query query)).Perm (conn :: []) := by
        rw [connsAt, here]
        exact List.Perm.refl _
      cases succ with
      | true =>
          simp only [step, here] at stepped
          cases stepped
          refine ⟨(@channelsAt_proceed state query (.returned true) _ here rfl).symm ▸
            owned.channels, ?_⟩
          rw [connsAt_setConnsTcp, connsAt_setStage]
          exact owned.conns.move (by simp) taken (List.perm_append_singleton ..)
      | false =>
          simp only [step, here] at stepped
          cases stepped
          refine ⟨(@channelsAt_proceed state query (.returned false) _ here rfl).symm ▸
            owned.channels, ?_⟩
          rw [connsAt_setStage]
          exact owned.conns.lose List.nil_subperm
  | idle | looping | connecting | querying | returned =>
      simp [step, here] at stepped

/-- Every step keeps every channel and every connection in one place. -/
theorem Owned.step (owned : state.Owned) (stepped : state.step action = some next) :
    next.Owned := by
  cases action with
  | executeQueryTCP query dequeued => exact owned.executeQueryTCP stepped
  | getChannel query => exact owned.getChannel stepped
  | connect query outcome => exact owned.connect stepped
  | reqrep query outcome => exact owned.reqrep stepped
  | finish query => exact owned.finish stepped

end Steps

/-! ## Runs -/

/-- Calls in progress have no channel and no connection in common, and none that is in a pool, in
the queue, or failed. -/
structure Exclusive (state : DBConnections) : Prop where
  calls : ∀ query other channel, channel ∈ (state.queries query).channels →
    channel ∈ (state.queries other).channels → query = other
  pooled : ∀ conn, (state.channelpool conn).Nodup
  pools : ∀ conn other channel, channel ∈ state.channelpool conn →
    channel ∈ state.channelpool other → conn = other
  free : ∀ query conn channel, channel ∈ (state.queries query).channels →
    channel ∉ state.channelpool conn
  gone : ∀ channel ∈ state.failed, (∀ query, channel ∉ (state.queries query).channels) ∧
    ∀ conn, channel ∉ state.channelpool conn
  conns : ∀ query other conn, conn ∈ (state.queries query).conns →
    conn ∈ (state.queries other).conns → query = other
  queued : state.connsTcp.Nodup
  dequeued : ∀ query conn, conn ∈ (state.queries query).conns → conn ∉ state.connsTcp

/-- What is in one place is used by one query. -/
theorem Owned.exclusive (owned : state.Owned) : state.Exclusive where
  calls query other channel inside also :=
    ChannelPlace.query.inj (owned.channels.same (.query query) (.query other) channel inside also)
  pooled conn := owned.channels.nodup (.pool conn)
  pools conn other channel inside also :=
    ChannelPlace.pool.inj (owned.channels.same (.pool conn) (.pool other) channel inside also)
  free query conn channel inside also := by
    cases owned.channels.same (.query query) (.pool conn) channel inside also
  gone channel failed := by
    constructor
    · intro query inside
      cases owned.channels.same .failed (.query query) channel failed inside
    · intro conn inside
      cases owned.channels.same .failed (.pool conn) channel failed inside
  conns query other conn inside also :=
    ConnPlace.query.inj (owned.conns.same (.query query) (.query other) conn inside also)
  queued := owned.conns.nodup .queue
  dequeued query conn inside also := by
    cases owned.conns.same (.query query) .queue conn inside also

/-- A channel that failed stays one. -/
theorem failed_subset_step (stepped : state.step action = some next) :
    state.failed ⊆ next.failed := by
  cases action with
  | executeQueryTCP query dequeued =>
      simp only [step] at stepped
      split at stepped
      · split at stepped <;> cases stepped
        exact List.Subset.refl _
      · cases stepped
        exact List.Subset.refl _
      · cases stepped
  | getChannel query =>
      simp only [step] at stepped
      split at stepped
      · split at stepped
        · split at stepped <;> cases stepped <;> exact List.Subset.refl _
        · cases stepped
          exact List.Subset.refl _
      · cases stepped
  | connect query outcome =>
      simp only [step] at stepped
      split at stepped <;> cases stepped <;> exact List.Subset.refl _
  | reqrep query outcome =>
      simp only [step] at stepped
      split at stepped <;> cases stepped
      · exact List.Subset.refl _
      · exact List.subset_cons_self _ _
      · exact List.subset_cons_self _ _
  | finish query =>
      simp only [step] at stepped
      split at stepped <;> cases stepped <;> exact List.Subset.refl _

/-- Every run keeps every channel and every connection in one place. -/
theorem owned_run {actions : List Action} (owned : state.Owned)
    (ran : Machine.run step state actions = some next) : next.Owned :=
  Machine.run_invariant Owned (fun _ => True) (fun owned _ stepped => owned.step stepped) owned ran
    fun _ _ => trivial

/-- A channel which failed never comes back. -/
theorem failed_subset_run {actions : List Action}
    (ran : Machine.run step state actions = some next) : state.failed ⊆ next.failed :=
  Machine.run_invariant (fun reached => state.failed ⊆ reached.failed) (fun _ => True)
    (fun before _ stepped => List.Subset.trans before (failed_subset_step stepped))
    (List.Subset.refl _) ran
    fun _ _ => trivial

/-- In every state that is reached calls have channels and connections of their own, and a channel
whose `reqrep` has failed is never handed out again. -/
theorem channels_exclusive (earlier later : List Action) (middle final : DBConnections)
    (ran : Machine.run step {} earlier = some middle)
    (on : Machine.run step middle later = some final) :
    final.Exclusive ∧ ∀ channel ∈ middle.failed,
      (∀ query, channel ∉ (final.queries query).channels) ∧
        ∀ conn, channel ∉ final.channelpool conn := by
  have exclusive := (owned_run (owned_run owned_initial ran) on).exclusive
  exact ⟨exclusive, fun channel failed => exclusive.gone channel (failed_subset_run on failed)⟩

/-- A query whose channel fails beside one that is in `async_connect`, and a third one. -/
theorem channels_exclusive_beside :
    ∃ middle final, Machine.run step {} [.executeQueryTCP 0 none, .getChannel 0,
        .connect 0 .started, .executeQueryTCP 1 none, .getChannel 1, .reqrep 0 .threw] =
          some middle ∧
      Machine.run step middle [.connect 1 .failed, .connect 1 .started, .reqrep 1 .reply,
        .finish 1, .executeQueryTCP 2 (some 1), .getChannel 2] = some final ∧
      middle.failed = [0] ∧ final.queries 2 = .querying 1 1 1 ∧ final.Exclusive ∧
      ∀ channel ∈ middle.failed, (∀ query, channel ∉ (final.queries query).channels) ∧
        ∀ conn, channel ∉ final.channelpool conn :=
  ⟨_, _, rfl, rfl, rfl, rfl, channels_exclusive [.executeQueryTCP 0 none, .getChannel 0,
      .connect 0 .started, .executeQueryTCP 1 none, .getChannel 1, .reqrep 0 .threw]
    [.connect 1 .failed, .connect 1 .started, .reqrep 1 .reply, .finish 1,
      .executeQueryTCP 2 (some 1), .getChannel 2] _ _ rfl rfl⟩

end DBConnections

end SM.Database
