import SM.Network.Correlation

/-!
# Requests get their own replies

What the places of all numbers say about the calls of two ends: each returns the
reply to its own request, requests are handled once, and no message is lost,
swapped or delivered twice.
-/

namespace SM.Network

open SM.Lib SM.Utils

variable {RouterFunc : Type}

/-- The requests which were given to a handler. -/
def Process.executed (process : Process RouterFunc) : List NMessage :=
  process.handled.map (·.msg) ++
    match process.dispatcher with
    | .calling packet _ _ _ => [packet.msg]
    | _ => []

/-- The request stands with a coroutine which was spawned for it. -/
def ReplyStage.atWork : ReplyStage → Bool
  | .spawned | .queueing | .sending _ => true
  | .waiting | .finished => false

/-- The value sent through an entry. -/
def Signal.value? {Value : Type} : Option (Signal Value) → Option Value
  | some (.sent value) => some value
  | _ => none

namespace System

/-- The numbers of the calls of an end, by where their requests and replies stand: with the
call, in `_dataapp`, with the sender loop, on the wire, with a reply coroutine, in `_dataio`,
with the dispatcher, signalled to the reply coroutine, on the way back, signalled to the call,
and returned. -/
def carried (system : System RouterFunc) (mode : ChannelMode) : List UInt32 :=
  let caller := system.process mode
  let server := system.process mode.peer
  (caller.calls.filter (·.stage = .queueing)).map (·.no) ++
    caller.dataapp.map (·.2.no) ++
    (match caller.sender with
      | .sending _ msg => [msg.no]
      | _ => []) ++
    ((system.wire mode).filter (owner ·.no = mode)).map (·.no) ++
    (server.replies.filter (·.stage.atWork)).map (·.msg.no) ++
    server.dataio.map (·.msg.no) ++
    server.dispatcher.no?.toList ++
    (server.replies.filter fun reply => reply.stage = .waiting ∧
      (Signal.value? (server.router.appRepSignals reply.sock reply.msg.no)).isSome).map (·.msg.no) ++
    ((system.wire mode.peer).filter (owner ·.no = mode)).map (·.no) ++
    (caller.calls.filter fun call => call.stage.isRunning ∧
      (Signal.value? (caller.router.netRepSignals call.sock call.no)).isSome).map (·.no) ++
    (caller.calls.filter (·.stage.isReturned)).map (·.no)

end System

/-- A regular step other than a new call is possible. -/
def System.CanStep (ends : Ends RouterFunc) (system : System RouterFunc) : Prop :=
  ∃ label after, ends.Regular label ∧ (∀ sock req, label.2 ≠ .reqrep sock req) ∧
    system.step ends label = some after

/-- What holds of two ends in every state they come to. -/
structure System.Correct (ends : Ends RouterFunc) (system : System RouterFunc) : Prop where
  /-- No assertion has failed and the dispatchers run. -/
  running : ∀ mode, (system.process mode).crashed = false ∧
    (system.process mode).dispatcher ≠ .stopped
  /-- A call returns what the dispatcher of the other end has replied to its request. -/
  returned : ∀ mode, ∀ call ∈ (system.process mode).calls, ∀ ret,
    call.stage = .returned ret → ∃ strrep, ret = some strrep ∧
      ⟨ends.sock mode.peer, ⟨call.no, call.req⟩, strrep⟩ ∈ (system.process mode.peer).handled ∧
      (ends.config mode.peer).RepliesTo (ends.mainc mode.peer) call.req strrep
  /-- No request is given to a handler twice. -/
  executedOnce : ∀ mode, ((system.process mode).executed.map (·.no)).Nodup
  /-- What is given to a handler is the request of a call. -/
  executedOwn : ∀ mode, ∀ msg ∈ (system.process mode).executed,
    ∃ call ∈ (system.process mode.peer).calls, msg = ⟨call.no, call.req⟩
  /-- The calls of an end have different numbers. -/
  distinct : ∀ mode, ((system.process mode).calls.map (·.no)).Nodup
  /-- The request or the reply of each call stands at exactly one place. -/
  carried : ∀ mode, (system.carried mode).Perm ((system.process mode).calls.map (·.no))
  /-- A coroutine was spawned for no frame but a request, and for none twice. -/
  spawned : ∀ mode, ((system.process mode).replies.map (·.msg.no)).Nodup ∧
    ∀ reply ∈ (system.process mode).replies,
      ∃ call ∈ (system.process mode.peer).calls, reply.msg = ⟨call.no, call.req⟩
  /-- A frame on the wire is the request of a call or the reply to one. -/
  intact : ∀ mode, ∀ msg ∈ system.wire mode,
    (∃ call ∈ (system.process mode).calls, msg = ⟨call.no, call.req⟩) ∨
      ∃ call ∈ (system.process mode.peer).calls,
        ⟨ends.sock mode, ⟨call.no, call.req⟩, msg.body⟩ ∈ (system.process mode).handled ∧
          msg.no = call.no
  /-- A reply which was sent is on the wire, or signalled to the call, whether or not the call
  was told that its request is sent, or returned. -/
  kept : ∀ mode, ∀ reply ∈ (system.process mode.peer).replies, reply.stage = .finished →
    ∃ call ∈ (system.process mode).calls, ∃ strrep,
      ⟨ends.sock mode.peer, ⟨call.no, call.req⟩, strrep⟩ ∈ (system.process mode.peer).handled ∧
      reply.msg = ⟨call.no, call.req⟩ ∧
      (⟨call.no, strrep⟩ ∈ system.wire mode.peer ∨
        (call.stage = .waitSend ∨ call.stage = .waitRep) ∧
          (system.process mode).router.netRepSignals (ends.sock mode) call.no =
            some (.sent ⟨call.no, strrep⟩) ∨
        call.stage = .returned (some strrep))
  /-- While a call has not returned, a step other than a new call is possible. -/
  progress : ∀ mode, ∀ call ∈ (system.process mode).calls,
    call.stage.isReturned = false → system.CanStep ends

namespace System

variable {ends : Ends RouterFunc} {system : System RouterFunc} {mode : ChannelMode} {no : UInt32}
  {place : Place RouterFunc}

/-- What was replied to the request of a call. -/
theorem handled_of_view {strrep req : Bytes} {process : Process RouterFunc} {sock : UInt32}
    (handled : (process.view sock no).handled = [⟨sock, ⟨no, req⟩, strrep⟩]) :
    ⟨sock, ⟨no, req⟩, strrep⟩ ∈ process.handled := by
  have member : (⟨sock, ⟨no, req⟩, strrep⟩ : HandledPacket) ∈ (process.view sock no).handled :=
    handled ▸ List.mem_cons_self
  exact (mem_select.mp member).1

/-- A call which returned has what the handler of the other end gave for its request. -/
theorem Correlated.returned (correlated : Correlated ends system) {call : ReqCall}
    {ret : Option Bytes} (member : call ∈ (system.process mode).calls)
    (stage : call.stage = .returned ret) :
    ∃ strrep, ret = some strrep ∧
      ⟨ends.sock mode.peer, ⟨call.no, call.req⟩, strrep⟩ ∈ (system.process mode.peer).handled ∧
      (ends.config mode.peer).RepliesTo (ends.mainc mode.peer) call.req strrep := by
  obtain ⟨index, found⟩ := List.getElem?_of_mem member
  obtain ⟨no, number⟩ : ∃ no, call.no = no := ⟨_, rfl⟩
  obtain ⟨place, tracks⟩ := correlated.tracked no
  obtain ⟨own, _, only⟩ := tracks.of_call found number
  obtain ⟨_, server, _, _, sound⟩ := tracks.at_owner own
  cases place with
  | unissued => cases only
  | returned req strrep =>
      cases only
      cases stage
      exact ⟨strrep, rfl, handled_of_view (congrArg View.handled server), sound⟩
  | sent req notice transit => cases only; cases notice <;> cases stage
  | _ => cases only; cases stage

/-! ## Requests are handled once -/

/-- The requests executed for a number are those handled and the one at its handler. -/
theorem select_executed (process : Process RouterFunc) (sock no : UInt32) :
    select (·.no) no process.executed =
      (process.view sock no).handled.map (·.msg) ++
        match (process.view sock no).dispatcher with
        | .calling packet _ _ _ => [packet.msg]
        | _ => [] := by
  rw [Process.executed, select_append, select_map]
  congr 1
  cases dispatcher : process.dispatcher with
  | calling packet plat func strreq =>
      by_cases same : packet.msg.no = no <;>
        simp [Process.view, dispatcher, DispatcherStage.only, same, select_cons]
  | _ => simp [Process.view, dispatcher, DispatcherStage.only]

/-- What a process executes of a number is nothing, or once the request of a call of the other
end. -/
theorem Correlated.executed_cases (correlated : Correlated ends system) (mode : ChannelMode)
    (no : UInt32) :
    select (·.no) no (system.process mode).executed = [] ∨
      ∃ call ∈ (system.process mode.peer).calls,
        select (·.no) no (system.process mode).executed = [⟨call.no, call.req⟩] := by
  obtain ⟨place, tracks⟩ := correlated.tracked no
  rw [select_executed (system.process mode) (ends.sock mode) no]
  rcases tracks.view_cases mode with ⟨_, view⟩ | ⟨own, view⟩
  · left
    rw [view, (caller_replies _ _ place).2.2.2.1, (caller_replies _ _ place).2.2.2.2]
    rfl
  · rw [view]
    cases place with
    | sent req notice transit =>
        cases transit with
        | wire => exact .inl rfl
        | spawned => exact .inl rfl
        | queueing => exact .inl rfl
        | dataio => exact .inl rfl
        | _ => exact .inr ⟨_, tracks.made own rfl, rfl⟩
    | returned req strrep => exact .inr ⟨_, tracks.made own rfl, rfl⟩
    | _ => exact .inl rfl

/-- No request is executed twice. -/
theorem Correlated.executedOnce (correlated : Correlated ends system) (mode : ChannelMode) :
    ((system.process mode).executed.map (·.no)).Nodup := by
  apply nodup_map_key
  intro no
  rcases correlated.executed_cases mode no with none | ⟨call, _, one⟩
  · simp [none]
  · simp [one]

/-- Every request which is executed is one of a call of the other end. -/
theorem Correlated.executedOwn (correlated : Correlated ends system) {msg : NMessage}
    (member : msg ∈ (system.process mode).executed) :
    ∃ call ∈ (system.process mode.peer).calls, msg = ⟨call.no, call.req⟩ := by
  have selected := mem_select.mpr ⟨member, (rfl : msg.no = msg.no)⟩
  rcases correlated.executed_cases mode msg.no with none | ⟨call, made, one⟩
  · rw [none] at selected
    cases selected
  · rw [one] at selected
    exact ⟨call, made, List.mem_singleton.mp selected⟩

/-! ## Messages stay whole -/

/-- No two calls of an end have one number. -/
theorem Correlated.distinct (correlated : Correlated ends system) (mode : ChannelMode) :
    ((system.process mode).calls.map (·.no)).Nodup := by
  apply nodup_map_key
  intro no
  obtain ⟨place, tracks⟩ := correlated.tracked no
  have selected : select (·.no) no (system.process mode).calls =
      ((system.process mode).view (ends.sock mode) no).calls := rfl
  rw [selected]
  rcases tracks.view_cases mode with ⟨_, view⟩ | ⟨_, view⟩
  · rw [view]
    cases place <;> simp [Place.caller]
  · rw [view, (server_calls _ _ _ place).1]
    exact Nat.zero_le _

/-- No two replies of an end have one number. -/
theorem Correlated.spawnedOnce (correlated : Correlated ends system) (mode : ChannelMode) :
    ((system.process mode).replies.map (·.msg.no)).Nodup := by
  apply nodup_map_key
  intro no
  obtain ⟨place, tracks⟩ := correlated.tracked no
  have selected : select (·.msg.no) no (system.process mode).replies =
      ((system.process mode).view (ends.sock mode) no).replies := rfl
  rw [selected]
  rcases tracks.view_cases mode with ⟨_, view⟩ | ⟨_, view⟩
  · rw [view, (caller_replies _ _ place).1]
    exact Nat.zero_le _
  · rw [view]
    cases place with
    | sent req notice transit => cases transit <;> simp [Place.server, Transit.server]
    | _ => simp [Place.server, Transit.server]

/-- Every reply is one to a call of the other end. -/
theorem Correlated.spawnedOwn (correlated : Correlated ends system) {reply : ReplyCall}
    (member : reply ∈ (system.process mode).replies) :
    ∃ call ∈ (system.process mode.peer).calls, reply.msg = ⟨call.no, call.req⟩ := by
  obtain ⟨index, found⟩ := List.getElem?_of_mem member
  obtain ⟨no, number⟩ : ∃ no, reply.msg.no = no := ⟨_, rfl⟩
  obtain ⟨place, tracks⟩ := correlated.tracked no
  obtain ⟨own, _, only⟩ := tracks.of_reply found number
  cases place with
  | sent req notice transit =>
      refine ⟨_, tracks.made own rfl, ?_⟩
      cases transit <;> cases only <;> rfl
  | returned req strrep =>
      refine ⟨_, tracks.made own rfl, ?_⟩
      cases only
      rfl
  | _ => cases only

/-- Every frame on the way is a request of a call or the reply to one. -/
theorem Correlated.intact (correlated : Correlated ends system) {msg : NMessage}
    (member : msg ∈ system.wire mode) :
    (∃ call ∈ (system.process mode).calls, msg = ⟨call.no, call.req⟩) ∨
      ∃ call ∈ (system.process mode.peer).calls,
        ⟨ends.sock mode, ⟨call.no, call.req⟩, msg.body⟩ ∈ (system.process mode).handled ∧
          msg.no = call.no := by
  obtain ⟨no, number⟩ : ∃ no, msg.no = no := ⟨_, rfl⟩
  have selected := mem_select.mpr ⟨member, number⟩
  obtain ⟨place, tracks⟩ := correlated.tracked no
  rcases tracks.view_cases mode with ⟨own, _⟩ | ⟨own, view⟩
  · left
    rw [(tracks.at_owner own).2.2.1] at selected
    cases place with
    | sent req notice transit =>
        cases transit with
        | wire => exact ⟨_, tracks.made own rfl, List.mem_singleton.mp selected⟩
        | _ => cases selected
    | _ => cases selected
  · right
    have back := (tracks.at_owner own).2.2.2.1
    rw [ChannelMode.peer_peer] at back
    rw [back] at selected
    cases place with
    | sent req notice transit =>
        cases transit with
        | wireBack strrep =>
            rw [List.mem_singleton.mp selected]
            exact ⟨_, tracks.made own rfl, handled_of_view (congrArg View.handled view), rfl⟩
        | _ => cases selected
    | _ => cases selected

/-- A reply which was sent is one to a call of the other end, from its handler. -/
theorem Correlated.kept (correlated : Correlated ends system) {reply : ReplyCall}
    (member : reply ∈ (system.process mode.peer).replies) (stage : reply.stage = .finished) :
    ∃ call ∈ (system.process mode).calls, ∃ strrep,
      ⟨ends.sock mode.peer, ⟨call.no, call.req⟩, strrep⟩ ∈ (system.process mode.peer).handled ∧
      reply.msg = ⟨call.no, call.req⟩ ∧
      (⟨call.no, strrep⟩ ∈ system.wire mode.peer ∨
        (call.stage = .waitSend ∨ call.stage = .waitRep) ∧
          (system.process mode).router.netRepSignals (ends.sock mode) call.no =
            some (.sent ⟨call.no, strrep⟩) ∨
        call.stage = .returned (some strrep)) := by
  obtain ⟨index, found⟩ := List.getElem?_of_mem member
  obtain ⟨no, number⟩ : ∃ no, reply.msg.no = no := ⟨_, rfl⟩
  obtain ⟨place, tracks⟩ := correlated.tracked no
  obtain ⟨own, view, only⟩ := tracks.of_reply found number
  rw [ChannelMode.peer_peer] at own
  obtain ⟨caller, server, _, back, _⟩ := tracks.at_owner own
  cases place with
  | sent req notice transit =>
      cases transit with
      | wireBack strrep =>
          cases only
          refine ⟨_, tracks.made own rfl, strrep, handled_of_view (congrArg View.handled server),
            rfl, .inl ?_⟩
          have selected : (⟨no, strrep⟩ : NMessage) ∈ select (·.no) no (system.wire mode.peer) :=
            back ▸ List.mem_cons_self
          exact (mem_select.mp selected).1
      | arrived strrep =>
          cases only
          refine ⟨_, tracks.made own rfl, strrep, handled_of_view (congrArg View.handled server),
            rfl, .inr (.inl ⟨?_, congrArg View.netRep caller⟩)⟩
          cases notice with
          | unsent => exact .inl rfl
          | signalled => exact .inl rfl
          | seen => exact .inr rfl
      | _ => cases only <;> cases stage
  | returned req strrep =>
      cases only
      exact ⟨_, tracks.made own rfl, strrep, handled_of_view (congrArg View.handled server), rfl,
        .inr (.inr rfl)⟩
  | _ => cases only

/-! ## Nothing is lost -/

/-- A sender carries one message. -/
theorem count_sending (stage : SenderStage) (no : UInt32) :
    (match stage with
      | .sending _ msg => [msg.no]
      | _ => []).count no =
      match stage.only no with
      | .sending _ _ => 1
      | _ => 0 := by
  cases stage with
  | sending sock msg => by_cases same : msg.no = no <;> simp [SenderStage.only, same]
  | sent sock msg flag => by_cases same : msg.no = no <;> simp [SenderStage.only, same]
  | idle => rfl

/-- A dispatcher carries one message. -/
theorem count_dispatching (stage : DispatcherStage RouterFunc) (no : UInt32) :
    stage.no?.toList.count no =
      match stage.only no with
      | .calling _ _ _ _ => 1
      | _ => 0 := by
  cases stage with
  | calling packet plat func strreq =>
      by_cases same : packet.msg.no = no <;>
        simp [DispatcherStage.no?, DispatcherStage.only, same]
  | _ => rfl

/-- How often a number is carried, place by place. -/
theorem count_carried (system : System RouterFunc) (mode : ChannelMode) (sock other no : UInt32) :
    (system.carried mode).count no =
      (((system.process mode).view sock no).calls.filter (·.stage = .queueing)).length +
      ((system.process mode).view sock no).dataapp.length +
      (match ((system.process mode).view sock no).sender with
        | .sending _ _ => 1
        | _ => 0) +
      ((select (·.no) no (system.wire mode)).filter (owner ·.no = mode)).length +
      (((system.process mode.peer).view other no).replies.filter (·.stage.atWork)).length +
      ((system.process mode.peer).view other no).dataio.length +
      (match ((system.process mode.peer).view other no).dispatcher with
        | .calling _ _ _ _ => 1
        | _ => 0) +
      (((system.process mode.peer).view other no).replies.filter fun reply =>
        reply.stage = .waiting ∧ (Signal.value? ((system.process mode.peer).router.appRepSignals
          reply.sock reply.msg.no)).isSome).length +
      ((select (·.no) no (system.wire mode.peer)).filter (owner ·.no = mode)).length +
      (((system.process mode).view sock no).calls.filter fun call =>
        call.stage.isRunning ∧ (Signal.value? ((system.process mode).router.netRepSignals
          call.sock call.no)).isSome).length +
      (((system.process mode).view sock no).calls.filter (·.stage.isReturned)).length := by
  simp only [carried, List.count_append, count_map_key, select_filter, count_sending,
    count_dispatching]
  rfl

/-- Frames of an own number are own frames. -/
theorem filter_own {frames : List NMessage} (own : owner no = mode)
    (numbers : ∀ msg ∈ frames, msg.no = no) : frames.filter (owner ·.no = mode) = frames := by
  apply List.filter_eq_self.mpr
  intro msg member
  simp [numbers msg member, own]

/-- Frames of a foreign number are no own frames. -/
theorem filter_foreign {frames : List NMessage} (own : owner no ≠ mode)
    (numbers : ∀ msg ∈ frames, msg.no = no) : frames.filter (owner ·.no = mode) = [] := by
  apply List.filter_eq_nil_iff.mpr
  intro msg member
  simp [numbers msg member, own]

/-- A call which waits for its notice runs. -/
theorem callStage_spec (notice : Notice) :
    notice.callStage ≠ .queueing ∧ notice.callStage.isRunning = true ∧
      notice.callStage.isReturned = false := by
  cases notice <;> decide

/-- A sender which gives notice carries nothing. -/
theorem count_notice_sender (notice : Notice) (sock : UInt32) (msg : NMessage) :
    (match notice.sender sock msg with
      | .sending _ _ => 1
      | _ => 0) = 0 := by
  cases notice <;> rfl

/-- Every call is carried at one place. -/
theorem Correlated.carried (correlated : Correlated ends system) (mode : ChannelMode) :
    (system.carried mode).Perm ((system.process mode).calls.map (·.no)) := by
  apply List.perm_iff_count.mpr
  intro no
  have calls : ((system.process mode).calls.map (·.no)).count no =
      ((system.process mode).view (ends.sock mode) no).calls.length :=
    count_map_key ..
  rw [calls, count_carried system mode (ends.sock mode) (ends.sock mode.peer) no]
  have numbers : ∀ end', ∀ msg ∈ select (·.no) no (system.wire end'), msg.no = no :=
    fun _ _ member => (mem_select.mp member).2
  obtain ⟨place, tracks⟩ := correlated.tracked no
  rcases ChannelMode.eq_or_eq_peer mode (owner no) with own | foreign
  · obtain ⟨caller, server, onWire, onWireBack, _⟩ := tracks.at_owner own
    rw [filter_own own (numbers _), filter_own own (numbers _), onWire, onWireBack]
    have netRep : (system.process mode).router.netRepSignals (ends.sock mode) no =
        (place.caller (ends.sock mode) no).netRep :=
      congrArg View.netRep caller
    have appRep : (system.process mode.peer).router.appRepSignals (ends.sock mode.peer) no =
        (place.server (ends.sock mode.peer) (ends.mainc mode.peer) no).appRep :=
      congrArg View.appRep server
    rw [caller, server]
    cases place with
    | sent req notice transit =>
        obtain ⟨notQueueing, running, notReturned⟩ := callStage_spec notice
        simp only [Place.caller, count_notice_sender, List.filter_cons, notQueueing, running,
          notReturned, netRep]
        cases transit <;> simp [Place.server, Place.onWire, Place.onWireBack,
          Transit.server, Transit.onWire, Transit.onWireBack, Transit.netRep, ReplyStage.atWork,
          Signal.value?, appRep]
    | _ => simp [Place.caller, Place.server, Place.onWire, Place.onWireBack, Transit.server,
        CallStage.isRunning, CallStage.isReturned, ReplyStage.atWork, Signal.value?, netRep]
  · obtain ⟨caller, server, _, _, _⟩ := tracks.at_owner foreign
    have apart : owner no ≠ mode := by
      rw [foreign]
      exact ChannelMode.peer_ne mode
    rw [filter_foreign apart (numbers _), filter_foreign apart (numbers _), caller]
    rw [ChannelMode.peer_peer] at server
    rw [server]
    obtain ⟨calls, dataapp, sender, _, _⟩ :=
      server_calls (ends.sock mode) (ends.mainc mode) no place
    obtain ⟨replies, _, dataio, dispatcher, _⟩ := caller_replies (ends.sock mode.peer) no place
    simp [calls, dataapp, sender, replies, dataio, dispatcher]

/-! ## A call which has not returned -/

/-- A possible step which starts no call lets the system go on. -/
theorem canStep_of_step (mode : ChannelMode) (action : Action)
    (possible : ((system.process mode).step (ends.config mode) action).isSome = true)
    (regular : ends.Regular (mode, action)) (old : ∀ sock req, action ≠ .reqrep sock req)
    (local' : ∀ sock msg, action ≠ .recv sock msg) : system.CanStep ends := by
  obtain ⟨next, stepped⟩ := Option.isSome_iff_exists.mp possible
  have wired : ∃ wire, system.wires mode action = some wire := by
    cases action with
    | recv sock msg => exact absurd rfl (local' sock msg)
    | _ => exact ⟨_, rfl⟩
  obtain ⟨wire, wired⟩ := wired
  refine ⟨(mode, action), system.act mode next wire, regular, old, ?_⟩
  simp [System.step, stepped, wired]

/-- A frame on the wire can be received. -/
theorem Correlated.canStep_of_wire (correlated : Correlated ends system) (mode : ChannelMode)
    (frames : system.wire mode.peer ≠ []) : system.CanStep ends := by
  obtain ⟨msg, rest, front⟩ := List.exists_cons_of_ne_nil frames
  refine ⟨(mode, .recv (ends.sock mode) msg),
    system.act mode ((system.process mode).recv (ends.sock mode) msg)
      (Function.update system.wire mode.peer rest), rfl, by simp, ?_⟩
  simp [System.step, Process.step, correlated.running, wires, front]

/-- A busy sender loop can go on. -/
theorem Correlated.canStep_of_sender (correlated : Correlated ends system) (mode : ChannelMode)
    (busy : (system.process mode).dataapp ≠ [] ∨ (system.process mode).sender ≠ .idle) :
    system.CanStep ends := by
  have running := correlated.running mode
  cases sender : (system.process mode).sender with
  | idle =>
      have waiting : (system.process mode).dataapp ≠ [] := by simpa [sender] using busy
      obtain ⟨⟨sock, msg⟩, rest, front⟩ := List.exists_cons_of_ne_nil waiting
      apply canStep_of_step mode .takeApp _ trivial (by simp) (by simp)
      simp [Process.step, running, Process.takeApp, sender, front]
  | sending sock msg =>
      apply canStep_of_step mode (.sendFrame true) _ rfl (by simp) (by simp)
      simp [Process.step, running, Process.sendFrame, sender]
  | sent sock msg flag =>
      apply canStep_of_step mode .notifySend _ trivial (by simp) (by simp)
      simp [Process.step, running, Process.notifySend, sender]

/-- A busy dispatcher can go on. -/
theorem Correlated.canStep_of_dispatcher (correlated : Correlated ends system)
    (mode : ChannelMode)
    (busy : (system.process mode).dataio ≠ [] ∨ (system.process mode).dispatcher ≠ .idle) :
    system.CanStep ends := by
  have running := correlated.running mode
  cases dispatcher : (system.process mode).dispatcher with
  | idle =>
      have waiting : (system.process mode).dataio ≠ [] := by simpa [dispatcher] using busy
      obtain ⟨packet, rest, front⟩ := List.exists_cons_of_ne_nil waiting
      apply canStep_of_step mode .dispatch _ trivial (by simp) (by simp)
      simp [Process.step, running, Process.dispatch, dispatcher, front]
  | calling packet plat func strreq =>
      apply canStep_of_step mode (.handlerDone (.value [])) _ ⟨[], rfl⟩ (by simp) (by simp)
      simp [Process.step, running, Process.handlerDone, dispatcher]
  | stopped => exact absurd dispatcher (correlated.dispatcher_running mode)

/-- Where a record is selected there is one. -/
theorem ne_nil_of_select {Record : Type} {key : Record → UInt32} {records : List Record}
    {record : Record} {rest : List Record} (selected : select key no records = record :: rest) :
    records ≠ [] := by
  rintro rfl
  cases selected

/-- The coroutine of a request can go on, or the dispatcher or the wire. -/
theorem Correlated.canStep_of_transit (correlated : Correlated ends system)
    {req : Bytes} {notice : Notice} {transit : Transit RouterFunc}
    (tracks : Tracks ends system no (.sent req notice transit)) (own : owner no = mode)
    (under : ∀ strrep, transit ≠ .arrived strrep) : system.CanStep ends := by
  obtain ⟨_, server, onWire, onWireBack, _⟩ := tracks.at_owner own
  have running := correlated.running mode.peer
  have reply : ∀ reply, (transit.server (ends.sock mode.peer) (ends.mainc mode.peer)
      ⟨no, req⟩).replies = [reply] →
        ∃ index : Nat, (system.process mode.peer).replies[index]? = some reply := by
    intro reply only
    have member : reply ∈
        ((system.process mode.peer).view (ends.sock mode.peer) no).replies := by
      rw [server]
      exact only ▸ List.mem_cons_self
    exact List.getElem?_of_mem (mem_select.mp member).1
  have appRep : (system.process mode.peer).router.appRepSignals (ends.sock mode.peer) no =
      (transit.server (ends.sock mode.peer) (ends.mainc mode.peer) ⟨no, req⟩).appRep :=
    congrArg View.appRep server
  cases transit with
  | wire =>
      apply correlated.canStep_of_wire mode.peer
      rw [ChannelMode.peer_peer]
      exact ne_nil_of_select onWire
  | spawned =>
      obtain ⟨index, found⟩ := reply _ rfl
      apply canStep_of_step mode.peer (.prepareReply index) _ trivial (by simp) (by simp)
      simp [Process.step, running, found, Process.prepareReply, MessageRouter.prepareAppRep,
        MessageRouter.canWaitAppRep, appRep, Transit.server]
  | queueing =>
      obtain ⟨index, found⟩ := reply _ rfl
      by_cases room : (system.process mode.peer).dataio.length < routerCapacity
      · apply canStep_of_step mode.peer (.queueIo index) _ trivial (by simp) (by simp)
        simp [Process.step, running, found, Process.queueIo, room]
      · apply correlated.canStep_of_dispatcher mode.peer (.inl _)
        rintro empty
        simp [empty, routerCapacity] at room
  | dataio =>
      apply correlated.canStep_of_dispatcher mode.peer (.inl _)
      exact ne_nil_of_select (congrArg View.dataio server)
  | calling plat func strreq =>
      apply correlated.canStep_of_dispatcher mode.peer (.inr _)
      intro idle
      have stage := congrArg View.dispatcher server
      simp [Process.view, idle, DispatcherStage.only, Place.server, Transit.server] at stage
  | answered strrep =>
      obtain ⟨index, found⟩ := reply _ rfl
      apply canStep_of_step mode.peer (.wakeReply index) _ trivial (by simp) (by simp)
      simp [Process.step, running, found, Process.wakeReply, appRep, Transit.server]
  | replying strrep =>
      obtain ⟨index, found⟩ := reply _ rfl
      apply canStep_of_step mode.peer (.replySent index true) _ rfl (by simp) (by simp)
      simp [Process.step, running, found, Process.replySent]
  | wireBack strrep =>
      apply correlated.canStep_of_wire mode
      exact ne_nil_of_select onWireBack
  | arrived strrep => exact absurd rfl (under strrep)

/-- While a call has not returned, a step other than a new call is possible. -/
theorem Correlated.progress (correlated : Correlated ends system) {call : ReqCall}
    (member : call ∈ (system.process mode).calls) (waiting : call.stage.isReturned = false) :
    system.CanStep ends := by
  obtain ⟨index, found⟩ := List.getElem?_of_mem member
  obtain ⟨no, number⟩ : ∃ no, call.no = no := ⟨_, rfl⟩
  obtain ⟨place, tracks⟩ := correlated.tracked no
  obtain ⟨own, view, only⟩ := tracks.of_call found number
  have running := correlated.running mode
  cases place with
  | unissued => cases only
  | queueing req =>
      cases only
      by_cases room : (system.process mode).dataapp.length < routerCapacity
      · apply canStep_of_step mode (.queueApp index) _ trivial (by simp) (by simp)
        simp [Process.step, running, found, Process.queueApp, room]
      · apply correlated.canStep_of_sender mode (.inl _)
        rintro empty
        simp [empty, routerCapacity] at room
  | dataapp req =>
      apply correlated.canStep_of_sender mode (.inl _)
      exact ne_nil_of_select (congrArg View.dataapp view)
  | sending req =>
      apply correlated.canStep_of_sender mode (.inr _)
      intro idle
      have stage := congrArg View.sender view
      simp [Process.view, idle, SenderStage.only, Place.caller] at stage
  | sent req notice transit =>
      cases transit with
      | arrived strrep =>
          cases only
          cases notice with
          | unsent =>
              apply correlated.canStep_of_sender mode (.inr _)
              intro idle
              have stage := congrArg View.sender view
              simp [Process.view, idle, SenderStage.only, Place.caller, Notice.sender] at stage
          | signalled =>
              have signal : (system.process mode).router.sendCompleteSignals (ends.sock mode) no =
                  some (.sent true) :=
                congrArg View.sendComplete view
              apply canStep_of_step mode (.wakeSend index) _ trivial (by simp) (by simp)
              simp [Process.step, running, found, Process.wakeSend, Notice.callStage, signal]
          | seen =>
              have signal : (system.process mode).router.netRepSignals (ends.sock mode) no =
                  some (.sent ⟨no, strrep⟩) :=
                congrArg View.netRep view
              apply canStep_of_step mode (.wakeRep index) _ trivial (by simp) (by simp)
              simp [Process.step, running, found, Process.wakeRep, Notice.callStage, signal]
      | _ => exact correlated.canStep_of_transit tracks own (by simp)
  | returned req strrep => cases only; cases waiting

end System

/-- In every run of regular steps in which no end makes 2^31 - 1 calls, both ends are correct in
every state they come to. -/
theorem reqrep_correct {RouterFunc : Type} (ends : Ends RouterFunc)
    (labels : List (ChannelMode × Action)) (system : System RouterFunc)
    (ran : Machine.run (System.step ends) (System.start ends) labels = some system)
    (regular : ∀ label ∈ labels, ends.Regular label)
    (few : ∀ mode, (system.process mode).calls.length < 0x7fffffff) :
    system.Correct ends := by
  have correlated := System.run_correlated ends ran regular few
  exact {
    running := fun mode => ⟨correlated.running mode, correlated.dispatcher_running mode⟩
    returned := fun mode call member ret stage => correlated.returned member stage
    executedOnce := correlated.executedOnce
    executedOwn := fun mode msg member => correlated.executedOwn member
    distinct := correlated.distinct
    carried := correlated.carried
    spawned := fun mode =>
      ⟨correlated.spawnedOnce mode, fun reply member => correlated.spawnedOwn member⟩
    intact := fun mode msg member => correlated.intact member
    kept := fun mode reply member stage => correlated.kept member stage
    progress := fun mode call member waiting => correlated.progress member waiting }

/-- One handler at both ends of a channel. -/
def oneChannel : Ends Unit where
  config mode :=
    { DispatcherConfig.single with
      cmode := fun _ => mode, channelMainc := fun _ => 1, registered := fun _ => true }
  sock _ := 3
  cmode _ := rfl
  registered _ := rfl
  assertions _ := rfl

/-- A call whose reply comes before its send is signalled. -/
def earlyReply : List (ChannelMode × Action) :=
  [(.initiative, .reqrep 3 [0, 0, 0, 1, 0, 0, 0, 2, 5]), (.initiative, .queueApp 0),
    (.initiative, .takeApp), (.initiative, .sendFrame true),
    (.passive, .recv 3 ⟨1, [0, 0, 0, 1, 0, 0, 0, 2, 5]⟩), (.passive, .prepareReply 0),
    (.passive, .queueIo 0), (.passive, .dispatch), (.passive, .handlerDone (.value [7])),
    (.passive, .wakeReply 0), (.passive, .replySent 0 true),
    (.initiative, .recv 3 ⟨1, [0, 0, 0, 1, 0, 0, 0, 2, 7]⟩), (.initiative, .notifySend),
    (.initiative, .wakeSend 0), (.initiative, .wakeRep 0)]

/-- The sample request has its handler. -/
theorem hasHandler_single :
    DispatcherConfig.single.HasHandler 1 [0, 0, 0, 1, 0, 0, 0, 2, 5] := by
  have unpacked : (PlatformPack.mainAss 1 0).unpack [0, 0, 0, 1, 0, 0, 0, 2] =
      (true, .mainAss 1 2) := by decide
  refine ⟨.mainAss 1 0, rfl, by decide, by decide, fun assc => if assc = 2 then some () else none,
    (), ?_, ?_⟩
  · simp only [PlatformPack.len, List.take, unpacked]
    rfl
  · simp only [PlatformPack.len, List.take, unpacked]
    rfl

/-- A reply which comes before its call is told of its send. -/
theorem reqrep_correct_early :
    ∃ system,
      Machine.run (System.step oneChannel) (System.start oneChannel) earlyReply = some system ∧
        (system.process .initiative).calls = [⟨3, 1, [0, 0, 0, 1, 0, 0, 0, 2, 5], true,
          .returned (some [0, 0, 0, 1, 0, 0, 0, 2, 7])⟩] ∧
        system.Correct oneChannel := by
  refine ⟨_, rfl, rfl, reqrep_correct oneChannel earlyReply _ rfl ?_ ?_⟩
  · have handler := hasHandler_single
    simp [earlyReply, Ends.Regular, oneChannel]
    exact handler
  · intro mode
    cases mode <;> decide

end SM.Network
