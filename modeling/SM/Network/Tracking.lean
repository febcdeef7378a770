import SM.Network.TwoEnds

/-!
# Tracking exchanges

`Correlated` says that each message number is at one place of its exchange. When
a process at one end acts on one number, `callerMoves` and `serverMoves` move the
exchange of that number and leave all others where they are.
-/

namespace SM.Network

open SM.Lib SM.Utils

variable {RouterFunc : Type} {ends : Ends RouterFunc}

namespace System

/-- The two processes and the two wires hold of a number what its place says. -/
structure Tracks (ends : Ends RouterFunc) (system : System RouterFunc) (no : UInt32)
    (place : Place RouterFunc) : Prop where
  caller : (system.process (owner no)).view (ends.sock (owner no)) no =
    place.caller (ends.sock (owner no)) no
  server : (system.process (owner no).peer).view (ends.sock (owner no).peer) no =
    place.server (ends.sock (owner no).peer) (ends.mainc (owner no).peer) no
  onWire : select (·.no) no (system.wire (owner no)) = place.onWire no
  onWireBack : select (·.no) no (system.wire (owner no).peer) = place.onWireBack no
  sound : place.Sound (ends.config (owner no).peer).toDispatcherConfig
    (ends.mainc (owner no).peer)

/-- Every number is at one place, and numbers are given in order. -/
structure Correlated (ends : Ends RouterFunc) (system : System RouterFunc) : Prop where
  running : ∀ mode, (system.process mode).crashed = false
  counted : ∀ mode, ((system.process mode).reqNo (ends.sock mode)).toNat =
    mode.firstReqNo.toNat + (system.process mode).calls.length
  issued : ∀ mode, ∀ call ∈ (system.process mode).calls,
    call.no.toNat ≤ mode.firstReqNo.toNat + (system.process mode).calls.length
  tracked : ∀ no, ∃ place, Tracks ends system no place

variable {system : System RouterFunc} {mode : ChannelMode} {no : UInt32}
  {place : Place RouterFunc}

/-! ## Whose numbers a process holds -/

/-- What the place of a number says, from the end which makes its call. -/
theorem Tracks.at_owner (tracks : Tracks ends system no place) (own : owner no = mode) :
    (system.process mode).view (ends.sock mode) no = place.caller (ends.sock mode) no ∧
      (system.process mode.peer).view (ends.sock mode.peer) no =
        place.server (ends.sock mode.peer) (ends.mainc mode.peer) no ∧
      select (·.no) no (system.wire mode) = place.onWire no ∧
      select (·.no) no (system.wire mode.peer) = place.onWireBack no ∧
      place.Sound (ends.config mode.peer).toDispatcherConfig (ends.mainc mode.peer) := by
  subst own
  exact ⟨tracks.caller, tracks.server, tracks.onWire, tracks.onWireBack, tracks.sound⟩

/-- What the place of a number says, from the end which serves its call. -/
theorem Tracks.at_server (tracks : Tracks ends system no place) (own : owner no = mode.peer) :
    (system.process mode.peer).view (ends.sock mode.peer) no =
        place.caller (ends.sock mode.peer) no ∧
      (system.process mode).view (ends.sock mode) no =
        place.server (ends.sock mode) (ends.mainc mode) no ∧
      select (·.no) no (system.wire mode.peer) = place.onWire no ∧
      select (·.no) no (system.wire mode) = place.onWireBack no ∧
      place.Sound (ends.config mode).toDispatcherConfig (ends.mainc mode) := by
  simpa using tracks.at_owner own

/-- A process holds of a number what the caller holds, or what the server holds. -/
theorem Tracks.view_cases (tracks : Tracks ends system no place) (mode : ChannelMode) :
    (owner no = mode ∧ (system.process mode).view (ends.sock mode) no =
        place.caller (ends.sock mode) no) ∨
      (owner no = mode.peer ∧ (system.process mode).view (ends.sock mode) no =
        place.server (ends.sock mode) (ends.mainc mode) no) := by
  rcases ChannelMode.eq_or_eq_peer mode (owner no) with own | own
  · exact .inl ⟨own, (tracks.at_owner own).1⟩
  · exact .inr ⟨own, (tracks.at_server own).2.1⟩

/-- The call which a place tells of. -/
theorem Tracks.made (tracks : Tracks ends system no place) (own : owner no = mode)
    {call : ReqCall} (only : (place.caller (ends.sock mode) no).calls = [call]) :
    call ∈ (system.process mode).calls := by
  have member : call ∈ ((system.process mode).view (ends.sock mode) no).calls := by
    rw [(tracks.at_owner own).1, only]
    exact List.mem_cons_self
  exact (mem_select.mp member).1

/-- A server of an exchange has nothing of a caller. -/
theorem server_calls (sock : UInt32) (mainc : Int) (no : UInt32) (place : Place RouterFunc) :
    (place.server sock mainc no).calls = [] ∧ (place.server sock mainc no).dataapp = [] ∧
      (place.server sock mainc no).sender = .idle ∧
      (place.server sock mainc no).sendComplete = none ∧
      (place.server sock mainc no).netRep = none := by
  cases place with
  | sent req notice transit => cases transit <;> exact ⟨rfl, rfl, rfl, rfl, rfl⟩
  | _ => exact ⟨rfl, rfl, rfl, rfl, rfl⟩

/-- A caller of an exchange has nothing of a server. -/
theorem caller_replies (sock no : UInt32) (place : Place RouterFunc) :
    (place.caller sock no).replies = [] ∧ (place.caller sock no).appRep = none ∧
      (place.caller sock no).dataio = [] ∧ (place.caller sock no).dispatcher = .idle ∧
      (place.caller sock no).handled = [] := by
  cases place <;> exact ⟨rfl, rfl, rfl, rfl, rfl⟩

/-- One of at most one record is all there is. -/
theorem eq_singleton_of_mem {Record : Type} {records : List Record} {record : Record}
    (short : records.length ≤ 1) (member : record ∈ records) : records = [record] := by
  match records, short with
  | [only], _ => rw [List.mem_singleton.mp member]

/-- A call belongs to the end which makes it, and is the only one with its number. -/
theorem Tracks.of_call {call : ReqCall} {index : Nat} (tracks : Tracks ends system no place)
    (found : (system.process mode).calls[index]? = some call) (number : call.no = no) :
    owner no = mode ∧
      (system.process mode).view (ends.sock mode) no = place.caller (ends.sock mode) no ∧
      (place.caller (ends.sock mode) no).calls = [call] := by
  have member : call ∈ ((system.process mode).view (ends.sock mode) no).calls :=
    mem_select.mpr ⟨List.mem_of_getElem? found, number⟩
  rcases tracks.view_cases mode with ⟨own, view⟩ | ⟨_, view⟩
  · rw [view] at member
    refine ⟨own, view, eq_singleton_of_mem ?_ member⟩
    cases place <;> simp [Place.caller]
  · rw [view, (server_calls _ _ _ place).1] at member
    cases member

/-- A reply belongs to a call of the other end, and is the only one with its number. -/
theorem Tracks.of_reply {reply : ReplyCall} {index : Nat} (tracks : Tracks ends system no place)
    (found : (system.process mode).replies[index]? = some reply) (number : reply.msg.no = no) :
    owner no = mode.peer ∧
      (system.process mode).view (ends.sock mode) no =
        place.server (ends.sock mode) (ends.mainc mode) no ∧
      (place.server (ends.sock mode) (ends.mainc mode) no).replies = [reply] := by
  have member : reply ∈ ((system.process mode).view (ends.sock mode) no).replies :=
    mem_select.mpr ⟨List.mem_of_getElem? found, number⟩
  rcases tracks.view_cases mode with ⟨_, view⟩ | ⟨own, view⟩
  · rw [view, (caller_replies _ _ place).1] at member
    cases member
  · rw [view] at member
    refine ⟨own, view, eq_singleton_of_mem ?_ member⟩
    cases place with
    | sent req notice transit => cases transit <;> simp [Place.server, Transit.server]
    | _ => simp [Place.server, Transit.server]

/-- A reply coroutine without a signal has just been spawned for its request. -/
theorem place_of_spawned {sock : UInt32} {mainc : Int} {reply : ReplyCall}
    (only : (place.server sock mainc no).replies = [reply]) (stage : reply.stage = .spawned) :
    ∃ req notice, place = .sent req notice .spawned := by
  cases place with
  | sent req notice transit =>
      cases transit with
      | spawned => exact ⟨req, notice, rfl⟩
      | _ => cases only <;> cases stage
  | returned req strrep => cases only; cases stage
  | _ => cases only

/-- A reply coroutine with a signal puts its request into `_dataio` next. -/
theorem place_of_queueing {sock : UInt32} {mainc : Int} {reply : ReplyCall}
    (only : (place.server sock mainc no).replies = [reply]) (stage : reply.stage = .queueing) :
    ∃ req notice, place = .sent req notice .queueing := by
  cases place with
  | sent req notice transit =>
      cases transit with
      | queueing => exact ⟨req, notice, rfl⟩
      | _ => cases only <;> cases stage
  | returned req strrep => cases only; cases stage
  | _ => cases only

/-- The packet at the front of `_dataio` is the request of an exchange. -/
theorem Tracks.of_dataio {packet : IoPacket} {dataio : List IoPacket}
    (tracks : Tracks ends system no place)
    (front : (system.process mode).dataio = packet :: dataio) (number : packet.msg.no = no) :
    owner no = mode.peer ∧
      (system.process mode).view (ends.sock mode) no =
        place.server (ends.sock mode) (ends.mainc mode) no ∧
      ∃ req notice, place = .sent req notice .dataio ∧
        packet = ⟨ends.sock mode, ends.mainc mode, ⟨no, req⟩⟩ := by
  have member : packet ∈ ((system.process mode).view (ends.sock mode) no).dataio :=
    mem_select.mpr ⟨front ▸ List.mem_cons_self, number⟩
  rcases tracks.view_cases mode with ⟨_, view⟩ | ⟨own, view⟩
  · rw [view, (caller_replies _ _ place).2.2.1] at member
    cases member
  · rw [view] at member
    cases place with
    | sent req notice transit =>
        cases transit with
        | dataio => exact ⟨own, view, req, notice, rfl, List.mem_singleton.mp member⟩
        | _ => cases member
    | _ => cases member

/-- A call has a number, and the exchange of that number is seen from the call's end. -/
theorem Correlated.of_call {call : ReqCall} {index : Nat} (correlated : Correlated ends system)
    (found : (system.process mode).calls[index]? = some call) :
    ∃ no place, call.no = no ∧ Tracks ends system no place ∧ owner no = mode ∧
      (system.process mode).view (ends.sock mode) no = place.caller (ends.sock mode) no ∧
      (place.caller (ends.sock mode) no).calls = [call] ∧
      place.Sound (ends.config mode.peer).toDispatcherConfig (ends.mainc mode.peer) := by
  obtain ⟨place, tracks⟩ := correlated.tracked call.no
  obtain ⟨own, view, only⟩ := tracks.of_call found rfl
  obtain ⟨_, _, _, _, sound⟩ := tracks.at_owner own
  exact ⟨call.no, place, rfl, tracks, own, view, only, sound⟩

/-- A reply has a number, and the exchange of that number is seen from the other end. -/
theorem Correlated.of_reply {reply : ReplyCall} {index : Nat} (correlated : Correlated ends system)
    (found : (system.process mode).replies[index]? = some reply) :
    ∃ no place, reply.msg.no = no ∧ Tracks ends system no place ∧ owner no = mode.peer ∧
      (system.process mode).view (ends.sock mode) no =
        place.server (ends.sock mode) (ends.mainc mode) no ∧
      (place.server (ends.sock mode) (ends.mainc mode) no).replies = [reply] ∧
      place.Sound (ends.config mode).toDispatcherConfig (ends.mainc mode) := by
  obtain ⟨place, tracks⟩ := correlated.tracked reply.msg.no
  obtain ⟨own, view, only⟩ := tracks.of_reply found rfl
  obtain ⟨_, _, _, _, sound⟩ := tracks.at_server own
  exact ⟨reply.msg.no, place, rfl, tracks, own, view, only, sound⟩

/-! ## Moving one exchange -/

/-- The process runs on, and no call was added. -/
structure Kept (process next : Process RouterFunc) : Prop where
  running : next.crashed = false
  reqNo : next.reqNo = process.reqNo
  calls : next.calls.map (·.no) = process.calls.map (·.no)

/-- No wire has gained or lost a frame with another number. -/
def WiresAgree (system : System RouterFunc) (no : UInt32) (wire : ChannelMode → List NMessage) :
    Prop :=
  ∀ mode other, other ≠ no →
    select (·.no) other (wire mode) = select (·.no) other (system.wire mode)

variable {next : Process RouterFunc} {wire : ChannelMode → List NMessage}
  {moved : Place RouterFunc}

/-- The process which acted has made its step. -/
@[simp] theorem act_process_self (system : System RouterFunc) (mode : ChannelMode)
    (next : Process RouterFunc) (wire : ChannelMode → List NMessage) :
    (system.act mode next wire).process mode = next :=
  Function.update_self ..

/-- The other process stays. -/
theorem act_process_of_ne {other : ChannelMode} (different : other ≠ mode) :
    (system.act mode next wire).process other = system.process other :=
  Function.update_of_ne different ..

/-- A step which counts its calls and leaves every exchange in order keeps the ends correlated. -/
theorem Correlated.advance (correlated : Correlated ends system) (running : next.crashed = false)
    (counted : (next.reqNo (ends.sock mode)).toNat =
      mode.firstReqNo.toNat + next.calls.length)
    (issued : ∀ call ∈ next.calls, call.no.toNat ≤ mode.firstReqNo.toNat + next.calls.length)
    (others : Process.AgreeExcept (ends.sock mode) no (system.process mode) next)
    (wires : WiresAgree system no wire)
    (tracks : Tracks ends (system.act mode next wire) no moved) :
    Correlated ends (system.act mode next wire) := by
  have views : ∀ end' other, other ≠ no →
      ((system.act mode next wire).process end').view (ends.sock end') other =
        (system.process end').view (ends.sock end') other := by
    intro end' other different
    by_cases same : end' = mode
    · subst same
      rw [act_process_self]
      exact others other different
    · rw [act_process_of_ne same]
  refine ⟨?_, ?_, ?_, ?_⟩
  · intro end'
    by_cases same : end' = mode
    · subst same
      rw [act_process_self]
      exact running
    · rw [act_process_of_ne same]
      exact correlated.running end'
  · intro end'
    by_cases same : end' = mode
    · subst same
      rw [act_process_self]
      exact counted
    · rw [act_process_of_ne same]
      exact correlated.counted end'
  · intro end'
    by_cases same : end' = mode
    · subst same
      rw [act_process_self]
      exact issued
    · rw [act_process_of_ne same]
      exact correlated.issued end'
  · intro other
    by_cases same : other = no
    · subst same
      exact ⟨moved, tracks⟩
    · obtain ⟨place, before⟩ := correlated.tracked other
      refine ⟨place, ?_, ?_, ?_, ?_, before.sound⟩
      · rw [views _ _ same]
        exact before.caller
      · rw [views _ _ same]
        exact before.server
      · exact (wires _ _ same).trans before.onWire
      · exact (wires _ _ same).trans before.onWireBack

/-- A step which makes no call leaves the count of the calls. -/
theorem Kept.counted (kept : Kept (system.process mode) next)
    (correlated : Correlated ends system) :
    (next.reqNo (ends.sock mode)).toNat = mode.firstReqNo.toNat + next.calls.length ∧
      ∀ call ∈ next.calls, call.no.toNat ≤ mode.firstReqNo.toNat + next.calls.length := by
  have length : next.calls.length = (system.process mode).calls.length := by
    simpa using congrArg List.length kept.calls
  rw [kept.reqNo, length]
  refine ⟨correlated.counted mode, ?_⟩
  intro call member
  have number : call.no ∈ (system.process mode).calls.map (·.no) :=
    kept.calls ▸ List.mem_map_of_mem member
  obtain ⟨before, beforeMember, same⟩ := List.mem_map.mp number
  rw [← same]
  exact correlated.issued mode before beforeMember

/-- The end which made the call moves its exchange. -/
theorem Correlated.callerMoves (correlated : Correlated ends system) (own : owner no = mode)
    (tracks : Tracks ends system no place) (kept : Kept (system.process mode) next)
    (others : Process.AgreeExcept (ends.sock mode) no (system.process mode) next)
    (wires : WiresAgree system no wire) (moved : Place RouterFunc)
    (caller : next.view (ends.sock mode) no = moved.caller (ends.sock mode) no)
    (server : moved.server (ends.sock mode.peer) (ends.mainc mode.peer) no =
      place.server (ends.sock mode.peer) (ends.mainc mode.peer) no)
    (onWire : select (·.no) no (wire mode) = moved.onWire no)
    (onWireBack : select (·.no) no (wire mode.peer) = moved.onWireBack no)
    (sound : moved.Sound (ends.config mode.peer).toDispatcherConfig (ends.mainc mode.peer)) :
    Correlated ends (system.act mode next wire) := by
  subst own
  obtain ⟨counted, issued⟩ := kept.counted correlated
  refine correlated.advance kept.running counted issued others wires (?_ : Tracks ends _ no moved)
  refine ⟨?_, ?_, onWire, onWireBack, sound⟩
  · rw [act_process_self]
    exact caller
  · rw [act_process_of_ne (ChannelMode.peer_ne _), tracks.server, server]

/-- The end which serves the call moves its exchange. -/
theorem Correlated.serverMoves (correlated : Correlated ends system) (own : owner no = mode.peer)
    (tracks : Tracks ends system no place) (kept : Kept (system.process mode) next)
    (others : Process.AgreeExcept (ends.sock mode) no (system.process mode) next)
    (wires : WiresAgree system no wire) (moved : Place RouterFunc)
    (caller : moved.caller (ends.sock mode.peer) no = place.caller (ends.sock mode.peer) no)
    (server : next.view (ends.sock mode) no =
      moved.server (ends.sock mode) (ends.mainc mode) no)
    (onWire : select (·.no) no (wire mode.peer) = moved.onWire no)
    (onWireBack : select (·.no) no (wire mode) = moved.onWireBack no)
    (sound : moved.Sound (ends.config mode).toDispatcherConfig (ends.mainc mode)) :
    Correlated ends (system.act mode next wire) := by
  have peer : (owner no).peer = mode := by rw [own, ChannelMode.peer_peer]
  obtain ⟨counted, issued⟩ := kept.counted correlated
  refine correlated.advance kept.running counted issued others wires (?_ : Tracks ends _ no moved)
  refine ⟨?_, ?_, ?_, ?_, ?_⟩
  · rw [own, act_process_of_ne (ChannelMode.peer_ne mode), (tracks.at_server own).1, caller]
  · rw [peer, act_process_self]
    exact server
  · rw [own]
    exact onWire
  · rw [peer]
    exact onWireBack
  · rw [peer]
    exact sound

/-- The end which made the call moves its exchange, and the wires stay. -/
theorem Correlated.callerMovesAlone (correlated : Correlated ends system) (own : owner no = mode)
    (tracks : Tracks ends system no place) (kept : Kept (system.process mode) next)
    (others : Process.AgreeExcept (ends.sock mode) no (system.process mode) next)
    (moved : Place RouterFunc)
    (caller : next.view (ends.sock mode) no = moved.caller (ends.sock mode) no)
    (server : moved.server (ends.sock mode.peer) (ends.mainc mode.peer) no =
      place.server (ends.sock mode.peer) (ends.mainc mode.peer) no)
    (onWire : moved.onWire no = place.onWire no)
    (onWireBack : moved.onWireBack no = place.onWireBack no)
    (sound : moved.Sound (ends.config mode.peer).toDispatcherConfig (ends.mainc mode.peer)) :
    Correlated ends (system.act mode next system.wire) := by
  apply correlated.callerMoves own tracks kept others (fun _ _ _ => rfl) moved caller server _ _ sound
  · rw [onWire, (tracks.at_owner own).2.2.1]
  · rw [onWireBack, (tracks.at_owner own).2.2.2.1]

/-- The end which serves the call moves its exchange, and the wires stay. -/
theorem Correlated.serverMovesAlone (correlated : Correlated ends system)
    (own : owner no = mode.peer) (tracks : Tracks ends system no place)
    (kept : Kept (system.process mode) next)
    (others : Process.AgreeExcept (ends.sock mode) no (system.process mode) next)
    (moved : Place RouterFunc)
    (caller : moved.caller (ends.sock mode.peer) no = place.caller (ends.sock mode.peer) no)
    (server : next.view (ends.sock mode) no =
      moved.server (ends.sock mode) (ends.mainc mode) no)
    (onWire : moved.onWire no = place.onWire no)
    (onWireBack : moved.onWireBack no = place.onWireBack no)
    (sound : moved.Sound (ends.config mode).toDispatcherConfig (ends.mainc mode)) :
    Correlated ends (system.act mode next system.wire) := by
  apply correlated.serverMoves own tracks kept others (fun _ _ _ => rfl) moved caller server _ _ sound
  · rw [onWire, (tracks.at_server own).2.2.1]
  · rw [onWireBack, (tracks.at_server own).2.2.2.1]

/-- The dispatcher of a correlated end runs. -/
theorem Correlated.dispatcher_running (correlated : Correlated ends system) (mode : ChannelMode) :
    (system.process mode).dispatcher ≠ .stopped := by
  intro stopped
  obtain ⟨place, tracks⟩ := correlated.tracked 0
  have seen : ((system.process mode).view (ends.sock mode) 0).dispatcher = .stopped := by
    simp [Process.view, stopped, DispatcherStage.only]
  rcases tracks.view_cases mode with ⟨_, view⟩ | ⟨_, view⟩
  · rw [view, (caller_replies _ _ place).2.2.2.1] at seen
    cases seen
  · rw [view] at seen
    cases place with
    | sent req notice transit => cases transit <;> cases seen
    | _ => cases seen

/-- A call which is replaced keeps its number. -/
theorem map_no_set {calls : List ReqCall} {index : Nat} {call changed : ReqCall}
    (found : calls[index]? = some call) (same : changed.no = call.no) :
    (calls.set index changed).map (·.no) = calls.map (·.no) := by
  obtain ⟨inside, rfl⟩ := List.getElem?_eq_some_iff.mp found
  rw [List.map_set, same]
  apply List.ext_getElem (by simp)
  intro position _ _
  by_cases here : index = position
  · subst here
    simp
  · simp [here]

/-- A frame which is added leaves the frames of other numbers. -/
theorem wiresAgree_append (system : System RouterFunc) (mode : ChannelMode) {msg : NMessage}
    (number : msg.no = no) :
    WiresAgree system no (Function.update system.wire mode (system.wire mode ++ [msg])) := by
  intro end' other different
  by_cases same : end' = mode
  · subst same
    have apart : ¬ msg.no = other := by
      rintro rfl
      exact different number
    simp [select_cons, apart]
  · rw [Function.update_of_ne same]

/-- A frame which is taken leaves the frames of other numbers. -/
theorem wiresAgree_tail {msg : NMessage} {rest : List NMessage} {end' : ChannelMode}
    (front : system.wire end' = msg :: rest) (number : msg.no = no) :
    WiresAgree system no (Function.update system.wire end' rest) := by
  intro mode other different
  by_cases same : mode = end'
  · subst same
    have apart : msg.no ≠ other := by
      rintro rfl
      exact different number
    rw [Function.update_self, front, select_cons_of_ne apart]
  · rw [Function.update_of_ne same]

end System
end SM.Network
