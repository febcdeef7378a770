import SM.Network.ReqNumbers
import SM.Network.Tracking

/-!
# Request and reply correlation

One lemma for each action moves the exchange of its number to the next place. So
in every run of two ends each message number is at one place (`run_correlated`).
-/

namespace SM.Network

open SM.Lib SM.Utils

variable {RouterFunc : Type} {ends : Ends RouterFunc}

namespace System

variable {system : System RouterFunc} {mode : ChannelMode} {no : UInt32}
  {place : Place RouterFunc} {next : Process RouterFunc} {wire : ChannelMode → List NMessage}
  {moved : Place RouterFunc}

/-! ## The steps of the caller -/

/-- A call enters `_dataapp`. -/
theorem Correlated.queueApp (correlated : Correlated ends system) {index : Nat}
    (stepped : (system.process mode).Stepped (ends.config mode) (.queueApp index) next) :
    Correlated ends (system.act mode next system.wire) := by
  have agree := Process.agree_of_stepped stepped (ends.sock mode)
  cases stepped with
  | @queueApp index call found stage room =>
      obtain ⟨no, place, number, tracks, own, view, only, sound⟩ := correlated.of_call found
      have others := agree no (by simp [Process.number, found, number])
        (correlated.dispatcher_running mode)
      cases place with
      | unissued => cases only
      | queueing req =>
          cases only
          refine correlated.callerMovesAlone own tracks
            ⟨correlated.running mode, rfl, map_no_set found rfl⟩ others (.dataapp req) ?_ rfl rfl
            rfl sound
          refine (Process.view_queueApp found (congrArg View.calls view)).trans ?_
          rw [view]
          rfl
      | dataapp req => cases only; cases stage
      | sending req => cases only; cases stage
      | sent req notice transit => cases only; cases notice <;> cases stage
      | returned req strrep => cases only; cases stage

/-- The sender loop takes the message of a call. -/
theorem Correlated.takeApp (correlated : Correlated ends system)
    (stepped : (system.process mode).Stepped (ends.config mode) .takeApp next) :
    Correlated ends (system.act mode next system.wire) := by
  have agree := Process.agree_of_stepped stepped (ends.sock mode)
  cases stepped with
  | @takeApp sock msg dataapp idle front =>
      obtain ⟨no, number⟩ : ∃ no, msg.no = no := ⟨_, rfl⟩
      have others := agree no (by simp [Process.number, front, number])
        (correlated.dispatcher_running mode)
      obtain ⟨place, tracks⟩ := correlated.tracked no
      have queue : ((system.process mode).view (ends.sock mode) no).dataapp =
          (sock, msg) :: select (·.2.no) no dataapp := by
        simp [Process.view, front, select_cons, number]
      rcases tracks.view_cases mode with ⟨own, view⟩ | ⟨_, view⟩
      · obtain ⟨_, _, _, _, sound⟩ := tracks.at_owner own
        rw [view] at queue
        cases place with
        | dataapp req =>
            simp only [Place.caller, List.cons.injEq, Prod.mk.injEq] at queue
            obtain ⟨⟨rfl, rfl⟩, _⟩ := queue
            simp only [ends.registered mode, if_true] at others ⊢
            refine correlated.callerMovesAlone own tracks ⟨correlated.running mode, rfl, rfl⟩ others
              (.sending req) ?_ rfl rfl rfl sound
            refine (Process.view_takeApp front).trans ?_
            rw [view]
            rfl
        | _ => cases queue
      · rw [view, (server_calls _ _ _ place).2.1] at queue
        cases queue

/-- The frame of a request is written. -/
theorem Correlated.sendFrame (correlated : Correlated ends system)
    (stepped : (system.process mode).Stepped (ends.config mode) (.sendFrame true) next) :
    Correlated ends (system.act mode next (Function.update system.wire mode
      (system.wire mode ++ (system.process mode).frame (.sendFrame true)))) := by
  have agree := Process.agree_of_stepped stepped (ends.sock mode)
  cases stepped with
  | @sendFrame sock msg flag sending =>
      obtain ⟨no, number⟩ : ∃ no, msg.no = no := ⟨_, rfl⟩
      have others := agree no (by simp [Process.number, sending, SenderStage.no?, number])
        (correlated.dispatcher_running mode)
      obtain ⟨place, tracks⟩ := correlated.tracked no
      have stage : ((system.process mode).view (ends.sock mode) no).sender =
          .sending sock msg := by
        simp [Process.view, sending, SenderStage.only, number]
      have frame : (system.process mode).frame (.sendFrame true) = [msg] := by
        simp [Process.frame, sending]
      rw [frame]
      rcases tracks.view_cases mode with ⟨own, view⟩ | ⟨_, view⟩
      · obtain ⟨_, _, onWire, onWireBack, sound⟩ := tracks.at_owner own
        rw [view] at stage
        cases place with
        | sending req =>
            cases stage
            refine correlated.callerMoves own tracks ⟨correlated.running mode, rfl, rfl⟩ others
              (wiresAgree_append system mode rfl) (.sent req .unsent .wire) ?_ rfl ?_ ?_
              ⟨sound, trivial⟩
            · refine Process.view_sendFrame.trans ?_
              rw [view]
              rfl
            · simp [onWire, select_cons, Place.onWire, Transit.onWire]
            · rw [Function.update_of_ne (ChannelMode.peer_ne mode)]
              exact onWireBack
        | sent req notice transit => cases notice <;> cases stage
        | _ => cases stage
      · rw [view, (server_calls _ _ _ place).2.2.1] at stage
        cases stage

/-- The sender loop signals that the frame is sent. -/
theorem Correlated.notifySend (correlated : Correlated ends system)
    (stepped : (system.process mode).Stepped (ends.config mode) .notifySend next) :
    Correlated ends (system.act mode next system.wire) := by
  have agree := Process.agree_of_stepped stepped (ends.sock mode)
  cases stepped with
  | @notifySend sock msg flag sent =>
      obtain ⟨no, number⟩ : ∃ no, msg.no = no := ⟨_, rfl⟩
      have others := agree no (by simp [Process.number, sent, SenderStage.no?, number])
        (correlated.dispatcher_running mode)
      obtain ⟨place, tracks⟩ := correlated.tracked no
      have stage : ((system.process mode).view (ends.sock mode) no).sender =
          .sent sock msg flag := by
        simp [Process.view, sent, SenderStage.only, number]
      rcases tracks.view_cases mode with ⟨own, view⟩ | ⟨_, view⟩
      · obtain ⟨_, _, _, _, sound⟩ := tracks.at_owner own
        rw [view] at stage
        cases place with
        | sent req notice transit =>
            cases notice with
            | unsent =>
                cases stage
                refine correlated.callerMovesAlone own tracks
                  ⟨correlated.running mode, rfl, rfl⟩ others (.sent req .signalled transit) ?_ rfl
                  rfl rfl sound
                have waiting := congrArg View.sendComplete view
                refine (Process.view_notifySend waiting).trans ?_
                rw [view]
                rfl
            | signalled => cases stage
            | seen => cases stage
        | _ => cases stage
      · rw [view, (server_calls _ _ _ place).2.2.1] at stage
        cases stage

/-- A call learns that its request is sent. -/
theorem Correlated.wakeSend (correlated : Correlated ends system) {index : Nat}
    (stepped : (system.process mode).Stepped (ends.config mode) (.wakeSend index) next) :
    Correlated ends (system.act mode next system.wire) := by
  have agree := Process.agree_of_stepped stepped (ends.sock mode)
  cases stepped with
  | @wakeSend index call found stage signalled =>
      obtain ⟨no, place, number, tracks, own, view, only, sound⟩ := correlated.of_call found
      have others := agree no (by simp [Process.number, found, number])
        (correlated.dispatcher_running mode)
      cases place with
      | unissued => cases only
      | queueing req => cases only; cases stage
      | dataapp req =>
          cases only
          cases (congrArg View.sendComplete view).symm.trans signalled
      | sending req =>
          cases only
          cases (congrArg View.sendComplete view).symm.trans signalled
      | sent req notice transit =>
          cases only
          cases notice with
          | unsent => cases (congrArg View.sendComplete view).symm.trans signalled
          | signalled =>
              refine correlated.callerMovesAlone own tracks
                ⟨correlated.running mode, rfl, map_no_set found rfl⟩ others
                (.sent req .seen transit) ?_ rfl rfl rfl sound
              refine (Process.view_setCall found (congrArg View.calls view)).trans ?_
              rw [view]
              rfl
          | seen => cases stage
      | returned req strrep => cases only; cases stage
  | @wakeSendFailed index call found stage signalled =>
      obtain ⟨no, place, number, tracks, own, view, only, -⟩ := correlated.of_call found
      cases place with
      | unissued => cases only
      | returned req strrep => cases only; cases stage
      | sent req notice transit =>
          cases only
          cases notice <;> cases (congrArg View.sendComplete view).symm.trans signalled
      | _ =>
          cases only
          cases (congrArg View.sendComplete view).symm.trans signalled

/-- A call returns the reply. -/
theorem Correlated.wakeRep (correlated : Correlated ends system) {index : Nat}
    (stepped : (system.process mode).Stepped (ends.config mode) (.wakeRep index) next) :
    Correlated ends (system.act mode next system.wire) := by
  have agree := Process.agree_of_stepped stepped (ends.sock mode)
  cases stepped with
  | @wakeRep index call rep found stage signalled =>
      obtain ⟨no, place, number, tracks, own, view, only, sound⟩ := correlated.of_call found
      have others := agree no (by simp [Process.number, found, number])
        (correlated.dispatcher_running mode)
      cases place with
      | unissued => cases only
      | sent req notice transit =>
          cases only
          cases notice with
          | seen =>
              cases transit with
              | arrived strrep =>
                  cases (congrArg View.netRep view).symm.trans signalled
                  refine correlated.callerMovesAlone own tracks
                    ⟨correlated.running mode, rfl, map_no_set found rfl⟩ others
                    (.returned req strrep) ?_ rfl rfl rfl sound.2
                  refine (Process.view_finishCall (ends.assertions mode) found
                    (congrArg View.calls view)).trans ?_
                  rw [view]
                  rfl
              | _ => cases (congrArg View.netRep view).symm.trans signalled
          | _ => cases stage
      | _ => cases only; cases stage

/-! ## The steps of the server -/

/-- A reply coroutine prepares its signal. -/
theorem Correlated.prepareReply (correlated : Correlated ends system) {index : Nat}
    (stepped : (system.process mode).Stepped (ends.config mode) (.prepareReply index) next) :
    Correlated ends (system.act mode next system.wire) := by
  have agree := Process.agree_of_stepped stepped (ends.sock mode)
  cases stepped with
  | @prepareReply index reply router found stage prepared =>
      obtain ⟨no, place, number, tracks, own, view, only, sound⟩ := correlated.of_reply found
      have others := agree no (by simp [Process.number, found, number])
        (correlated.dispatcher_running mode)
      obtain ⟨req, notice, rfl⟩ := place_of_spawned only stage
      cases only
      refine correlated.serverMovesAlone own tracks ⟨correlated.running mode, rfl, rfl⟩ others
        (.sent req notice .queueing) rfl ?_ rfl rfl sound
      refine (Process.view_prepareReply found (congrArg View.replies view) prepared).trans ?_
      rw [view]
      rfl
  | @prepareReplyCrashed index reply found stage refused assertions =>
      obtain ⟨no, place, number, tracks, own, view, only, -⟩ := correlated.of_reply found
      obtain ⟨req, notice, rfl⟩ := place_of_spawned only stage
      cases only
      have absent : (system.process mode).router.appRepSignals (ends.sock mode) no = none :=
        congrArg View.appRep view
      simp [MessageRouter.prepareAppRep, MessageRouter.canWaitAppRep, absent] at refused
  | prepareReplyNull found stage refused assertions =>
      rw [ends.assertions mode] at assertions
      cases assertions

/-- A request enters `_dataio`. -/
theorem Correlated.queueIo (correlated : Correlated ends system) {index : Nat}
    (stepped : (system.process mode).Stepped (ends.config mode) (.queueIo index) next) :
    Correlated ends (system.act mode next system.wire) := by
  have agree := Process.agree_of_stepped stepped (ends.sock mode)
  cases stepped with
  | @queueIo index reply found stage room received =>
      obtain ⟨no, place, number, tracks, own, view, only, sound⟩ := correlated.of_reply found
      have others := agree no (by simp [Process.number, found, number])
        (correlated.dispatcher_running mode)
      obtain ⟨req, notice, rfl⟩ := place_of_queueing only stage
      cases only
      refine correlated.serverMovesAlone own tracks ⟨correlated.running mode, rfl, rfl⟩ others
        (.sent req notice .dataio) rfl ?_ rfl rfl sound
      refine (Process.view_queueIo found (congrArg View.replies view)).trans ?_
      rw [view]
      rfl
  | @queueIoCrashed index reply found stage room received =>
      obtain ⟨no, place, number, tracks, own, view, only, -⟩ := correlated.of_reply found
      obtain ⟨req, notice, rfl⟩ := place_of_queueing only stage
      cases only
      cases received

/-- The dispatcher takes a request and calls its handler. -/
theorem Correlated.dispatch (correlated : Correlated ends system)
    (stepped : (system.process mode).Stepped (ends.config mode) .dispatch next) :
    Correlated ends (system.act mode next system.wire) := by
  have agree := Process.agree_of_stepped stepped (ends.sock mode)
  cases stepped with
  | @dispatchCalling packet dataio plat func strreq idle front opened =>
      obtain ⟨no, number⟩ : ∃ no, packet.msg.no = no := ⟨_, rfl⟩
      have others := agree no (by simp [Process.number, front, number]) (by simp)
      obtain ⟨place, tracks⟩ := correlated.tracked no
      obtain ⟨own, view, req, notice, rfl, rfl⟩ := tracks.of_dataio front number
      obtain ⟨_, _, _, _, sound⟩ := tracks.at_server own
      refine correlated.serverMovesAlone own tracks ⟨correlated.running mode, rfl, rfl⟩
        others (.sent req notice (.calling plat func strreq)) rfl ?_ rfl rfl ⟨sound.1, opened⟩
      refine (Process.view_dispatch front).trans ?_
      rw [view]
      rfl
  | @dispatchClosed packet dataio turn idle front opened done =>
      obtain ⟨place, tracks⟩ := correlated.tracked packet.msg.no
      obtain ⟨own, view, req, notice, rfl, same⟩ := tracks.of_dataio front rfl
      obtain ⟨_, _, _, _, sound⟩ := tracks.at_server own
      obtain ⟨plat, func, strreq, calling⟩ := sound.1.calling (ends.assertions mode)
      rw [same] at opened
      exact absurd (opened.symm.trans calling) (done plat func strreq)

/-- The handler returns and the reply is signalled. -/
theorem Correlated.handlerDone (correlated : Correlated ends system) {ret : Bytes}
    (stepped : (system.process mode).Stepped (ends.config mode) (.handlerDone (.value ret)) next) :
    Correlated ends (system.act mode next system.wire) := by
  have agree := Process.agree_of_stepped stepped (ends.sock mode)
  cases stepped with
  | @handlerDone packet plat func strreq outcome calling =>
      obtain ⟨no, number⟩ : ∃ no, packet.msg.no = no := ⟨_, rfl⟩
      obtain ⟨place, tracks⟩ := correlated.tracked no
      have stage : ((system.process mode).view (ends.sock mode) no).dispatcher =
          .calling packet plat func strreq := by
        simp [Process.view, calling, DispatcherStage.only, number]
      rcases tracks.view_cases mode with ⟨_, view⟩ | ⟨own, view⟩
      · rw [view, (caller_replies _ _ place).2.2.2.1] at stage
        cases stage
      · obtain ⟨_, _, _, _, sound⟩ := tracks.at_server own
        rw [view] at stage
        cases place with
        | sent req notice transit =>
            cases transit with
            | calling plat func strreq =>
                cases stage
                have waiting := congrArg View.appRep view
                have replied := Process.closePacket_replying
                  ⟨ends.sock mode, ends.mainc mode, ⟨no, req⟩⟩
                  ((plat.pack (List.replicate plat.len 0)).2 ++ ret) (ends.assertions mode)
                  (correlated.running mode) waiting
                have others := agree no (by simp [Process.number, calling, DispatcherStage.no?])
                  (by rw [DispatcherConfig.closeCall, replied]; simp)
                refine correlated.serverMovesAlone own tracks ?_ others
                  (.sent req notice (.answered _)) rfl ?_ rfl rfl
                  ⟨sound.1, plat, func, strreq, ret, sound.2, rfl⟩
                · rw [DispatcherConfig.closeCall, replied]
                  exact ⟨correlated.running mode, rfl, rfl⟩
                · refine (Process.view_closePacket (ends.assertions mode)
                    (correlated.running mode) waiting).trans ?_
                  rw [view]
                  rfl
            | _ => cases stage
        | _ => cases stage

/-- A reply coroutine learns its reply. -/
theorem Correlated.wakeReply (correlated : Correlated ends system) {index : Nat}
    (stepped : (system.process mode).Stepped (ends.config mode) (.wakeReply index) next) :
    Correlated ends (system.act mode next system.wire) := by
  have agree := Process.agree_of_stepped stepped (ends.sock mode)
  cases stepped with
  | @wakeReply index reply rep found stage signalled =>
      obtain ⟨no, place, number, tracks, own, view, only, sound⟩ := correlated.of_reply found
      have others := agree no (by simp [Process.number, found, number])
        (correlated.dispatcher_running mode)
      cases place with
      | sent req notice transit =>
          cases transit with
          | answered strrep =>
              cases only
              cases (congrArg View.appRep view).symm.trans signalled
              refine correlated.serverMovesAlone own tracks ⟨correlated.running mode, rfl, rfl⟩
                others (.sent req notice (.replying strrep)) rfl ?_ rfl rfl sound
              refine (Process.view_setReply found (congrArg View.replies view)).trans ?_
              rw [view]
              rfl
          | dataio => cases only; cases (congrArg View.appRep view).symm.trans signalled
          | calling plat func strreq =>
              cases only
              cases (congrArg View.appRep view).symm.trans signalled
          | _ => cases only <;> cases stage
      | returned req strrep => cases only; cases stage
      | _ => cases only

/-- The frame of a reply is written. -/
theorem Correlated.replySent (correlated : Correlated ends system) {index : Nat}
    (stepped : (system.process mode).Stepped (ends.config mode) (.replySent index true) next) :
    Correlated ends (system.act mode next (Function.update system.wire mode
      (system.wire mode ++ (system.process mode).frame (.replySent index true)))) := by
  have agree := Process.agree_of_stepped stepped (ends.sock mode)
  cases stepped with
  | @replySent index reply rep flag found stage =>
      obtain ⟨no, number⟩ : ∃ no, reply.msg.no = no := ⟨_, rfl⟩
      have others := agree no (by simp [Process.number, found, number])
        (correlated.dispatcher_running mode)
      obtain ⟨place, tracks⟩ := correlated.tracked no
      obtain ⟨own, view, only⟩ := tracks.of_reply found number
      obtain ⟨_, _, onWire, onWireBack, sound⟩ := tracks.at_server own
      cases place with
      | sent req notice transit =>
          cases transit with
          | replying strrep =>
              cases only
              cases stage
              have frame : (system.process mode).frame (.replySent index true) =
                  [⟨no, strrep⟩] := by
                simp [Process.frame, found]
              rw [frame]
              refine correlated.serverMoves own tracks ⟨correlated.running mode, rfl, rfl⟩ others
                (wiresAgree_append system mode rfl) (.sent req notice (.wireBack strrep)) rfl ?_ ?_
                ?_ sound
              · refine (Process.view_setReply found (congrArg View.replies view)).trans ?_
                rw [view]
                rfl
              · rw [Function.update_of_ne (ChannelMode.peer_ne mode)]
                exact onWire
              · simp [onWireBack, select_cons, Place.onWireBack, Transit.onWireBack]
          | _ => cases only <;> cases stage
      | returned req strrep => cases only; cases stage
      | _ => cases only

/-! ## Receiving a frame -/

/-- A frame to the caller is the reply to a request, and the only one with its number. -/
theorem Place.eq_of_onWireBack {place : Place RouterFunc} {no : UInt32} {msg : NMessage}
    {rest : List NMessage} (front : msg :: rest = place.onWireBack no) :
    rest = [] ∧ ∃ req notice, place = .sent req notice (.wireBack msg.body) := by
  cases place with
  | sent req notice transit =>
      cases transit with
      | wireBack strrep =>
          simp only [Place.onWireBack, Transit.onWireBack, List.cons.injEq] at front
          obtain ⟨rfl, none⟩ := front
          exact ⟨none, req, notice, rfl⟩
      | _ => cases front
  | _ => cases front

/-- A frame to the server is a request, and the only one with its number. -/
theorem Place.eq_of_onWire {place : Place RouterFunc} {no : UInt32} {msg : NMessage}
    {rest : List NMessage} (front : msg :: rest = place.onWire no) :
    rest = [] ∧ ∃ notice, place = .sent msg.body notice .wire := by
  cases place with
  | sent req notice transit =>
      cases transit with
      | wire =>
          simp only [Place.onWire, Transit.onWire, List.cons.injEq] at front
          obtain ⟨rfl, none⟩ := front
          exact ⟨none, notice, rfl⟩
      | _ => cases front
  | _ => cases front

/-- The frame at the front of the wire is received: the reply to a call which waits for it, or
else a request. -/
theorem Correlated.recv (correlated : Correlated ends system) {msg : NMessage}
    {rest : List NMessage} (front : system.wire mode.peer = msg :: rest)
    (stepped : (system.process mode).Stepped (ends.config mode) (.recv (ends.sock mode) msg)
      next) :
    Correlated ends (system.act mode next (Function.update system.wire mode.peer rest)) := by
  have agree := Process.agree_of_stepped stepped (ends.sock mode)
  obtain ⟨no, number⟩ : ∃ no, msg.no = no := ⟨_, rfl⟩
  obtain ⟨place, tracks⟩ := correlated.tracked no
  have wires := wiresAgree_tail front number
  have frames : select (·.no) no (system.wire mode.peer) = msg :: select (·.no) no rest := by
    rw [front, select_cons_of_eq number]
  have kept : (Function.update system.wire mode.peer rest) mode = system.wire mode :=
    Function.update_of_ne (Ne.symm (ChannelMode.peer_ne mode)) ..
  cases stepped with
  | @recvRep sock msg waiting =>
      have others := agree no (by simp [Process.number, number])
        (correlated.dispatcher_running mode)
      have signal : ((system.process mode).view (ends.sock mode) no).netRep = some .waiting :=
        number ▸ waiting
      rcases tracks.view_cases mode with ⟨own, view⟩ | ⟨_, view⟩
      · obtain ⟨_, _, onWire, onWireBack, sound⟩ := tracks.at_owner own
        rw [frames] at onWireBack
        obtain ⟨none, req, notice, rfl⟩ := Place.eq_of_onWireBack onWireBack
        refine correlated.callerMoves own tracks ⟨correlated.running mode, rfl, rfl⟩ others wires
          (.sent req notice (.arrived msg.body)) ?_ rfl ?_ ?_ sound
        · subst number
          refine Process.view_recvRep.trans ?_
          rw [view]
          rfl
        · rw [kept]
          exact onWire
        · rw [Function.update_self]
          exact none
      · rw [view, (server_calls _ _ _ place).2.2.2.2] at signal
        cases signal
  | @recvReq sock msg notWaiting =>
      have others := agree no (by simp [Process.number, number])
        (correlated.dispatcher_running mode)
      rcases tracks.view_cases mode with ⟨own, view⟩ | ⟨own, view⟩
      · obtain ⟨_, _, _, onWireBack, _⟩ := tracks.at_owner own
        rw [frames] at onWireBack
        obtain ⟨-, req, notice, rfl⟩ := Place.eq_of_onWireBack onWireBack
        exact absurd (number ▸ congrArg View.netRep view) notWaiting
      · obtain ⟨_, _, onWire, onWireBack, sound⟩ := tracks.at_server own
        rw [frames] at onWire
        obtain ⟨none, notice, rfl⟩ := Place.eq_of_onWire onWire
        refine correlated.serverMoves own tracks ⟨correlated.running mode, rfl, rfl⟩ others wires
          (.sent msg.body notice .spawned) rfl ?_ ?_ ?_ sound
        · subst number
          refine Process.view_recvReq.trans ?_
          rw [view]
          rfl
        · rw [Function.update_self]
          exact none
        · rw [kept]
          exact onWireBack

/-! ## A new call -/

/-- The numbers of an end stay in its half. -/
theorem newReq_spec {mode : ChannelMode} {reqNo : UInt32} {count : Nat}
    (counted : reqNo.toNat = mode.firstReqNo.toNat + count) (few : count < 0x7fffffff) :
    (mode.newReq reqNo).toNat = mode.firstReqNo.toNat + count + 1 ∧
      owner (mode.newReq reqNo) = mode := by
  have room : mode.firstReqNo.toNat + 0x7fffffff ≤ mode.lastReqNo.toNat := by
    cases mode <;> decide
  have value : (mode.newReq reqNo).toNat = mode.firstReqNo.toNat + count + 1 := by
    rw [ChannelMode.toNat_newReq (by omega) (by omega), CyclicCounter.next, if_neg (by omega),
      counted]
  have half : halfMax.toNat = 0x7fffffff := rfl
  refine ⟨value, ?_⟩
  simp only [owner, UInt32.le_iff_toNat_le, half, value]
  cases mode with
  | initiative =>
      have zero : (ChannelMode.initiative.firstReqNo).toNat = 0 := rfl
      exact if_pos (by omega)
  | passive =>
      have middle : (ChannelMode.passive.firstReqNo).toNat = 0x7fffffff := rfl
      exact if_neg (by omega)

/-- The next number is the first of its end and the calls so far, and belongs to this end. -/
theorem Correlated.nextReqNo_spec (correlated : Correlated ends system)
    (few : (system.process mode).calls.length < 0x7fffffff) :
    ((system.process mode).nextReqNo (ends.config mode) (ends.sock mode)).toNat =
        mode.firstReqNo.toNat + (system.process mode).calls.length + 1 ∧
      owner ((system.process mode).nextReqNo (ends.config mode) (ends.sock mode)) = mode := by
  rw [Process.nextReqNo, ends.cmode mode]
  exact newReq_spec (correlated.counted mode) few

/-- The next number of an end belongs to no call. -/
theorem Correlated.unissued (correlated : Correlated ends system)
    (few : (system.process mode).calls.length < 0x7fffffff) :
    Tracks ends system ((system.process mode).nextReqNo (ends.config mode) (ends.sock mode))
      .unissued := by
  obtain ⟨next, own⟩ := correlated.nextReqNo_spec few
  generalize (system.process mode).nextReqNo (ends.config mode) (ends.sock mode) = no at next own
  obtain ⟨place, tracks⟩ := correlated.tracked no
  have view := (tracks.at_owner own).1
  have fresh : ∀ call, (place.caller (ends.sock mode) no).calls ≠ [call] := by
    intro call only
    have member : call ∈ ((system.process mode).view (ends.sock mode) no).calls := by
      rw [view, only]
      exact List.mem_cons_self
    obtain ⟨made, same⟩ := mem_select.mp member
    have bound := correlated.issued mode call made
    rw [same] at bound
    omega
  cases place with
  | unissued => exact tracks
  | _ => exact absurd rfl (fresh _)

/-- A new call takes the next number. -/
theorem Correlated.reqrep (correlated : Correlated ends system) {req : Bytes}
    (few : (system.process mode).calls.length < 0x7fffffff)
    (handler : (ends.config mode.peer).HasHandler (ends.mainc mode.peer) req)
    (stepped : (system.process mode).Stepped (ends.config mode) (.reqrep (ends.sock mode) req)
      next) :
    Correlated ends (system.act mode next system.wire) := by
  have agree := Process.agree_of_stepped stepped (ends.sock mode)
  obtain ⟨number, own⟩ := correlated.nextReqNo_spec few
  have tracks := correlated.unissued few
  obtain ⟨view, server, _, _, _⟩ := tracks.at_owner own
  have absent : (system.process mode).router.sendCompleteSignals (ends.sock mode)
        ((system.process mode).nextReqNo (ends.config mode) (ends.sock mode)) = none ∧
      (system.process mode).router.netRepSignals (ends.sock mode)
        ((system.process mode).nextReqNo (ends.config mode) (ends.sock mode)) = none :=
    ⟨congrArg View.sendComplete view, congrArg View.netRep view⟩
  cases stepped with
  | @reqrep sock req router prepared =>
      have others := agree _ rfl (correlated.dispatcher_running mode)
      refine correlated.advance (correlated.running mode) ?_ ?_ others (fun _ _ _ => rfl)
        (?_ : Tracks ends _ _ (.queueing req))
      · simp [Process.countReq, number, Nat.add_assoc]
      · intro call member
        have bound : call.no.toNat ≤
            mode.firstReqNo.toNat + (system.process mode).calls.length + 1 := by
          rcases List.mem_append.mp member with before | new
          · have bound := correlated.issued mode call before
            omega
          · rw [List.mem_singleton.mp new]
            exact Nat.le_of_eq number
        simpa [Nat.add_assoc] using bound
      · refine ⟨?_, ?_, tracks.onWire, tracks.onWireBack, ?_⟩
        · rw [own, act_process_self]
          refine (Process.view_reqrep prepared).trans ?_
          rw [view]
          rfl
        · rw [own, act_process_of_ne (ChannelMode.peer_ne mode)]
          exact server
        · rw [own]
          exact handler
  | reqrepCrashed refused assertions =>
      simp [MessageRouter.prepareReqRep, MessageRouter.canReqRep, absent] at refused
  | reqrepInvalid refused assertions =>
      rw [ends.assertions mode] at assertions
      cases assertions

/-! ## Every step -/

/-- A step without a frame leaves the wires. -/
theorem wires_of_frame_nil {action : Action} (local' : ∀ sock msg, action ≠ .recv sock msg)
    (silent : (system.process mode).frame action = []) :
    system.wires mode action = some system.wire := by
  cases action with
  | recv sock msg => exact absurd rfl (local' sock msg)
  | _ => simp [wires, silent]

/-- Every regular step of two ends keeps every number at one place. -/
theorem Correlated.step (correlated : Correlated ends system) {label : ChannelMode × Action}
    {after : System RouterFunc} (few : ∀ mode, (system.process mode).calls.length < 0x7fffffff)
    (regular : ends.Regular label) (stepped : system.step ends label = some after) :
    Correlated ends after := by
  obtain ⟨mode, action⟩ := label
  obtain ⟨next, processStep, moved⟩ := Option.bind_eq_some_iff.mp stepped
  obtain ⟨wire, wired, rfl⟩ := Option.map_eq_some_iff.mp moved
  have acted := (Process.stepped_of_step processStep).2
  cases action with
  | recv sock msg =>
      obtain rfl : sock = ends.sock mode := regular
      simp only [wires] at wired
      split at wired
      · cases wired
      · rename_i front rest frames
        split at wired
        · rename_i same
          cases wired
          exact correlated.recv (same ▸ frames) acted
        · cases wired
  | sendFrame flag =>
      obtain rfl : flag = true := regular
      cases wired
      exact correlated.sendFrame acted
  | replySent index flag =>
      obtain rfl : flag = true := regular
      cases wired
      exact correlated.replySent acted
  | reqrep sock req =>
      obtain ⟨rfl, handler⟩ := regular
      cases (wires_of_frame_nil (by simp) rfl).symm.trans wired
      exact correlated.reqrep (few mode) handler acted
  | handlerDone outcome =>
      obtain ⟨ret, rfl⟩ := regular
      cases (wires_of_frame_nil (by simp) rfl).symm.trans wired
      exact correlated.handlerDone acted
  | queueApp index =>
      cases (wires_of_frame_nil (by simp) rfl).symm.trans wired
      exact correlated.queueApp acted
  | takeApp =>
      cases (wires_of_frame_nil (by simp) rfl).symm.trans wired
      exact correlated.takeApp acted
  | notifySend =>
      cases (wires_of_frame_nil (by simp) rfl).symm.trans wired
      exact correlated.notifySend acted
  | wakeSend index =>
      cases (wires_of_frame_nil (by simp) rfl).symm.trans wired
      exact correlated.wakeSend acted
  | wakeRep index =>
      cases (wires_of_frame_nil (by simp) rfl).symm.trans wired
      exact correlated.wakeRep acted
  | prepareReply index =>
      cases (wires_of_frame_nil (by simp) rfl).symm.trans wired
      exact correlated.prepareReply acted
  | queueIo index =>
      cases (wires_of_frame_nil (by simp) rfl).symm.trans wired
      exact correlated.queueIo acted
  | dispatch =>
      cases (wires_of_frame_nil (by simp) rfl).symm.trans wired
      exact correlated.dispatch acted
  | wakeReply index =>
      cases (wires_of_frame_nil (by simp) rfl).symm.trans wired
      exact correlated.wakeReply acted

/-- No step of two ends forgets a call. -/
theorem step_calls_length_le {label : ChannelMode × Action} {after : System RouterFunc}
    (stepped : system.step ends label = some after) (mode : ChannelMode) :
    (system.process mode).calls.length ≤ (after.process mode).calls.length := by
  obtain ⟨next, processStep, moved⟩ := Option.bind_eq_some_iff.mp stepped
  obtain ⟨wire, _, rfl⟩ := Option.map_eq_some_iff.mp moved
  obtain ⟨_, stepped⟩ := Process.stepped_of_step processStep
  by_cases same : mode = label.1
  · subst same
    rw [act_process_self]
    exact Process.calls_length_le stepped
  · exact Nat.le_of_eq (by rw [act_process_of_ne same])

/-- Two ends start correlated. -/
theorem start_correlated (ends : Ends RouterFunc) : Correlated ends (System.start ends) where
  running _ := rfl
  counted mode := by
    simp [System.start, Process.start, ends.cmode]
  issued mode := by rintro call ⟨⟩
  tracked no := ⟨.unissued, rfl, rfl, rfl, rfl, trivial⟩

/-- After every run of regular steps in which no end has made too many calls, every number is
at one place. -/
theorem run_correlated (ends : Ends RouterFunc) {labels : List (ChannelMode × Action)}
    {final : System RouterFunc}
    (ran : Machine.run (System.step ends) (System.start ends) labels = some final)
    (regular : ∀ label ∈ labels, ends.Regular label)
    (few : ∀ mode, (final.process mode).calls.length < 0x7fffffff) : Correlated ends final := by
  refine Machine.run_invariant
    (fun system => (∀ mode, (system.process mode).calls.length < 0x7fffffff) →
      Correlated ends system) ends.Regular ?_ (fun _ => start_correlated ends) ran regular few
  intro system label after before allowed stepped few
  have earlier : ∀ mode, (system.process mode).calls.length < 0x7fffffff := fun mode =>
    Nat.lt_of_le_of_lt (step_calls_length_le stepped mode) (few mode)
  exact (before earlier).step earlier allowed stepped

end System
end SM.Network
