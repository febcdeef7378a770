import Mathlib.Algebra.GroupWithZero.Nat
import SM.Network.RequestReply

/-!
# Calls return

How many steps the calls of two ends still take. A call takes fourteen steps after it is made, at
whichever end and in whichever order, and each regular step is one of them (`remaining_step`).
So the steps end by themselves, and when they have, every call has returned: `calls_return`.
-/

namespace SM.Network

open SM.Lib SM.Utils

variable {RouterFunc : Type} {ends : Ends RouterFunc}

/-! ## Steps which remain -/

/-- The steps of a call, and of its request and reply while they stand with the call. -/
def CallStage.remaining : CallStage → Nat
  | .queueing => 14
  | .waitSend => 2
  | .waitRep => 1
  | .returned _ | .thrown => 0

def SenderStage.remaining : SenderStage → Nat
  | .idle => 0
  | .sending _ _ => 10
  | .sent _ _ _ => 1

/-- The steps of a reply coroutine, and of its request and reply while they stand with it. -/
def ReplyStage.remaining : ReplyStage → Nat
  | .spawned => 7
  | .queueing => 6
  | .waiting => 3
  | .sending _ => 2
  | .finished => 0

def DispatcherStage.remaining : DispatcherStage RouterFunc → Nat
  | .calling _ _ _ _ => 1
  | .idle | .stopped => 0

/-- The steps of a frame which an end has written: a request, or a reply to one. -/
def frameRemaining (mode : ChannelMode) (msg : NMessage) : Nat :=
  if owner msg.no = mode then 8 else 1

def Process.remaining (process : Process RouterFunc) : Nat :=
  (process.calls.map (·.stage.remaining)).sum + process.dataapp.length * 11 +
    process.sender.remaining + (process.replies.map (·.stage.remaining)).sum +
    process.dataio.length * 2 + process.dispatcher.remaining

/-- The action is a new call. -/
def Action.isCall : Action → Bool
  | .reqrep _ _ => true
  | _ => false

namespace System

/-- What both ends have together. -/
def both (amount : ChannelMode → Nat) : Nat :=
  amount .initiative + amount .passive

def remaining (system : System RouterFunc) : Nat :=
  both (fun mode => (system.process mode).remaining) +
    both fun mode => ((system.wire mode).map (frameRemaining mode)).sum

/-- The sum over both ends changes with one of them. -/
theorem both_update (amount : ChannelMode → Nat) (mode : ChannelMode) (changed : Nat) :
    both (Function.update amount mode changed) + amount mode = both amount + changed := by
  cases mode with
  | initiative => simp [both]; omega
  | passive => simp [both]; omega

/-- A sum changes with the record which is replaced. -/
theorem sum_map_set {Record : Type} (weight : Record → Nat) {records : List Record}
    {record : Record} {index : Nat} (changed : Record) (found : records[index]? = some record) :
    ((records.set index changed).map weight).sum + weight record =
      (records.map weight).sum + weight changed := by
  induction records generalizing index with
  | nil => simp at found
  | cons head records inductionHypothesis =>
      cases index with
      | zero =>
          cases found
          simp only [List.set_cons_zero, List.map_cons, List.sum_cons]
          omega
      | succ index =>
          have rest := @inductionHypothesis index found
          simp only [List.set_cons_succ, List.map_cons, List.sum_cons]
          omega

variable {system : System RouterFunc} {mode : ChannelMode} {next : Process RouterFunc}

/-- What remains changes with the process that acts and with the wires. -/
theorem remaining_act (system : System RouterFunc) (mode : ChannelMode)
    (next : Process RouterFunc) (wire : ChannelMode → List NMessage) :
    (system.act mode next wire).remaining + (system.process mode).remaining =
      both (fun mode => (system.process mode).remaining) + next.remaining +
        both fun mode => ((wire mode).map (frameRemaining mode)).sum := by
  have updated : (fun other => ((system.act mode next wire).process other).remaining) =
      Function.update (fun other => (system.process other).remaining) mode next.remaining := by
    funext other
    exact Function.apply_update (fun _ (process : Process RouterFunc) => process.remaining)
      system.process mode next other
  have total := both_update (fun other => (system.process other).remaining) mode next.remaining
  rw [remaining, updated]
  simp only [act] at total ⊢
  omega

/-- An action which writes and receives no frame. -/
theorem remaining_act_silent (system : System RouterFunc) (mode : ChannelMode)
    (next : Process RouterFunc) :
    (system.act mode next system.wire).remaining + (system.process mode).remaining =
      system.remaining + next.remaining := by
  rw [remaining_act, remaining]
  omega

/-- What remains on the wires changes with one of them. -/
theorem both_wires_update (system : System RouterFunc) (mode : ChannelMode)
    (frames : List NMessage) :
    (both fun other => ((Function.update system.wire mode frames other).map
        (frameRemaining other)).sum) + ((system.wire mode).map (frameRemaining mode)).sum =
      (both fun other => ((system.wire other).map (frameRemaining other)).sum) +
        (frames.map (frameRemaining mode)).sum := by
  have updated : (fun other => ((Function.update system.wire mode frames other).map
        (frameRemaining other)).sum) =
      Function.update (fun other => ((system.wire other).map (frameRemaining other)).sum) mode
        (frames.map (frameRemaining mode)).sum := by
    funext other
    exact Function.apply_update (fun other (frames : List NMessage) =>
      (frames.map (frameRemaining other)).sum) system.wire mode frames other
  rw [updated, both_update]

/-- An action which writes a frame. -/
theorem remaining_act_write (system : System RouterFunc) (mode : ChannelMode)
    (next : Process RouterFunc) (msg : NMessage) :
    (system.act mode next (Function.update system.wire mode
        (system.wire mode ++ [msg]))).remaining + (system.process mode).remaining =
      system.remaining + next.remaining + frameRemaining mode msg := by
  have wires := both_wires_update system mode (system.wire mode ++ [msg])
  rw [List.map_append, List.sum_append, List.map_singleton, List.sum_singleton] at wires
  rw [remaining_act, remaining]
  omega

/-- An action which receives a frame. -/
theorem remaining_act_recv {msg : NMessage} {rest : List NMessage}
    (front : system.wire mode.peer = msg :: rest) (next : Process RouterFunc) :
    (system.act mode next (Function.update system.wire mode.peer rest)).remaining +
        (system.process mode).remaining + frameRemaining mode.peer msg =
      system.remaining + next.remaining := by
  have wires := both_wires_update system mode.peer rest
  rw [front, List.map_cons, List.sum_cons] at wires
  have total := remaining_act system mode next (Function.update system.wire mode.peer rest)
  have before : system.remaining = both (fun mode => (system.process mode).remaining) +
      both fun mode => ((system.wire mode).map (frameRemaining mode)).sum := rfl
  omega

/-! ## A step of a process -/

variable {no : UInt32} {place : Place RouterFunc}

/-- What remains of a process changes with the stage of a call. -/
theorem remaining_setCall {process : Process RouterFunc} {call : ReqCall} {index : Nat}
    (changed : ReqCall) (found : process.calls[index]? = some call) :
    (process.setCall index changed).remaining + call.stage.remaining =
      process.remaining + changed.stage.remaining := by
  have sum := sum_map_set (fun call : ReqCall => call.stage.remaining) changed found
  simp only [Process.remaining, Process.setCall]
  omega

/-- What remains of a process changes with the stage of a reply. -/
theorem remaining_setReply {process : Process RouterFunc} {reply : ReplyCall} {index : Nat}
    (changed : ReplyCall) (found : process.replies[index]? = some reply) :
    (process.setReply index changed).remaining + reply.stage.remaining =
      process.remaining + changed.stage.remaining := by
  have sum := sum_map_set (fun reply : ReplyCall => reply.stage.remaining) changed found
  simp only [Process.remaining, Process.setReply]
  omega

/-- A caller has its one call on its channel. -/
theorem caller_call {sock : UInt32} {call : ReqCall}
    (only : (place.caller sock no).calls = [call]) : call.sock = sock ∧ call.valid = true := by
  cases place <;> cases only <;> exact ⟨rfl, rfl⟩

/-- Queueing a call leaves less to be done. -/
theorem Correlated.remaining_queueApp (correlated : Correlated ends system) {index : Nat}
    (stepped : (system.process mode).Stepped (ends.config mode) (.queueApp index) next) :
    next.remaining + 1 = (system.process mode).remaining := by
  cases stepped with
  | @queueApp index call found stage room =>
      obtain ⟨no, place, number, tracks, own, view, only, sound⟩ := correlated.of_call found
      obtain ⟨_, valid⟩ := caller_call only
      have calls := remaining_setCall { call with stage := .waitSend } found
      rw [stage] at calls
      simp only [Process.remaining, Process.setCall, CallStage.remaining, valid, if_true,
        List.length_append, List.length_singleton] at calls ⊢
      omega

/-- Taking a call from the queue leaves less to be done. -/
theorem Correlated.remaining_takeApp (correlated : Correlated ends system)
    (stepped : (system.process mode).Stepped (ends.config mode) .takeApp next) :
    next.remaining + 1 = (system.process mode).remaining := by
  cases stepped with
  | @takeApp sock msg dataapp idle front =>
      obtain ⟨place, tracks⟩ := correlated.tracked msg.no
      have queue : ((system.process mode).view (ends.sock mode) msg.no).dataapp =
          (sock, msg) :: select (·.2.no) msg.no dataapp := by
        simp [Process.view, front, select_cons]
      have own : sock = ends.sock mode := by
        rcases tracks.view_cases mode with ⟨_, view⟩ | ⟨_, view⟩
        · rw [view] at queue
          cases place with
          | dataapp req => exact (congrArg Prod.fst (List.cons.inj queue).1).symm
          | _ => cases queue
        · rw [view, (server_calls _ _ _ place).2.1] at queue
          cases queue
      simp only [Process.remaining, idle, front, own, ends.registered mode, if_true,
        SenderStage.remaining, List.length_cons]
      omega

/-- A frame which is sent takes what remains to the wire. -/
theorem Correlated.remaining_sendFrame (correlated : Correlated ends system)
    (stepped : (system.process mode).Stepped (ends.config mode) (.sendFrame true) next) :
    ∃ msg, (system.process mode).frame (.sendFrame true) = [msg] ∧
      next.remaining + frameRemaining mode msg + 1 = (system.process mode).remaining := by
  cases stepped with
  | @sendFrame sock msg flag sending =>
      obtain ⟨place, tracks⟩ := correlated.tracked msg.no
      have stage : ((system.process mode).view (ends.sock mode) msg.no).sender =
          .sending sock msg := by
        simp [Process.view, sending, SenderStage.only]
      have own : owner msg.no = mode := by
        rcases tracks.view_cases mode with ⟨own, _⟩ | ⟨_, view⟩
        · exact own
        · rw [view, (server_calls _ _ _ place).2.2.1] at stage
          cases stage
      refine ⟨msg, by simp [Process.frame, sending], ?_⟩
      simp only [Process.remaining, sending, SenderStage.remaining, frameRemaining, own, if_true]
      omega

/-- A notice to the caller leaves less to be done. -/
theorem Correlated.remaining_notifySend
    (stepped : (system.process mode).Stepped (ends.config mode) .notifySend next) :
    next.remaining + 1 = (system.process mode).remaining := by
  cases stepped with
  | notifySend sent =>
      simp only [Process.remaining, sent, SenderStage.remaining]
      omega

/-- A caller which wakes up leaves less to be done. -/
theorem Correlated.remaining_wakeSend (correlated : Correlated ends system) {index : Nat}
    (stepped : (system.process mode).Stepped (ends.config mode) (.wakeSend index) next) :
    next.remaining + 1 = (system.process mode).remaining := by
  cases stepped with
  | @wakeSend index call found stage signalled =>
      have calls := remaining_setCall { call with stage := .waitRep } found
      rw [stage] at calls
      simp only [CallStage.remaining] at calls
      omega
  | @wakeSendFailed index call found stage signalled =>
      obtain ⟨no, place, number, tracks, own, view, only, sound⟩ := correlated.of_call found
      obtain ⟨sock, _⟩ := caller_call only
      rw [sock, number] at signalled
      have signal : (place.caller (ends.sock mode) no).sendComplete = some (.sent false) :=
        (congrArg View.sendComplete view).symm.trans signalled
      cases place with
      | sent req notice transit => cases notice <;> cases signal
      | _ => cases signal

/-- The end of a call takes away what remained of it. -/
theorem remaining_finishCall {process : Process RouterFunc} {call : ReqCall} {index : Nat}
    (config : ProcessConfig RouterFunc) (ret : Option Bytes)
    (found : process.calls[index]? = some call) :
    (process.finishCall config index call ret).remaining + call.stage.remaining =
      process.remaining := by
  have calls := remaining_setCall { call with stage := .returned ret } found
  simp only [Process.remaining, Process.setCall, Process.finishCall, CallStage.remaining]
    at calls ⊢
  omega

/-- A caller which has its reply leaves less to be done. -/
theorem remaining_wakeRep {process : Process RouterFunc} {config : ProcessConfig RouterFunc}
    {index : Nat} (stepped : process.Stepped config (.wakeRep index) next) :
    next.remaining + 1 = process.remaining := by
  cases stepped with
  | @wakeRep index call rep found stage signalled =>
      have calls := remaining_finishCall config (some rep.body) found
      rw [stage] at calls
      exact calls

/-- Preparing a reply leaves less to be done. -/
theorem Correlated.remaining_prepareReply (running : next.crashed = false) {index : Nat}
    (stepped : (system.process mode).Stepped (ends.config mode) (.prepareReply index) next) :
    next.remaining + 1 = (system.process mode).remaining := by
  cases stepped with
  | @prepareReply index reply router found stage prepared =>
      have replies := remaining_setReply { reply with received := true, stage := .queueing } found
      rw [stage] at replies
      simp only [Process.remaining, Process.setReply, ReplyStage.remaining] at replies ⊢
      omega
  | prepareReplyCrashed found stage refused assertions => cases running
  | prepareReplyNull found stage refused assertions =>
      rw [ends.assertions mode] at assertions
      cases assertions

/-- Queueing a request leaves less to be done. -/
theorem Correlated.remaining_queueIo (running : next.crashed = false) {index : Nat}
    (stepped : (system.process mode).Stepped (ends.config mode) (.queueIo index) next) :
    next.remaining + 1 = (system.process mode).remaining := by
  cases stepped with
  | @queueIo index reply found stage room received =>
      have replies := remaining_setReply { reply with stage := .waiting } found
      rw [stage] at replies
      simp only [Process.remaining, Process.setReply, ReplyStage.remaining, List.length_append,
        List.length_singleton] at replies ⊢
      omega
  | queueIoCrashed found stage room received => cases running

/-- The packet at the front of `_dataio` is given to a handler. -/
theorem Correlated.remaining_dispatch (correlated : Correlated ends system)
    (stepped : (system.process mode).Stepped (ends.config mode) .dispatch next) :
    next.remaining + 1 = (system.process mode).remaining := by
  cases stepped with
  | dispatchCalling idle front opened =>
      simp only [Process.remaining, idle, front, DispatcherStage.remaining, List.length_cons]
      omega
  | @dispatchClosed packet dataio turn idle front opened done =>
      obtain ⟨place, tracks⟩ := correlated.tracked packet.msg.no
      obtain ⟨own, view, req, notice, rfl, same⟩ := tracks.of_dataio front rfl
      obtain ⟨_, _, _, _, handler, _⟩ := tracks.at_server own
      obtain ⟨plat, func, strreq, calling⟩ := handler.calling (ends.assertions mode)
      have body : packet.mainc = ends.mainc mode ∧ packet.msg.body = req := by
        rw [same]
        exact ⟨rfl, rfl⟩
      rw [body.1, body.2, calling] at opened
      exact absurd opened.symm (done plat func strreq)

/-- A handler which is done leaves less to be done. -/
theorem remaining_handlerDone {process : Process RouterFunc} {config : ProcessConfig RouterFunc}
    {outcome : HandlerOutcome} (stepped : process.Stepped config (.handlerDone outcome) next) :
    next.remaining + 1 = process.remaining := by
  cases stepped with
  | @handlerDone packet plat func strreq outcome calling =>
      have closed : (process.closePacket config packet
          (DispatcherConfig.closeCall plat outcome)).dispatcher.remaining = 0 := by
        simp only [Process.closePacket]
        split <;> rfl
      rw [Process.remaining, closed, Process.remaining, calling]
      simp only [Process.closePacket, DispatcherStage.remaining]

/-- A reply coroutine which wakes up leaves less to be done. -/
theorem remaining_wakeReply {process : Process RouterFunc} {config : ProcessConfig RouterFunc}
    {index : Nat} (stepped : process.Stepped config (.wakeReply index) next) :
    next.remaining + 1 = process.remaining := by
  cases stepped with
  | @wakeReply index reply rep found stage signalled =>
      have replies := remaining_setReply { reply with stage := .sending rep } found
      rw [stage] at replies
      simp only [ReplyStage.remaining] at replies
      omega

/-- A reply which is sent takes what remains to the wire. -/
theorem Correlated.remaining_replySent (correlated : Correlated ends system) {index : Nat}
    (stepped : (system.process mode).Stepped (ends.config mode) (.replySent index true) next) :
    ∃ msg, (system.process mode).frame (.replySent index true) = [msg] ∧
      next.remaining + frameRemaining mode msg + 1 = (system.process mode).remaining := by
  cases stepped with
  | @replySent index reply rep flag found stage =>
      obtain ⟨no, place, number, tracks, own, view, only, sound⟩ := correlated.of_reply found
      have foreign : owner rep.no ≠ mode := by
        have same : rep.no = no := by
          cases place with
          | sent req notice transit =>
              cases transit <;> cases only <;> cases stage
              rfl
          | returned req strrep => cases only; cases stage
          | _ => cases only
        rw [same, own]
        exact ChannelMode.peer_ne mode
      have replies := remaining_setReply { reply with stage := .finished } found
      rw [stage] at replies
      refine ⟨rep, ?_, ?_⟩
      · obtain ⟨sock, msg, received, state⟩ := reply
        cases stage
        simp [Process.frame, found]
      · simp only [ReplyStage.remaining, frameRemaining, if_neg foreign] at replies ⊢
        omega

/-- A frame is received as what it was written for. -/
theorem Correlated.remaining_recv (correlated : Correlated ends system) {msg : NMessage}
    {rest : List NMessage} (front : system.wire mode.peer = msg :: rest)
    (stepped : (system.process mode).Stepped (ends.config mode) (.recv (ends.sock mode) msg)
      next) :
    next.remaining + 1 = (system.process mode).remaining + frameRemaining mode.peer msg := by
  obtain ⟨place, tracks⟩ := correlated.tracked msg.no
  have frames : select (·.no) msg.no (system.wire mode.peer) = msg :: select (·.no) msg.no rest := by
    rw [front, select_cons_of_eq rfl]
  cases stepped with
  | @recvRep sock msg waiting =>
      rcases tracks.view_cases mode with ⟨own, _⟩ | ⟨_, view⟩
      · simp [Process.remaining, frameRemaining, own, Ne.symm (ChannelMode.peer_ne mode)]
      · have signal := (congrArg View.netRep view).symm.trans waiting
        rw [(server_calls _ _ _ place).2.2.2.2] at signal
        cases signal
  | @recvReq sock msg notWaiting =>
      rcases tracks.view_cases mode with ⟨own, view⟩ | ⟨own, _⟩
      · obtain ⟨_, _, _, onWireBack, _⟩ := tracks.at_owner own
        rw [frames] at onWireBack
        obtain ⟨-, req, notice, rfl⟩ := Place.eq_of_onWireBack onWireBack
        exact absurd (congrArg View.netRep view) notWaiting
      · simp only [Process.remaining, frameRemaining, own, if_true, List.map_append,
          List.sum_append, List.map_singleton, List.sum_singleton, ReplyStage.remaining]
        omega

/-! ## A step of both ends -/

/-- A regular step which is not a new call is one of the steps that remained. -/
theorem Correlated.remaining_step (correlated : Correlated ends system)
    {label : ChannelMode × Action} {after : System RouterFunc}
    (few : ∀ mode, (system.process mode).calls.length < 0x7fffffff)
    (regular : ends.Regular label) (old : label.2.isCall = false)
    (stepped : system.step ends label = some after) : after.remaining + 1 = system.remaining := by
  have running := (correlated.step few regular stepped).running label.1
  obtain ⟨mode, action⟩ := label
  obtain ⟨next, processStep, moved⟩ := Option.bind_eq_some_iff.mp stepped
  obtain ⟨wire, wired, rfl⟩ := Option.map_eq_some_iff.mp moved
  have acted := (Process.stepped_of_step processStep).2
  dsimp only at running wired acted old ⊢
  rw [act_process_self] at running
  have silent : (∀ sock msg, action ≠ .recv sock msg) → (system.process mode).frame action = [] →
      next.remaining + 1 = (system.process mode).remaining →
      (system.act mode next wire).remaining + 1 = system.remaining := by
    intro local' none one
    cases (wires_of_frame_nil local' none).symm.trans wired
    have total := remaining_act_silent system mode next
    omega
  cases action with
  | reqrep sock req => cases old
  | queueApp index => exact silent (by simp) rfl (correlated.remaining_queueApp acted)
  | takeApp => exact silent (by simp) rfl (correlated.remaining_takeApp acted)
  | sendFrame flag =>
      obtain rfl : flag = true := regular
      cases wired
      obtain ⟨msg, frame, one⟩ := correlated.remaining_sendFrame acted
      rw [frame]
      have total := remaining_act_write system mode next msg
      omega
  | notifySend => exact silent (by simp) rfl (remaining_notifySend acted)
  | wakeSend index => exact silent (by simp) rfl (correlated.remaining_wakeSend acted)
  | wakeRep index => exact silent (by simp) rfl (remaining_wakeRep acted)
  | recv sock msg =>
      obtain rfl : sock = ends.sock mode := regular
      simp only [wires] at wired
      split at wired
      · cases wired
      · rename_i front rest frames
        split at wired
        · rename_i same
          cases wired
          have one := correlated.remaining_recv (same ▸ frames) acted
          have total := remaining_act_recv (same ▸ frames) next
          omega
        · cases wired
  | prepareReply index => exact silent (by simp) rfl (remaining_prepareReply running acted)
  | queueIo index => exact silent (by simp) rfl (remaining_queueIo running acted)
  | dispatch => exact silent (by simp) rfl (correlated.remaining_dispatch acted)
  | handlerDone outcome => exact silent (by simp) rfl (remaining_handlerDone acted)
  | wakeReply index => exact silent (by simp) rfl (remaining_wakeReply acted)
  | replySent index flag =>
      obtain rfl : flag = true := regular
      cases wired
      obtain ⟨msg, frame, one⟩ := correlated.remaining_replySent acted
      rw [frame]
      have total := remaining_act_write system mode next msg
      omega

/-- A new call has all its steps before it. -/
theorem Correlated.remaining_call (correlated : Correlated ends system)
    {label : ChannelMode × Action} {after : System RouterFunc}
    (few : ∀ mode, (system.process mode).calls.length < 0x7fffffff)
    (regular : ends.Regular label) (new : label.2.isCall = true)
    (stepped : system.step ends label = some after) :
    after.remaining = system.remaining + 14 ∧
      both (fun mode => (after.process mode).calls.length) =
        both (fun mode => (system.process mode).calls.length) + 1 := by
  have running := (correlated.step few regular stepped).running label.1
  obtain ⟨mode, action⟩ := label
  obtain ⟨next, processStep, moved⟩ := Option.bind_eq_some_iff.mp stepped
  obtain ⟨wire, wired, rfl⟩ := Option.map_eq_some_iff.mp moved
  have acted := (Process.stepped_of_step processStep).2
  dsimp only at running wired acted new ⊢
  rw [act_process_self] at running
  cases action with
  | reqrep sock req =>
      cases (wires_of_frame_nil (by simp) rfl).symm.trans wired
      have total := remaining_act_silent system mode next
      have calls := both_update (fun other => (system.process other).calls.length) mode
        next.calls.length
      have updated : (fun other => ((system.act mode next system.wire).process other).calls.length) =
          Function.update (fun other => (system.process other).calls.length) mode
            next.calls.length := by
        funext other
        exact Function.apply_update (fun _ (process : Process RouterFunc) => process.calls.length)
          system.process mode next other
      rw [updated]
      cases acted with
      | reqrep prepared =>
          simp only [Process.remaining, Process.countReq, CallStage.remaining, List.map_append,
            List.sum_append, List.map_singleton, List.sum_singleton, List.length_append,
            List.length_singleton] at total calls ⊢
          omega
      | reqrepCrashed refused assertions => cases running
      | reqrepInvalid refused assertions =>
          rw [ends.assertions mode] at assertions
          cases assertions
  | _ => cases new

/-- Only a new call adds to the calls. -/
theorem step_calls_length_eq {label : ChannelMode × Action} {after : System RouterFunc}
    (old : label.2.isCall = false) (stepped : system.step ends label = some after)
    (mode : ChannelMode) :
    (after.process mode).calls.length = (system.process mode).calls.length := by
  obtain ⟨next, processStep, moved⟩ := Option.bind_eq_some_iff.mp stepped
  obtain ⟨wire, _, rfl⟩ := Option.map_eq_some_iff.mp moved
  obtain ⟨_, acted⟩ := Process.stepped_of_step processStep
  by_cases same : mode = label.1
  · subst same
    rw [act_process_self]
    generalize label.2 = action at acted old
    cases acted with
    | reqrep => cases old
    | reqrepCrashed => cases old
    | reqrepInvalid => cases old
    | _ => simp [Process.setCall, Process.finishCall, Process.closePacket, Process.setReply]
  · rw [act_process_of_ne same]

/-! ## Runs -/

/-- No more than fourteen steps remain for each call. -/
theorem run_remaining (ends : Ends RouterFunc) {labels : List (ChannelMode × Action)}
    {final : System RouterFunc}
    (ran : Machine.run (System.step ends) (System.start ends) labels = some final)
    (regular : ∀ label ∈ labels, ends.Regular label)
    (few : ∀ mode, (final.process mode).calls.length < 0x7fffffff) :
    Correlated ends final ∧
      final.remaining ≤ 14 * both fun mode => (final.process mode).calls.length := by
  refine Machine.run_invariant
    (fun system => (∀ mode, (system.process mode).calls.length < 0x7fffffff) →
      Correlated ends system ∧
        system.remaining ≤ 14 * both fun mode => (system.process mode).calls.length)
    ends.Regular ?_ ?_ ran regular few
  · intro system label after before allowed stepped few
    have earlier : ∀ mode, (system.process mode).calls.length < 0x7fffffff := fun mode =>
      Nat.lt_of_le_of_lt (step_calls_length_le stepped mode) (few mode)
    obtain ⟨correlated, bound⟩ := before earlier
    refine ⟨correlated.step earlier allowed stepped, ?_⟩
    cases kind : label.2.isCall with
    | true =>
        obtain ⟨more, counted⟩ := correlated.remaining_call earlier allowed kind stepped
        omega
    | false =>
        have one := correlated.remaining_step earlier allowed kind stepped
        have initiative := step_calls_length_le stepped .initiative
        have passive := step_calls_length_le stepped .passive
        simp only [both] at bound ⊢
        omega
  · intro _
    exact ⟨start_correlated ends, Nat.zero_le _⟩

end System

/-- A regular step which is not a new call. -/
def Ends.Continues (ends : Ends RouterFunc) (label : ChannelMode × Action) : Prop :=
  ends.Regular label ∧ label.2.isCall = false

/-- What becomes of the calls of two ends when no further calls are made. -/
structure System.Returns (ends : Ends RouterFunc) (system : System RouterFunc) : Prop where
  /-- In whichever order the steps are taken, they are at most fourteen for each call. -/
  bounded : ∀ more after, Machine.run (System.step ends) system more = some after →
    (∀ label ∈ more, ends.Continues label) →
    more.length ≤ 14 * System.both fun mode => (system.process mode).calls.length
  /-- Both ends can come to rest. -/
  rests : ∃ more after, (∀ label ∈ more, ends.Continues label) ∧
    Machine.run (System.step ends) system more = some after ∧
    Machine.Stuck (System.step ends) ends.Continues after
  /-- When they have, every call has returned what the dispatcher of the other end has replied to
  its request. -/
  returned : ∀ more after, Machine.run (System.step ends) system more = some after →
    (∀ label ∈ more, ends.Continues label) →
    Machine.Stuck (System.step ends) ends.Continues after →
    ∀ mode, ∀ call ∈ (after.process mode).calls, ∃ strrep,
      call.stage = .returned (some strrep) ∧
        ⟨ends.sock mode.peer, ⟨call.no, call.req⟩, strrep⟩ ∈ (after.process mode.peer).handled ∧
        (ends.config mode.peer).RepliesTo (ends.mainc mode.peer) call.req strrep

/-- After every run of regular steps in which no end makes 2^31 - 1 calls, the calls return. -/
theorem calls_return {RouterFunc : Type} (ends : Ends RouterFunc)
    (labels : List (ChannelMode × Action)) (system : System RouterFunc)
    (ran : Machine.run (System.step ends) (System.start ends) labels = some system)
    (regular : ∀ label ∈ labels, ends.Regular label)
    (few : ∀ mode, (system.process mode).calls.length < 0x7fffffff) :
    system.Returns ends := by
  obtain ⟨correlated, bound⟩ := System.run_remaining ends ran regular few
  have preserved : ∀ {system : System RouterFunc} {label : ChannelMode × Action} {next},
      (System.Correlated ends system ∧
        ∀ mode, (system.process mode).calls.length < 0x7fffffff) →
      ends.Continues label → system.step ends label = some next →
      System.Correlated ends next ∧ ∀ mode, (next.process mode).calls.length < 0x7fffffff := by
    rintro system label next ⟨correlated, few⟩ ⟨regular, old⟩ stepped
    refine ⟨correlated.step few regular stepped, ?_⟩
    intro mode
    rw [System.step_calls_length_eq old stepped mode]
    exact few mode
  have decreases : ∀ {system : System RouterFunc} {label : ChannelMode × Action} {next},
      (System.Correlated ends system ∧
        ∀ mode, (system.process mode).calls.length < 0x7fffffff) →
      ends.Continues label → system.step ends label = some next →
      next.remaining < system.remaining := by
    rintro system label next ⟨correlated, few⟩ ⟨regular, old⟩ stepped
    have one := correlated.remaining_step few regular old stepped
    omega
  refine ⟨?_, ?_, ?_⟩
  · intro more after ran continues
    have length := Machine.length_add_le_of_decreases _ ends.Continues System.remaining preserved
      decreases ⟨correlated, few⟩ ran continues
    omega
  · exact Machine.exists_run_stuck _ ends.Continues System.remaining preserved decreases
      ⟨correlated, few⟩
  · intro more after ran continues stuck mode call member
    obtain ⟨correlated, _⟩ := Machine.run_invariant _ ends.Continues preserved ⟨correlated, few⟩
      ran continues
    cases returned : call.stage.isReturned with
    | false =>
        obtain ⟨label, next, allowed, old, stepped⟩ := correlated.progress member returned
        refine absurd stepped (stuck label next ⟨allowed, ?_⟩)
        cases action : label.2 with
        | reqrep sock req => exact absurd action (old sock req)
        | _ => rfl
    | true =>
        cases stage : call.stage with
        | returned ret =>
            obtain ⟨strrep, rfl, handled, replied⟩ := correlated.returned member stage
            exact ⟨strrep, rfl, handled, replied⟩
        | _ => rw [stage] at returned; cases returned

/-- The calls return when the request is on the wire. -/
theorem calls_return_sent :
    ∃ system, Machine.run (System.step oneChannel) (System.start oneChannel)
        (earlyReply.take 4) = some system ∧
      (system.process .initiative).sender = .sent 3 ⟨1, [0, 0, 0, 1, 0, 0, 0, 2, 5]⟩ true ∧
      system.Returns oneChannel := by
  refine ⟨_, rfl, rfl, calls_return oneChannel (earlyReply.take 4) _ rfl ?_ ?_⟩
  · have handler := hasHandler_single
    simp [earlyReply, Ends.Regular, oneChannel]
    exact handler
  · intro mode
    cases mode <;> decide

end SM.Network
