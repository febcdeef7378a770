import SM.Lib.Keyed
import SM.Network.ProcessSteps

/-!
# A process seen at one message number

`Process.view` restricts everything a process holds to one message number on one
socket. An action is about one number: `AgreeExcept` says that it leaves the
views of all other numbers as they were.
-/

namespace SM.Network

open SM.Lib

/-- What a process holds of one message number. -/
@[ext]
structure View (RouterFunc : Type) where
  calls : List ReqCall := []
  dataapp : List (UInt32 × NMessage) := []
  sender : SenderStage := .idle
  sendComplete : Option (Signal Bool) := none
  netRep : Option (Signal NMessage) := none
  replies : List ReplyCall := []
  appRep : Option (Signal NMessage) := none
  dataio : List IoPacket := []
  dispatcher : DispatcherStage RouterFunc := .idle
  handled : List HandledPacket := []

variable {RouterFunc : Type} {config : ProcessConfig RouterFunc}
  {process next : Process RouterFunc} {sock no other : UInt32}

/-- The number of the sender's message. -/
def SenderStage.no? : SenderStage → Option UInt32
  | .idle => none
  | .sending _ msg | .sent _ msg _ => some msg.no

/-- The number of the dispatcher's packet. -/
def DispatcherStage.no? : DispatcherStage RouterFunc → Option UInt32
  | .calling packet _ _ _ => some packet.msg.no
  | .idle | .stopped => none

/-- The stage, if the sender has a message with the number. -/
def SenderStage.only (no : UInt32) : SenderStage → SenderStage
  | .idle => .idle
  | .sending sock msg => if msg.no = no then .sending sock msg else .idle
  | .sent sock msg flag => if msg.no = no then .sent sock msg flag else .idle

/-- The stage, if the dispatcher does not handle a packet with another number. -/
def DispatcherStage.only (no : UInt32) :
    DispatcherStage RouterFunc → DispatcherStage RouterFunc
  | .idle => .idle
  | .calling packet plat func strreq =>
      if packet.msg.no = no then .calling packet plat func strreq else .idle
  | .stopped => .stopped

namespace Process

def view (process : Process RouterFunc) (sock no : UInt32) : View RouterFunc where
  calls := select (·.no) no process.calls
  dataapp := select (·.2.no) no process.dataapp
  sender := process.sender.only no
  sendComplete := process.router.sendCompleteSignals sock no
  netRep := process.router.netRepSignals sock no
  replies := select (·.msg.no) no process.replies
  appRep := process.router.appRepSignals sock no
  dataio := select (·.msg.no) no process.dataio
  dispatcher := process.dispatcher.only no
  handled := select (·.msg.no) no process.handled

/-- The number which an action is about. -/
def number (config : ProcessConfig RouterFunc) (process : Process RouterFunc) :
    Action → Option UInt32
  | .reqrep sock _ => some (process.nextReqNo config sock)
  | .queueApp index | .wakeSend index | .wakeRep index => process.calls[index]?.map (·.no)
  | .takeApp => process.dataapp.head?.map (·.2.no)
  | .sendFrame _ | .notifySend => process.sender.no?
  | .recv _ msg => some msg.no
  | .prepareReply index | .queueIo index | .wakeReply index | .replySent index _ =>
      process.replies[index]?.map (·.msg.no)
  | .dispatch => process.dataio.head?.map (·.msg.no)
  | .handlerDone _ => process.dispatcher.no?

/-! ## An action leaves the other numbers alone -/

/-- The processes hold the same of every number but one. -/
def AgreeExcept (sock no : UInt32) (process next : Process RouterFunc) : Prop :=
  ∀ other, other ≠ no → next.view sock other = process.view sock other

/-- A call which is replaced does not show under another number. -/
theorem select_calls_set {index : Nat} {call changed : ReqCall}
    (found : process.calls[index]? = some call) (same : changed.no = call.no)
    (different : call.no ≠ other) :
    select (·.no) other (process.calls.set index changed) = select (·.no) other process.calls :=
  select_set_of_ne found different (same ▸ different)

/-- A reply which is replaced does not show under another number. -/
theorem select_replies_set {index : Nat} {reply changed : ReplyCall}
    (found : process.replies[index]? = some reply) (same : changed.msg = reply.msg)
    (different : reply.msg.no ≠ other) :
    select (·.msg.no) other (process.replies.set index changed) =
      select (·.msg.no) other process.replies :=
  select_set_of_ne found different (same ▸ different)

/-- A call which is replaced leaves the views of other numbers. -/
theorem agree_setCall {index : Nat} {call changed : ReqCall}
    (found : process.calls[index]? = some call) (same : changed.no = call.no)
    (different : call.no ≠ other) :
    (process.setCall index changed).view sock other = process.view sock other := by
  ext1
  case calls => exact select_calls_set found same different
  all_goals rfl

/-- A reply which is replaced leaves the views of other numbers. -/
theorem agree_setReply {index : Nat} {reply changed : ReplyCall}
    (found : process.replies[index]? = some reply) (same : changed.msg = reply.msg)
    (different : reply.msg.no ≠ other) :
    (process.setReply index changed).view sock other = process.view sock other := by
  ext1
  case replies => exact select_replies_set found same different
  all_goals rfl

/-- The end of a call leaves the views of other numbers. -/
theorem agree_finishCall {index : Nat} {call : ReqCall} {ret : Option Utils.Bytes}
    (found : process.calls[index]? = some call) (different : call.no ≠ other) :
    (process.finishCall config index call ret).view sock other = process.view sock other := by
  ext1
  case calls => exact select_calls_set found rfl different
  case sendComplete =>
    by_cases assertions : config.assertions = true
    · simp [view, finishCall, setCall, assertions, MessageRouter.finishReqRep,
        SignalTable.set_of_no_ne _ _ _ _ different]
    · simp [view, finishCall, setCall, assertions]
  case netRep =>
    by_cases assertions : config.assertions = true
    · simp [view, finishCall, setCall, assertions, MessageRouter.finishReqRep,
        SignalTable.set_of_no_ne _ _ _ _ different]
    · simp [view, finishCall, setCall, assertions]
  case appRep =>
    by_cases assertions : config.assertions = true <;>
      simp [view, finishCall, setCall, assertions, MessageRouter.finishReqRep]
  all_goals rfl

/-- The end of a turn leaves the views of other numbers. -/
theorem agree_closePacket {packet : IoPacket} {turn : DispatchTurn RouterFunc}
    (running : (process.closePacket config packet turn).dispatcher ≠ .stopped)
    (free : process.dispatcher.only other = .idle) (different : packet.msg.no ≠ other) :
    (process.closePacket config packet turn).view sock other = process.view sock other := by
  have router := closePacket_router config process packet turn
  have kept : (process.closePacket config packet turn).router.sendCompleteSignals =
        process.router.sendCompleteSignals ∧
      (process.closePacket config packet turn).router.netRepSignals =
        process.router.netRepSignals ∧
      (process.closePacket config packet turn).router.appRepSignals sock other =
        process.router.appRepSignals sock other := by
    rcases router with same | ⟨rep, _, signalled⟩
    · rw [same]
      exact ⟨rfl, rfl, rfl⟩
    · rw [signalled]
      exact ⟨rfl, rfl, SignalTable.set_of_no_ne _ _ _ _ different⟩
  have idle : (process.closePacket config packet turn).dispatcher = .idle := by
    simp only [closePacket] at running ⊢
    split
    · rfl
    · rename_i halted
      simp [halted] at running
  have handled : select (·.msg.no) other (process.closePacket config packet turn).handled =
      select (·.msg.no) other process.handled := by
    simp only [closePacket, select_append, List.append_right_eq_self]
    apply List.filter_eq_nil_iff.mpr
    intro entry member
    obtain ⟨reply, _, rfl⟩ := List.mem_map.mp member
    simpa using different
  ext1
  case sendComplete => exact congrFun (congrFun kept.1 sock) other
  case netRep => exact congrFun (congrFun kept.2.1 sock) other
  case appRep => exact kept.2.2
  case dispatcher =>
    simp only [view, idle, free]
    rfl
  case handled => exact handled
  all_goals rfl

/-- A step leaves the views of the other numbers as they were, as long as the dispatcher runs. -/
theorem agree_of_stepped {action : Action} (stepped : Stepped config process action next)
    (sock no : UInt32) (about : process.number config action = some no)
    (running : next.dispatcher ≠ .stopped) : AgreeExcept sock no process next := by
  intro other apart
  have different := Ne.symm apart
  cases stepped with
  | reqrep prepared =>
      cases about
      simp only [MessageRouter.prepareReqRep, Option.ite_none_right_eq_some] at prepared
      obtain ⟨_, prepared⟩ := prepared
      cases prepared
      ext1 <;> simp [view, countReq, MessageRouter.prepareSignalSendComplete,
        MessageRouter.prepareSignalRecvNetRep, select_cons, different,
        SignalTable.set_of_no_ne _ _ _ _ different]
  | reqrepCrashed refused assertions => rfl
  | reqrepInvalid refused assertions =>
      cases about
      ext1 <;> simp [view, countReq, select_cons, different]
  | queueApp found stage room =>
      simp only [number, found, Option.map_some, Option.some.injEq] at about
      ext1
      case calls => exact select_calls_set found rfl (about ▸ different)
      case dataapp => simp [view, select_cons, about, different]
      all_goals rfl
  | @takeApp msgSock msg dataapp idle front =>
      simp only [number, front, List.head?_cons, Option.map_some, Option.some.injEq] at about
      ext1
      case dataapp => simp [view, front, select_cons, about, different]
      case sender =>
        by_cases registered : config.registered msgSock = true <;>
          simp [view, idle, registered, SenderStage.only, about, different]
      all_goals rfl
  | sendFrame sending =>
      simp only [number, sending, SenderStage.no?, Option.some.injEq] at about
      ext1
      case sender => simp [view, sending, SenderStage.only, about, different]
      all_goals rfl
  | notifySend sent =>
      simp only [number, sent, SenderStage.no?, Option.some.injEq] at about
      ext1
      case sender => simp [view, sent, SenderStage.only, about, different]
      case sendComplete => exact SignalTable.notify_of_no_ne _ _ _ _ (about ▸ different)
      all_goals rfl
  | wakeSend found stage signalled =>
      simp only [number, found, Option.map_some, Option.some.injEq] at about
      exact agree_setCall found rfl (about ▸ different)
  | wakeSendFailed found stage signalled =>
      simp only [number, found, Option.map_some, Option.some.injEq] at about
      exact agree_finishCall found (about ▸ different)
  | wakeRep found stage signalled =>
      simp only [number, found, Option.map_some, Option.some.injEq] at about
      exact agree_finishCall found (about ▸ different)
  | recvRep waiting =>
      cases about
      ext1
      case netRep => exact SignalTable.set_of_no_ne _ _ _ _ different
      all_goals rfl
  | recvReq notWaiting =>
      cases about
      ext1
      case replies => simp [view, select_cons, different]
      all_goals rfl
  | prepareReply found stage prepared =>
      simp only [number, found, Option.map_some, Option.some.injEq] at about
      simp only [MessageRouter.prepareAppRep, Option.ite_none_right_eq_some] at prepared
      obtain ⟨_, prepared⟩ := prepared
      cases prepared
      ext1
      case replies => exact select_replies_set found rfl (about ▸ different)
      case appRep => exact SignalTable.set_of_no_ne _ _ _ _ (about ▸ different)
      all_goals rfl
  | prepareReplyCrashed found stage refused assertions => rfl
  | prepareReplyNull found stage refused assertions =>
      simp only [number, found, Option.map_some, Option.some.injEq] at about
      exact agree_setReply found rfl (about ▸ different)
  | queueIo found stage room received =>
      simp only [number, found, Option.map_some, Option.some.injEq] at about
      ext1
      case replies => exact select_replies_set found rfl (about ▸ different)
      case dataio => simp [view, select_cons, about, different]
      all_goals rfl
  | queueIoCrashed found stage room received =>
      simp only [number, found, Option.map_some, Option.some.injEq] at about
      ext1
      case dataio => simp [view, select_cons, about, different]
      all_goals rfl
  | dispatchCalling idle front opened =>
      simp only [number, front, List.head?_cons, Option.map_some, Option.some.injEq] at about
      ext1
      case dataio => simp [view, front, select_cons, about, different]
      case dispatcher => simp [view, idle, DispatcherStage.only, about, different]
      all_goals rfl
  | dispatchClosed idle front opened done =>
      simp only [number, front, List.head?_cons, Option.map_some, Option.some.injEq] at about
      refine (agree_closePacket running ?_ (about ▸ different)).trans ?_
      · simp [idle, DispatcherStage.only]
      · ext1
        case dataio => simp [view, front, select_cons, about, different]
        all_goals rfl
  | handlerDone calling =>
      simp only [number, calling, DispatcherStage.no?, Option.some.injEq] at about
      apply agree_closePacket running ?_ (about ▸ different)
      simp [calling, DispatcherStage.only, about, different]
  | wakeReply found stage signalled =>
      simp only [number, found, Option.map_some, Option.some.injEq] at about
      exact agree_setReply found rfl (about ▸ different)
  | replySent found stage =>
      simp only [number, found, Option.map_some, Option.some.injEq] at about
      exact agree_setReply found rfl (about ▸ different)

/-! ## What an action does to its own number -/

/-- The view of a number which is called. -/
theorem view_reqrep {req : Utils.Bytes} {router : MessageRouter}
    (prepared : process.router.prepareReqRep sock (process.nextReqNo config sock) = some router) :
    ({ process.countReq config sock with
        router
        calls := process.calls ++ [⟨sock, process.nextReqNo config sock, req, true, .queueing⟩] } :
      Process RouterFunc).view sock (process.nextReqNo config sock) =
    { process.view sock (process.nextReqNo config sock) with
      calls := (process.view sock (process.nextReqNo config sock)).calls ++
        [⟨sock, process.nextReqNo config sock, req, true, .queueing⟩]
      sendComplete := some .waiting
      netRep := some .waiting } := by
  simp only [MessageRouter.prepareReqRep, Option.ite_none_right_eq_some] at prepared
  obtain ⟨_, prepared⟩ := prepared
  cases prepared
  ext1 <;> simp [view, countReq, MessageRouter.prepareSignalSendComplete,
    MessageRouter.prepareSignalRecvNetRep, select_cons]

/-- The view of a call which is queued. -/
theorem view_queueApp {index : Nat} {call : ReqCall} {stage : CallStage}
    (found : process.calls[index]? = some call)
    (only : (process.view sock call.no).calls = [call]) :
    ({ process with
        dataapp := process.dataapp ++ [(call.sock, ⟨call.no, call.req⟩)]
        calls := process.calls.set index { call with stage } } :
      Process RouterFunc).view sock call.no =
    { process.view sock call.no with
      calls := [{ call with stage }]
      dataapp := (process.view sock call.no).dataapp ++ [(call.sock, ⟨call.no, call.req⟩)] } := by
  ext1
  case calls =>
    refine (select_set_of_only found rfl ?_ only).2
    rfl
  case dataapp => simp [view, select_cons]
  all_goals rfl

/-- The view of a message taken from the queue. -/
theorem view_takeApp {msgSock : UInt32} {msg : NMessage} {dataapp : List (UInt32 × NMessage)}
    (front : process.dataapp = (msgSock, msg) :: dataapp) :
    ({ process with dataapp := dataapp, sender := .sending msgSock msg } :
      Process RouterFunc).view sock msg.no =
    { process.view sock msg.no with
      dataapp := (process.view sock msg.no).dataapp.tail
      sender := .sending msgSock msg } := by
  ext1
  case dataapp => simp [view, front, select_cons]
  case sender => simp [view, SenderStage.only]
  all_goals rfl

/-- The view of a frame which is sent. -/
theorem view_sendFrame {msgSock : UInt32} {msg : NMessage} {flag : Bool} :
    ({ process with sender := .sent msgSock msg flag } : Process RouterFunc).view sock msg.no =
    { process.view sock msg.no with sender := .sent msgSock msg flag } := by
  ext1
  case sender => simp [view, SenderStage.only]
  all_goals rfl

/-- The view of a call which is told of its send. -/
theorem view_notifySend {msg : NMessage} {flag : Bool}
    (waiting : (process.view sock msg.no).sendComplete = some .waiting) :
    ({ process with
        sender := .idle, router := (process.router.notifySendNetComplete sock msg.no flag).2 } :
      Process RouterFunc).view sock msg.no =
    { process.view sock msg.no with sender := .idle, sendComplete := some (.sent flag) } := by
  have signalled := SignalTable.notify_of_waiting waiting flag
  ext1 <;> simp [view, MessageRouter.notifySendNetComplete, signalled, SenderStage.only]

/-- The view of a call at another stage. -/
theorem view_setCall {index : Nat} {call : ReqCall} {stage : CallStage}
    (found : process.calls[index]? = some call)
    (only : (process.view sock call.no).calls = [call]) :
    (process.setCall index { call with stage }).view sock call.no =
    { process.view sock call.no with calls := [{ call with stage }] } := by
  ext1
  case calls =>
    refine (select_set_of_only found rfl ?_ only).2
    rfl
  all_goals rfl

/-- The view of a call which has ended. -/
theorem view_finishCall {index : Nat} {call : ReqCall} {ret : Option Utils.Bytes}
    (assertions : config.assertions = true) (found : process.calls[index]? = some call)
    (only : (process.view call.sock call.no).calls = [call]) :
    (process.finishCall config index call ret).view call.sock call.no =
    { process.view call.sock call.no with
      calls := [{ call with stage := .returned ret }], sendComplete := none, netRep := none } := by
  ext1
  case calls =>
    refine (select_set_of_only found rfl ?_ only).2
    rfl
  case sendComplete => simp [view, finishCall, setCall, assertions, MessageRouter.finishReqRep]
  case netRep => simp [view, finishCall, setCall, assertions, MessageRouter.finishReqRep]
  case appRep => simp [view, finishCall, setCall, assertions, MessageRouter.finishReqRep]
  all_goals rfl

/-- The view of a reply which has come. -/
theorem view_recvRep {msg : NMessage} :
    ({ process with
        router := { process.router with
          netRepSignals := process.router.netRepSignals.set sock msg.no (some (.sent msg)) } } :
      Process RouterFunc).view sock msg.no =
    { process.view sock msg.no with netRep := some (.sent msg) } := by
  ext1 <;> simp [view]

/-- The view of a request which has come. -/
theorem view_recvReq {msg : NMessage} :
    ({ process with replies := process.replies ++ [⟨sock, msg, false, .spawned⟩] } :
      Process RouterFunc).view sock msg.no =
    { process.view sock msg.no with
      replies := (process.view sock msg.no).replies ++ [⟨sock, msg, false, .spawned⟩] } := by
  ext1 <;> simp [view, select_cons]

/-- The view of a reply which is prepared. -/
theorem view_prepareReply {index : Nat} {reply : ReplyCall} {router : MessageRouter}
    (found : process.replies[index]? = some reply)
    (only : (process.view reply.sock reply.msg.no).replies = [reply])
    (prepared : process.router.prepareAppRep reply.sock reply.msg.no = some router) :
    ({ process with
        router
        replies := process.replies.set index { reply with received := true, stage := .queueing } } :
      Process RouterFunc).view reply.sock reply.msg.no =
    { process.view reply.sock reply.msg.no with
      replies := [{ reply with received := true, stage := .queueing }]
      appRep := some .waiting } := by
  simp only [MessageRouter.prepareAppRep, Option.ite_none_right_eq_some] at prepared
  obtain ⟨_, prepared⟩ := prepared
  cases prepared
  ext1
  case replies =>
    refine (select_set_of_only found rfl ?_ only).2
    rfl
  case appRep => simp [view, MessageRouter.prepareSignalRecvAppRep]
  all_goals rfl

/-- The view of a reply at another stage. -/
theorem view_setReply {index : Nat} {reply : ReplyCall} {stage : ReplyStage}
    (found : process.replies[index]? = some reply)
    (only : (process.view sock reply.msg.no).replies = [reply]) :
    (process.setReply index { reply with stage }).view sock reply.msg.no =
    { process.view sock reply.msg.no with replies := [{ reply with stage }] } := by
  ext1
  case replies =>
    refine (select_set_of_only found rfl ?_ only).2
    rfl
  all_goals rfl

/-- The view of a request which is queued. -/
theorem view_queueIo {index : Nat} {reply : ReplyCall} {mainc : Int} {stage : ReplyStage}
    (found : process.replies[index]? = some reply)
    (only : (process.view sock reply.msg.no).replies = [reply]) :
    ({ process with
        dataio := process.dataio ++ [⟨reply.sock, mainc, reply.msg⟩]
        replies := process.replies.set index { reply with stage } } :
      Process RouterFunc).view sock reply.msg.no =
    { process.view sock reply.msg.no with
      replies := [{ reply with stage }]
      dataio := (process.view sock reply.msg.no).dataio ++ [⟨reply.sock, mainc, reply.msg⟩] } := by
  ext1
  case replies =>
    refine (select_set_of_only found rfl ?_ only).2
    rfl
  case dataio => simp [view, select_cons]
  all_goals rfl

/-- The view of a request at its handler. -/
theorem view_dispatch {packet : IoPacket} {dataio : List IoPacket} {plat : PlatformPack}
    {func : RouterFunc} {strreq : Utils.Bytes} (front : process.dataio = packet :: dataio) :
    ({ process with dataio := dataio, dispatcher := .calling packet plat func strreq } :
      Process RouterFunc).view sock packet.msg.no =
    { process.view sock packet.msg.no with
      dataio := (process.view sock packet.msg.no).dataio.tail
      dispatcher := .calling packet plat func strreq } := by
  ext1
  case dataio => simp [view, front, select_cons]
  case dispatcher => simp [view, DispatcherStage.only]
  all_goals rfl

/-- A turn which comes to a reply signals it. -/
theorem closePacket_replying (packet : IoPacket) (strrep : Utils.Bytes)
    (assertions : config.assertions = true) (running : process.crashed = false)
    (waiting : process.router.appRepSignals packet.sock packet.msg.no = some .waiting) :
    process.closePacket config packet (.replying strrep) = { process with
      router := { process.router with
        appRepSignals := process.router.appRepSignals.set packet.sock packet.msg.no
          (some (.sent ⟨packet.msg.no, strrep⟩)) }
      handled := process.handled ++ [⟨packet.sock, packet.msg, strrep⟩]
      dispatcher := .idle } := by
  simp [closePacket, DispatcherConfig.closePacket, DispatcherConfig.reply, assertions, running,
    MessageRouter.notifyRecvAppRep, SignalTable.notify_of_waiting waiting]

/-- The view of a request whose handler has returned. -/
theorem view_closePacket {packet : IoPacket} {strrep : Utils.Bytes}
    (assertions : config.assertions = true) (running : process.crashed = false)
    (waiting : (process.view packet.sock packet.msg.no).appRep = some .waiting) :
    (process.closePacket config packet (.replying strrep)).view packet.sock packet.msg.no =
    { process.view packet.sock packet.msg.no with
      appRep := some (.sent ⟨packet.msg.no, strrep⟩)
      dispatcher := .idle
      handled := (process.view packet.sock packet.msg.no).handled ++
        [⟨packet.sock, packet.msg, strrep⟩] } := by
  rw [closePacket_replying packet strrep assertions running waiting]
  ext1 <;> simp [view, select_cons, DispatcherStage.only]

end Process
end SM.Network
