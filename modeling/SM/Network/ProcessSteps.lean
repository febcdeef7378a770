import SM.Network.Process

/-!
# Steps of a process

`Stepped` says once what each action does to a process and in which state, so
that invariants are proved by cases on it. `stepped_of_step` derives it from the
functions of `Process`.
-/

namespace SM.Network
namespace Process

variable {RouterFunc : Type} {config : ProcessConfig RouterFunc}
  {process next : Process RouterFunc}

/-- The number of the next call on a channel. -/
def nextReqNo (config : ProcessConfig RouterFunc) (process : Process RouterFunc)
    (sock : UInt32) : UInt32 :=
  (config.cmode sock).newReq (process.reqNo sock)

/-- `_reqNo` after `newReq`. -/
def countReq (config : ProcessConfig RouterFunc) (process : Process RouterFunc)
    (sock : UInt32) : Process RouterFunc :=
  { process with
    reqNo := fun other => if other = sock then process.nextReqNo config sock
      else process.reqNo other }

/-- What an action does. -/
inductive Stepped (config : ProcessConfig RouterFunc) (process : Process RouterFunc) :
    Action → Process RouterFunc → Prop where
  | reqrep {sock req router}
      (prepared : process.router.prepareReqRep sock (process.nextReqNo config sock) = some router) :
      Stepped config process (.reqrep sock req) { process.countReq config sock with
        router
        calls := process.calls ++
          [⟨sock, process.nextReqNo config sock, req, true, .queueing⟩] }
  | reqrepCrashed {sock req}
      (refused : process.router.prepareReqRep sock (process.nextReqNo config sock) = none)
      (assertions : config.assertions = true) :
      Stepped config process (.reqrep sock req)
        { process.countReq config sock with crashed := true }
  | reqrepInvalid {sock req}
      (refused : process.router.prepareReqRep sock (process.nextReqNo config sock) = none)
      (assertions : config.assertions = false) :
      Stepped config process (.reqrep sock req) { process.countReq config sock with
        calls := process.calls ++
          [⟨sock, process.nextReqNo config sock, req, false, .queueing⟩] }
  | queueApp {index call} (found : process.calls[index]? = some call)
      (stage : call.stage = .queueing) (room : process.dataapp.length < routerCapacity) :
      Stepped config process (.queueApp index) { process with
        dataapp := process.dataapp ++ [(call.sock, ⟨call.no, call.req⟩)]
        calls := process.calls.set index
          { call with stage := if call.valid then .waitSend else .thrown } }
  | takeApp {sock msg dataapp} (idle : process.sender = .idle)
      (front : process.dataapp = (sock, msg) :: dataapp) :
      Stepped config process .takeApp { process with
        dataapp := dataapp
        sender := if config.registered sock then .sending sock msg else .idle }
  | sendFrame {sock msg flag} (sending : process.sender = .sending sock msg) :
      Stepped config process (.sendFrame flag) { process with sender := .sent sock msg flag }
  | notifySend {sock msg flag} (sent : process.sender = .sent sock msg flag) :
      Stepped config process .notifySend { process with
        sender := .idle
        router := (process.router.notifySendNetComplete sock msg.no flag).2 }
  | wakeSend {index call} (found : process.calls[index]? = some call)
      (stage : call.stage = .waitSend)
      (signalled : process.router.sendCompleteSignals call.sock call.no = some (.sent true)) :
      Stepped config process (.wakeSend index) (process.setCall index { call with stage := .waitRep })
  | wakeSendFailed {index call} (found : process.calls[index]? = some call)
      (stage : call.stage = .waitSend)
      (signalled : process.router.sendCompleteSignals call.sock call.no = some (.sent false)) :
      Stepped config process (.wakeSend index) (process.finishCall config index call none)
  | wakeRep {index call rep} (found : process.calls[index]? = some call)
      (stage : call.stage = .waitRep)
      (signalled : process.router.netRepSignals call.sock call.no = some (.sent rep)) :
      Stepped config process (.wakeRep index)
        (process.finishCall config index call (some rep.body))
  | recvRep {sock msg} (waiting : process.router.netRepSignals sock msg.no = some .waiting) :
      Stepped config process (.recv sock msg) { process with
        router := { process.router with
          netRepSignals := process.router.netRepSignals.set sock msg.no (some (.sent msg)) } }
  | recvReq {sock msg} (other : process.router.netRepSignals sock msg.no ≠ some .waiting) :
      Stepped config process (.recv sock msg) { process with
        replies := process.replies ++ [⟨sock, msg, false, .spawned⟩] }
  | prepareReply {index reply router} (found : process.replies[index]? = some reply)
      (stage : reply.stage = .spawned)
      (prepared : process.router.prepareAppRep reply.sock reply.msg.no = some router) :
      Stepped config process (.prepareReply index) { process with
        router
        replies := process.replies.set index { reply with received := true, stage := .queueing } }
  | prepareReplyCrashed {index reply} (found : process.replies[index]? = some reply)
      (stage : reply.stage = .spawned)
      (refused : process.router.prepareAppRep reply.sock reply.msg.no = none)
      (assertions : config.assertions = true) :
      Stepped config process (.prepareReply index) { process with crashed := true }
  | prepareReplyNull {index reply} (found : process.replies[index]? = some reply)
      (stage : reply.stage = .spawned)
      (refused : process.router.prepareAppRep reply.sock reply.msg.no = none)
      (assertions : config.assertions = false) :
      Stepped config process (.prepareReply index)
        (process.setReply index { reply with stage := .queueing })
  | queueIo {index reply} (found : process.replies[index]? = some reply)
      (stage : reply.stage = .queueing) (room : process.dataio.length < routerCapacity)
      (received : reply.received = true) :
      Stepped config process (.queueIo index) { process with
        dataio := process.dataio ++ [⟨reply.sock, config.channelMainc reply.sock, reply.msg⟩]
        replies := process.replies.set index { reply with stage := .waiting } }
  | queueIoCrashed {index reply} (found : process.replies[index]? = some reply)
      (stage : reply.stage = .queueing) (room : process.dataio.length < routerCapacity)
      (received : reply.received = false) :
      Stepped config process (.queueIo index) { process with
        dataio := process.dataio ++ [⟨reply.sock, config.channelMainc reply.sock, reply.msg⟩]
        crashed := true }
  | dispatchCalling {packet dataio plat func strreq} (idle : process.dispatcher = .idle)
      (front : process.dataio = packet :: dataio)
      (opened : config.openPacket packet.mainc packet.msg.body = .calling plat func strreq) :
      Stepped config process .dispatch { process with
        dataio := dataio, dispatcher := .calling packet plat func strreq }
  | dispatchClosed {packet dataio turn} (idle : process.dispatcher = .idle)
      (front : process.dataio = packet :: dataio)
      (opened : config.openPacket packet.mainc packet.msg.body = turn)
      (done : ∀ plat func strreq, turn ≠ .calling plat func strreq) :
      Stepped config process .dispatch
        (closePacket config { process with dataio := dataio } packet turn)
  | handlerDone {packet plat func strreq outcome}
      (calling : process.dispatcher = .calling packet plat func strreq) :
      Stepped config process (.handlerDone outcome)
        (process.closePacket config packet (DispatcherConfig.closeCall plat outcome))
  | wakeReply {index reply rep} (found : process.replies[index]? = some reply)
      (stage : reply.stage = .waiting)
      (signalled : process.router.appRepSignals reply.sock reply.msg.no = some (.sent rep)) :
      Stepped config process (.wakeReply index)
        (process.setReply index { reply with stage := .sending rep })
  | replySent {index reply rep flag} (found : process.replies[index]? = some reply)
      (stage : reply.stage = .sending rep) :
      Stepped config process (.replySent index flag)
        (process.setReply index { reply with stage := .finished })

/-- A reply signals its packet or leaves the router as it was. -/
theorem reply_router (config : DispatcherConfig RouterFunc) (router : MessageRouter)
    (packet : IoPacket) (strrep : Utils.Bytes) :
    (config.reply router packet strrep).2.2 = router ∨
      ∃ rep : NMessage, router.appRepSignals packet.sock packet.msg.no = some .waiting ∧
        (config.reply router packet strrep).2.2 = { router with
          appRepSignals := router.appRepSignals.set packet.sock packet.msg.no (some (.sent rep)) } := by
  cases assertions : config.assertions with
  | false => simp [DispatcherConfig.reply, assertions]
  | true =>
      by_cases waiting : router.appRepSignals packet.sock packet.msg.no = some .waiting
      · refine .inr ⟨⟨packet.msg.no, strrep⟩, waiting, ?_⟩
        simp [DispatcherConfig.reply, assertions, MessageRouter.notifyRecvAppRep,
          SignalTable.notify_of_waiting waiting]
      · refine .inl ?_
        simp [DispatcherConfig.reply, assertions, MessageRouter.notifyRecvAppRep,
          SignalTable.notify_of_not_waiting waiting]

/-- The end of a turn of the dispatcher signals its packet or leaves the router as it was. -/
theorem closePacket_router (config : ProcessConfig RouterFunc) (process : Process RouterFunc)
    (packet : IoPacket) (turn : DispatchTurn RouterFunc) :
    (process.closePacket config packet turn).router = process.router ∨
      ∃ rep : NMessage, process.router.appRepSignals packet.sock packet.msg.no = some .waiting ∧
        (process.closePacket config packet turn).router = { process.router with
          appRepSignals :=
            process.router.appRepSignals.set packet.sock packet.msg.no (some (.sent rep)) } := by
  cases turn with
  | replying strrep => exact reply_router config.toDispatcherConfig process.router packet strrep
  | calling plat func strreq => exact .inl rfl
  | swallowed => exact .inl rfl
  | halted reason => exact .inl rfl

/-- The end of a turn of the dispatcher leaves the entries of the calls as they were. -/
theorem closePacket_netRepSignals (config : ProcessConfig RouterFunc)
    (process : Process RouterFunc) (packet : IoPacket) (turn : DispatchTurn RouterFunc) :
    (process.closePacket config packet turn).router.netRepSignals =
      process.router.netRepSignals := by
  rcases closePacket_router config process packet turn with same | ⟨_, _, signalled⟩
  · rw [same]
  · rw [signalled]

/-- Without assertions the end of a call erases nothing. -/
theorem finishCall_of_not_assertions (assertions : config.assertions = false)
    (process : Process RouterFunc) (index : Nat) (call : ReqCall) (ret : Option Utils.Bytes) :
    process.finishCall config index call ret =
      process.setCall index { call with stage := .returned ret } := by
  simp [finishCall, assertions]

/-- With assertions the end of a call erases its entries. -/
theorem finishCall_router (assertions : config.assertions = true) (process : Process RouterFunc)
    (index : Nat) (call : ReqCall) (ret : Option Utils.Bytes) :
    (process.finishCall config index call ret).router =
      process.router.finishReqRep call.sock call.no := by
  simp [finishCall, setCall, assertions]

/-- No step forgets a call. -/
theorem calls_length_le {action : Action} (stepped : Stepped config process action next) :
    process.calls.length ≤ next.calls.length := by
  cases stepped <;> simp [setCall, finishCall, closePacket, countReq, setReply]

/-- What a call does. -/
theorem stepped_reqrep {sock : UInt32} {req : Utils.Bytes} :
    Stepped config process (.reqrep sock req) (process.reqrep config sock req) := by
  simp only [Process.reqrep]
  split
  · rename_i router prepared
    exact .reqrep prepared
  · rename_i refused
    split
    · exact .reqrepCrashed refused ‹_›
    · exact .reqrepInvalid refused (Bool.not_eq_true _ ▸ ‹_›)

/-- What a received frame does. -/
theorem stepped_recv {sock : UInt32} {msg : NMessage} :
    Stepped config process (.recv sock msg) (process.recv sock msg) := by
  by_cases waiting : process.router.netRepSignals sock msg.no = some .waiting
  · simp only [Process.recv, MessageRouter.notifyRecvNetRep,
      SignalTable.notify_of_waiting waiting]
    exact .recvRep waiting
  · simp only [Process.recv, MessageRouter.notifyRecvNetRep,
      SignalTable.notify_of_not_waiting waiting]
    exact .recvReq waiting

/-- What the preparation of a reply does. -/
theorem stepped_prepareReply {index : Nat} {reply : ReplyCall}
    (found : process.replies[index]? = some reply)
    (stepped : process.prepareReply config index reply = some next) :
    Stepped config process (.prepareReply index) next := by
  simp only [prepareReply, Option.ite_none_right_eq_some] at stepped
  obtain ⟨stage, stepped⟩ := stepped
  split at stepped
  · cases stepped
    exact .prepareReply found stage ‹_›
  · rename_i refused
    cases assertions : config.assertions with
    | true =>
        simp only [assertions, if_true] at stepped
        cases stepped
        exact .prepareReplyCrashed found stage refused assertions
    | false =>
        simp only [assertions, Bool.false_eq_true, if_false] at stepped
        cases stepped
        exact .prepareReplyNull found stage refused assertions

/-- What the queueing of a request does. -/
theorem stepped_queueIo {index : Nat} {reply : ReplyCall}
    (found : process.replies[index]? = some reply)
    (stepped : process.queueIo config index reply = some next) :
    Stepped config process (.queueIo index) next := by
  simp only [queueIo, Option.ite_none_right_eq_some] at stepped
  obtain ⟨⟨stage, room⟩, stepped⟩ := stepped
  cases received : reply.received with
  | true =>
      simp only [received, if_true] at stepped
      cases stepped
      have kept : ({ reply with stage := .waiting } : ReplyCall) =
          { sock := reply.sock, msg := reply.msg, received := true, stage := .waiting } := by
        rw [← received]
      exact kept ▸ .queueIo found stage room received
  | false =>
      simp only [received, Bool.false_eq_true, if_false] at stepped
      cases stepped
      exact .queueIoCrashed found stage room received

/-- What the start of a turn does. -/
theorem stepped_dispatch (stepped : process.dispatch config = some next) :
    Stepped config process .dispatch next := by
  simp only [dispatch] at stepped
  split at stepped
  · rename_i packet dataio idle front
    split at stepped
    · cases stepped
      exact .dispatchCalling idle front ‹_›
    · rename_i done
      cases stepped
      exact .dispatchClosed idle front rfl done
  · cases stepped

/-- Every step is one of `Stepped`, of a process which has not crashed. -/
theorem stepped_of_step {action : Action} (stepped : process.step config action = some next) :
    process.crashed = false ∧ Stepped config process action next := by
  cases running : process.crashed with
  | true => simp [step, running] at stepped
  | false =>
      refine ⟨rfl, ?_⟩
      simp only [step, running, Bool.false_eq_true, if_false] at stepped
      cases action with
      | reqrep sock req =>
          cases stepped
          exact stepped_reqrep
      | queueApp index =>
          obtain ⟨call, found, stepped⟩ := Option.bind_eq_some_iff.mp stepped
          simp only [queueApp, Option.ite_none_right_eq_some] at stepped
          obtain ⟨⟨stage, room⟩, stepped⟩ := stepped
          cases stepped
          exact .queueApp found stage room
      | takeApp =>
          simp only [takeApp] at stepped
          split at stepped
          · cases stepped
            exact .takeApp ‹_› ‹_›
          · cases stepped
      | sendFrame flag =>
          simp only [sendFrame] at stepped
          split at stepped
          · cases stepped
            exact .sendFrame ‹_›
          · cases stepped
      | notifySend =>
          simp only [notifySend] at stepped
          split at stepped
          · cases stepped
            exact .notifySend ‹_›
          · cases stepped
      | wakeSend index =>
          obtain ⟨call, found, stepped⟩ := Option.bind_eq_some_iff.mp stepped
          simp only [wakeSend] at stepped
          split at stepped
          · cases stepped
            exact .wakeSend found ‹_› ‹_›
          · cases stepped
            exact .wakeSendFailed found ‹_› ‹_›
          · cases stepped
      | wakeRep index =>
          obtain ⟨call, found, stepped⟩ := Option.bind_eq_some_iff.mp stepped
          simp only [wakeRep] at stepped
          split at stepped
          · cases stepped
            exact .wakeRep found ‹_› ‹_›
          · cases stepped
      | recv sock msg =>
          cases stepped
          exact stepped_recv
      | prepareReply index =>
          obtain ⟨reply, found, stepped⟩ := Option.bind_eq_some_iff.mp stepped
          exact stepped_prepareReply found stepped
      | queueIo index =>
          obtain ⟨reply, found, stepped⟩ := Option.bind_eq_some_iff.mp stepped
          exact stepped_queueIo found stepped
      | dispatch => exact stepped_dispatch stepped
      | handlerDone outcome =>
          simp only [handlerDone] at stepped
          split at stepped
          · cases stepped
            exact .handlerDone ‹_›
          · cases stepped
      | wakeReply index =>
          obtain ⟨reply, found, stepped⟩ := Option.bind_eq_some_iff.mp stepped
          simp only [wakeReply] at stepped
          split at stepped
          · cases stepped
            exact .wakeReply found ‹_› ‹_›
          · cases stepped
      | replySent index flag =>
          obtain ⟨reply, found, stepped⟩ := Option.bind_eq_some_iff.mp stepped
          simp only [replySent] at stepped
          split at stepped
          · cases stepped
            exact .replySent found ‹_›
          · cases stepped

end Process
end SM.Network
