import SM.Lib.Machine
import SM.Network.Dispatcher

/-!
# A process

The coroutines of one process around its `MessageRouter`: the calls of `reqrep`,
the sender loop, the receive loops with the reply coroutines they spawn, and the
dispatcher. An `Action` is what happens between two suspensions of a coroutine.
What comes from outside (a message received, whether a frame was sent, the
outcome of a handler) stands in the action.
-/

namespace SM.Network

open SM.Lib SM.Utils

/-- `ChannelModeC`. -/
inductive ChannelMode where
  | initiative
  | passive
deriving DecidableEq

/-- `numeric_limits<uint32_t>::max() / 2`. -/
def halfMax : UInt32 := 0x7fffffff

/-- The constructor's value of `_reqNo`. -/
def ChannelMode.firstReqNo : ChannelMode → UInt32
  | .initiative => 0
  | .passive => halfMax

/-- `newReq`: `_reqNo` afterwards, which is also the number returned. -/
def ChannelMode.newReq (cmode : ChannelMode) (reqNo : UInt32) : UInt32 :=
  let reqNo := reqNo + 1
  match cmode with
  | .initiative => if 0xffffffff ≤ reqNo then 0 else reqNo
  | .passive => if reqNo ≤ halfMax then halfMax else reqNo

/-- Where a call of `reqrep` stands. -/
inductive CallStage where
  /-- In `addPackFromApp`. -/
  | queueing
  /-- At the wait for `_r1`. -/
  | waitSend
  /-- At the wait for `_r2`. -/
  | waitRep
  /-- `none` is a null pointer. -/
  | returned (ret : Option Bytes)
  /-- A receiver without a state throws. -/
  | thrown
deriving DecidableEq

/-- The call has not come to an end. -/
def CallStage.isRunning : CallStage → Bool
  | .queueing | .waitSend | .waitRep => true
  | .returned _ | .thrown => false

/-- The call has returned. -/
def CallStage.isReturned : CallStage → Bool
  | .returned _ => true
  | _ => false

/-- A running call has not returned. -/
theorem CallStage.isReturned_of_isRunning {stage : CallStage} (running : stage.isRunning = true) :
    stage.isReturned = false := by
  cases stage <;> first | rfl | cases running

structure ReqCall where
  sock : UInt32
  no : UInt32
  req : Bytes
  /-- `recvers._valid`. -/
  valid : Bool
  stage : CallStage
deriving DecidableEq

/-- Where a coroutine spawned by the receive loop stands. -/
inductive ReplyStage where
  | spawned
  /-- In `addPackFromIo`. -/
  | queueing
  /-- At the wait for `recvAppRep`. -/
  | waiting
  /-- In `sendPack`. -/
  | sending (rep : NMessage)
  | finished
deriving DecidableEq

structure ReplyCall where
  sock : UInt32
  msg : NMessage
  /-- `recvAppRep` is not null. -/
  received : Bool
  stage : ReplyStage
deriving DecidableEq

/-- Where the sender loop stands. -/
inductive SenderStage where
  | idle
  /-- In `sendMessage` of the channel. -/
  | sending (sock : UInt32) (msg : NMessage)
  /-- `sendMessage` is done, and the loop not yet resumed. -/
  | sent (sock : UInt32) (msg : NMessage) (flag : Bool)
deriving DecidableEq

/-- Where the dispatcher stands. -/
inductive DispatcherStage (RouterFunc : Type) where
  | idle
  | calling (packet : IoPacket) (plat : PlatformPack) (func : RouterFunc) (strreq : Bytes)
  | stopped

/-- A packet which was replied to. -/
structure HandledPacket where
  sock : UInt32
  msg : NMessage
  strrep : Bytes
deriving DecidableEq

structure ProcessConfig (RouterFunc : Type) extends DispatcherConfig RouterFunc where
  /-- `_cmode` of the channel with a number. -/
  cmode : UInt32 → ChannelMode
  /-- `_mainc` of the channel with a number. -/
  channelMainc : UInt32 → Int
  /-- `LocalNetManager::sendPack` finds the channel. -/
  registered : UInt32 → Bool

structure Process (RouterFunc : Type) where
  /-- `_reqNo` of the channel with a number. -/
  reqNo : UInt32 → UInt32
  router : MessageRouter
  dataapp : List (UInt32 × NMessage)
  dataio : List IoPacket
  calls : List ReqCall
  replies : List ReplyCall
  sender : SenderStage
  dispatcher : DispatcherStage RouterFunc
  /-- The packets replied to so far. -/
  handled : List HandledPacket
  /-- An assertion failed or a null pointer was dereferenced. -/
  crashed : Bool

/-- The buffer size of `_dataapp` and `_dataio`. -/
def routerCapacity : Nat := 10

inductive Action where
  /-- `reqrep` up to `addPackFromApp`. -/
  | reqrep (sock : UInt32) (req : Bytes)
  /-- The message of a call enters `_dataapp`. -/
  | queueApp (index : Nat)
  /-- The sender loop takes a message. -/
  | takeApp
  /-- `sendMessage` is done. -/
  | sendFrame (flag : Bool)
  /-- The sender loop is resumed and calls `notifySendNetComplete`. -/
  | notifySend
  /-- A call is resumed from the wait for `_r1`. -/
  | wakeSend (index : Nat)
  /-- A call is resumed from the wait for `_r2`. -/
  | wakeRep (index : Nat)
  /-- `recvPack` of a channel returns. -/
  | recv (sock : UInt32) (msg : NMessage)
  /-- A reply coroutine starts. -/
  | prepareReply (index : Nat)
  /-- The packet of a reply coroutine enters `_dataio`. -/
  | queueIo (index : Nat)
  /-- The dispatcher takes a packet. -/
  | dispatch
  /-- The handler is done. -/
  | handlerDone (outcome : HandlerOutcome)
  /-- A reply coroutine is resumed from the wait for `recvAppRep`. -/
  | wakeReply (index : Nat)
  /-- `sendPack` of a reply is done. -/
  | replySent (index : Nat) (flag : Bool)
deriving DecidableEq

namespace Process

variable {RouterFunc : Type}

def start (config : ProcessConfig RouterFunc) : Process RouterFunc where
  reqNo sock := (config.cmode sock).firstReqNo
  router := .new
  dataapp := []
  dataio := []
  calls := []
  replies := []
  sender := .idle
  dispatcher := .idle
  handled := []
  crashed := false

def setCall (process : Process RouterFunc) (index : Nat) (call : ReqCall) : Process RouterFunc :=
  { process with calls := process.calls.set index call }

def setReply (process : Process RouterFunc) (index : Nat) (reply : ReplyCall) :
    Process RouterFunc :=
  { process with replies := process.replies.set index reply }

/-- `newReq` and `prepareReqRep`. -/
def reqrep (config : ProcessConfig RouterFunc) (process : Process RouterFunc) (sock : UInt32)
    (req : Bytes) : Process RouterFunc :=
  let no := (config.cmode sock).newReq (process.reqNo sock)
  let process := { process with
    reqNo := fun other => if other = sock then no else process.reqNo other }
  match process.router.prepareReqRep sock no with
  | some router =>
      { process with router, calls := process.calls ++ [⟨sock, no, req, true, .queueing⟩] }
  | none =>
      if config.assertions then { process with crashed := true }
      else { process with calls := process.calls ++ [⟨sock, no, req, false, .queueing⟩] }

/-- After `addPackFromApp`. -/
def queueApp (process : Process RouterFunc) (index : Nat) (call : ReqCall) :
    Option (Process RouterFunc) :=
  if call.stage = .queueing ∧ process.dataapp.length < routerCapacity then
    let queued : Process RouterFunc := { process with
      dataapp := process.dataapp ++ [(call.sock, ⟨call.no, call.req⟩)] }
    some (queued.setCall index
      { call with stage := if call.valid then .waitSend else .thrown })
  else none

/-- `LocalNetManager::sendPack` for the message at the front. -/
def takeApp (config : ProcessConfig RouterFunc) (process : Process RouterFunc) :
    Option (Process RouterFunc) :=
  match process.sender, process.dataapp with
  | .idle, (sock, msg) :: dataapp =>
      some { process with
        dataapp, sender := if config.registered sock then .sending sock msg else .idle }
  | _, _ => none

def sendFrame (process : Process RouterFunc) (flag : Bool) : Option (Process RouterFunc) :=
  match process.sender with
  | .sending sock msg => some { process with sender := .sent sock msg flag }
  | _ => none

def notifySend (process : Process RouterFunc) : Option (Process RouterFunc) :=
  match process.sender with
  | .sent sock msg flag =>
      some { process with
        sender := .idle, router := (process.router.notifySendNetComplete sock msg.no flag).2 }
  | _ => none

/-- `assert(FinishReqRepRecver(..))`, which is not evaluated without assertions. -/
def finishCall (config : ProcessConfig RouterFunc) (process : Process RouterFunc) (index : Nat)
    (call : ReqCall) (ret : Option Bytes) : Process RouterFunc :=
  let finished : Process RouterFunc := { process with
    router := if config.assertions then process.router.finishReqRep call.sock call.no
      else process.router }
  finished.setCall index { call with stage := .returned ret }

def wakeSend (config : ProcessConfig RouterFunc) (process : Process RouterFunc) (index : Nat)
    (call : ReqCall) : Option (Process RouterFunc) :=
  match call.stage, process.router.sendCompleteSignals call.sock call.no with
  | .waitSend, some (.sent true) => some (process.setCall index { call with stage := .waitRep })
  | .waitSend, some (.sent false) => some (process.finishCall config index call none)
  | _, _ => none

def wakeRep (config : ProcessConfig RouterFunc) (process : Process RouterFunc) (index : Nat)
    (call : ReqCall) : Option (Process RouterFunc) :=
  match call.stage, process.router.netRepSignals call.sock call.no with
  | .waitRep, some (.sent rep) => some (process.finishCall config index call (some rep.body))
  | _, _ => none

/-- One turn of the receive loop: the message is given to a waiting `reqrep`, or a coroutine is
spawned for it. -/
def recv (process : Process RouterFunc) (sock : UInt32) (msg : NMessage) : Process RouterFunc :=
  match process.router.notifyRecvNetRep sock msg with
  | (true, router) => { process with router }
  | (false, router) =>
      { process with router, replies := process.replies ++ [⟨sock, msg, false, .spawned⟩] }

/-- `prepareAppRep`, and `assert(recvAppRep != nullptr)`. -/
def prepareReply (config : ProcessConfig RouterFunc) (process : Process RouterFunc)
    (index : Nat) (reply : ReplyCall) : Option (Process RouterFunc) :=
  if reply.stage = .spawned then
    match process.router.prepareAppRep reply.sock reply.msg.no with
    | some router =>
        let prepared : Process RouterFunc := { process with router }
        some (prepared.setReply index { reply with received := true, stage := .queueing })
    | none =>
        some (if config.assertions then { process with crashed := true }
          else process.setReply index { reply with stage := .queueing })
  else none

/-- After `addPackFromIo` a null receiver is dereferenced. -/
def queueIo (config : ProcessConfig RouterFunc) (process : Process RouterFunc) (index : Nat)
    (reply : ReplyCall) : Option (Process RouterFunc) :=
  if reply.stage = .queueing ∧ process.dataio.length < routerCapacity then
    let queued : Process RouterFunc := { process with
      dataio := process.dataio ++ [⟨reply.sock, config.channelMainc reply.sock, reply.msg⟩] }
    some (if reply.received then queued.setReply index { reply with stage := .waiting }
      else { queued with crashed := true })
  else none

/-- The end of a turn of the dispatcher. -/
def closePacket (config : ProcessConfig RouterFunc) (process : Process RouterFunc)
    (packet : IoPacket) (turn : DispatchTurn RouterFunc) : Process RouterFunc :=
  let (replies, halt, router) := config.toDispatcherConfig.closePacket process.router packet turn
  let handled := replies.map fun reply => ⟨packet.sock, packet.msg, reply.2.body⟩
  { process with
    router
    handled := process.handled ++ handled
    dispatcher := if halt = none then .idle else .stopped
    crashed := decide (halt = some .assertion ∨ halt = some .nullPointer) }

def dispatch (config : ProcessConfig RouterFunc) (process : Process RouterFunc) :
    Option (Process RouterFunc) :=
  match process.dispatcher, process.dataio with
  | .idle, packet :: dataio =>
      let process := { process with dataio }
      some (match config.openPacket packet.mainc packet.msg.body with
        | .calling plat func strreq =>
            { process with dispatcher := .calling packet plat func strreq }
        | turn => process.closePacket config packet turn)
  | _, _ => none

def handlerDone (config : ProcessConfig RouterFunc) (process : Process RouterFunc)
    (outcome : HandlerOutcome) : Option (Process RouterFunc) :=
  match process.dispatcher with
  | .calling packet plat _ _ =>
      some (process.closePacket config packet (DispatcherConfig.closeCall plat outcome))
  | _ => none

def wakeReply (process : Process RouterFunc) (index : Nat) (reply : ReplyCall) :
    Option (Process RouterFunc) :=
  match reply.stage, process.router.appRepSignals reply.sock reply.msg.no with
  | .waiting, some (.sent rep) => some (process.setReply index { reply with stage := .sending rep })
  | _, _ => none

/-- A failed send is only logged. -/
def replySent (process : Process RouterFunc) (index : Nat) (reply : ReplyCall) :
    Option (Process RouterFunc) :=
  match reply.stage with
  | .sending _ => some (process.setReply index { reply with stage := .finished })
  | _ => none

/-- One action of a process which has not crashed. -/
def step (config : ProcessConfig RouterFunc) (process : Process RouterFunc) (action : Action) :
    Option (Process RouterFunc) :=
  if process.crashed then none
  else match action with
  | .reqrep sock req => some (process.reqrep config sock req)
  | .queueApp index => (process.calls[index]?).bind (process.queueApp index)
  | .takeApp => process.takeApp config
  | .sendFrame flag => process.sendFrame flag
  | .notifySend => process.notifySend
  | .wakeSend index => (process.calls[index]?).bind (process.wakeSend config index)
  | .wakeRep index => (process.calls[index]?).bind (process.wakeRep config index)
  | .recv sock msg => some (process.recv sock msg)
  | .prepareReply index => (process.replies[index]?).bind (process.prepareReply config index)
  | .queueIo index => (process.replies[index]?).bind (process.queueIo config index)
  | .dispatch => process.dispatch config
  | .handlerDone outcome => process.handlerDone config outcome
  | .wakeReply index => (process.replies[index]?).bind (process.wakeReply index)
  | .replySent index _ => (process.replies[index]?).bind (process.replySent index)

end Process
end SM.Network
