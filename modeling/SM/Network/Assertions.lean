import SM.Lib.Holders
import SM.Network.ProcessSteps

/-!
# Removing assertions

`initNetwork` and the process which runs after it, as they are built with and
without assertions. What stands inside `assert` is not evaluated without them, so
the loops of `MessageRouter` are not started: `assertions_removed_iff` says which
runs are then the same.
-/

namespace SM.Network

open SM.Lib SM.Utils

/-! ## initNetwork -/

/-- Which instances and loops there are, of those that a channel uses. -/
structure Singletons where
  messageRouter : Bool
  localNetManager : Bool
  /-- The two loops of `MessageRouter::start` run. -/
  routerStarted : Bool
deriving DecidableEq

namespace Singletons

def new : Singletons := ⟨false, false, false⟩

/-- `MessageRouter::sInit`, whose result is not looked at. -/
def initMessageRouter (singletons : Singletons) : Singletons :=
  { singletons with messageRouter := true }

def initLocalNetManager (singletons : Singletons) : Bool × Singletons :=
  (!singletons.localNetManager, { singletons with localNetManager := true })

def startRouter (singletons : Singletons) : Bool × Singletons :=
  (true, { singletons with routerStarted := true })

/-- `assert` of a call. `none` is a failed assertion. -/
def assertCall (assertions : Bool) (call : Singletons → Bool × Singletons)
    (singletons : Singletons) :
    Option Singletons :=
  if assertions then
    match call singletons with
    | (true, singletons) => some singletons
    | (false, _) => none
  else some singletons

end Singletons

/-- `_inited` is never set. -/
def initNetwork (assertions : Bool) (singletons : Singletons) : Option Singletons :=
  (Singletons.assertCall assertions Singletons.initLocalNetManager
    singletons.initMessageRouter).bind
    (Singletons.assertCall assertions Singletons.startRouter)

/-! ## A program and what is seen of it -/

/-- The action is one of a loop which `MessageRouter::start` spawns. -/
def Action.needsRouter : Action → Bool
  | .takeApp | .dispatch => true
  | _ => false

/-- The action sends through `LNM`. -/
def Action.needsNetManager : Action → Bool
  | .sendFrame _ => true
  | _ => false

/-- What the action uses is there. -/
def Singletons.serve (singletons : Singletons) (action : Action) : Bool :=
  singletons.messageRouter && (!action.needsRouter || singletons.routerStarted) &&
    (!action.needsNetManager || singletons.localNetManager)

/-- A process with the handler calls and the frames so far. -/
structure Endpoint (RouterFunc : Type) where
  process : Process RouterFunc
  handlerCalls : List (RouterFunc × Bytes)
  frames : List (UInt32 × NMessage)

/-- What a program shows: its handler calls, its frames, the results of `reqrep` and the signal
tables. -/
structure Observation (RouterFunc : Type) where
  handlerCalls : List (RouterFunc × Bytes)
  frames : List (UInt32 × NMessage)
  results : List CallStage
  router : MessageRouter

/-- The result of a call, where `queueing` stands for no result. -/
def CallStage.result : CallStage → CallStage
  | .returned ret => .returned ret
  | .thrown => .thrown
  | _ => .queueing

variable {RouterFunc : Type}

/-- The handler call of an action, after it. -/
def Process.called (action : Action) (next : Process RouterFunc) : List (RouterFunc × Bytes) :=
  match action, next.dispatcher with
  | .dispatch, .calling _ _ func strreq => [(func, strreq)]
  | _, _ => []

/-- The frame of an action, before it. -/
def Process.written (process : Process RouterFunc) : Action → List (UInt32 × NMessage)
  | .sendFrame _ =>
      match process.sender with
      | .sending sock msg => [(sock, msg)]
      | _ => []
  | .replySent index _ =>
      match process.replies[index]? with
      | some ⟨sock, _, _, .sending rep⟩ => [(sock, rep)]
      | _ => []
  | _ => []

namespace Endpoint

def start (config : ProcessConfig RouterFunc) : Endpoint RouterFunc where
  process := Process.start config
  handlerCalls := []
  frames := []

def record (endpoint : Endpoint RouterFunc) (action : Action) (next : Process RouterFunc) :
    Endpoint RouterFunc where
  process := next
  handlerCalls := endpoint.handlerCalls ++ Process.called action next
  frames := endpoint.frames ++ endpoint.process.written action

def step (config : ProcessConfig RouterFunc) (singletons : Singletons)
    (endpoint : Endpoint RouterFunc) (action : Action) : Option (Endpoint RouterFunc) :=
  if singletons.serve action then (endpoint.process.step config action).map (endpoint.record action)
  else none

/-- `initNetwork` and the actions after it. -/
def run (config : ProcessConfig RouterFunc) (actions : List Action) :
    Option (Endpoint RouterFunc) :=
  (initNetwork config.assertions .new).bind fun singletons =>
    Machine.run (step config singletons) (start config) actions

def observation (endpoint : Endpoint RouterFunc) : Observation RouterFunc where
  handlerCalls := endpoint.handlerCalls
  frames := endpoint.frames
  results := endpoint.process.calls.map (·.stage.result)
  router := endpoint.process.router

end Endpoint

/-- The program built with or without assertions. -/
def ProcessConfig.build (config : ProcessConfig RouterFunc) (assertions : Bool) :
    ProcessConfig RouterFunc :=
  { config with assertions }

/-! ## Before the loops -/

namespace Process

variable {config : ProcessConfig RouterFunc} {process next : Process RouterFunc} {action : Action}

/-- No loop has run: no call was signalled, and no reply is further than the wait. -/
structure Unserved (process : Process RouterFunc) : Prop where
  sender : process.sender = .idle
  dispatcher : process.dispatcher = .idle
  calls : ∀ call ∈ process.calls, call.stage ≠ .waitRep
  replies : ∀ reply ∈ process.replies, ∀ rep, reply.stage ≠ .sending rep
  sendComplete : ∀ sock no flag, process.router.sendCompleteSignals sock no ≠ some (.sent flag)
  appRep : ∀ sock no rep, process.router.appRepSignals sock no ≠ some (.sent rep)

/-- A program starts with nothing served. -/
theorem Unserved.start (config : ProcessConfig RouterFunc) : Unserved (Process.start config) where
  sender := rfl
  dispatcher := rfl
  calls := by rintro call ⟨⟩
  replies := by rintro reply ⟨⟩
  sendComplete := by rintro sock no flag ⟨⟩
  appRep := by rintro sock no rep ⟨⟩

/-- A new entry is not one that was sent through. -/
theorem set_waiting_ne_sent {Value : Type} {table : SignalTable Value} {value : Value}
    {sock no : UInt32} (unsent : table sock no ≠ some (.sent value)) (otherSock otherNo : UInt32) :
    table.set otherSock otherNo (some .waiting) sock no ≠ some (.sent value) := by
  by_cases same : sock = otherSock ∧ no = otherNo
  · obtain ⟨rfl, rfl⟩ := same
    simp
  · rwa [SignalTable.set_of_ne same]

/-- A step without the loops which fails no assertion is the same step without assertions. -/
theorem Unserved.step (unserved : Unserved process)
    (stepped : process.step (config.build true) action = some next)
    (local' : action.needsRouter = false) (passed : next.crashed = false) :
    Unserved next ∧ process.step (config.build false) action = some next := by
  obtain ⟨running, stepped⟩ := stepped_of_step stepped
  cases stepped with
  | @reqrep sock req router prepared =>
      refine ⟨?_, ?_⟩
      · simp only [MessageRouter.prepareReqRep, Option.ite_none_right_eq_some] at prepared
        obtain ⟨_, prepared⟩ := prepared
        cases prepared
        refine ⟨unserved.sender, unserved.dispatcher, ?_, unserved.replies, ?_, unserved.appRep⟩
        · refine forall_mem_added unserved.calls ?_
          rintro ⟨⟩
        · intro otherSock otherNo flag
          exact set_waiting_ne_sent (unserved.sendComplete otherSock otherNo flag) _ _
      · simp only [nextReqNo, ProcessConfig.build] at prepared
        simp [Process.step, running, Process.reqrep, ProcessConfig.build, prepared, countReq,
          nextReqNo]
  | reqrepCrashed refused assertions => cases passed
  | reqrepInvalid refused assertions => cases assertions
  | @queueApp index call found stage room =>
      refine ⟨⟨unserved.sender, unserved.dispatcher, ?_, unserved.replies, unserved.sendComplete,
        unserved.appRep⟩, ?_⟩
      · refine forall_mem_set unserved.calls ?_
        cases call.valid <;> rintro ⟨⟩
      · simp [Process.step, running, found, Process.queueApp, stage, room, setCall]
  | takeApp idle front => cases local'
  | sendFrame sending => cases unserved.sender.symm.trans sending
  | notifySend sent => cases unserved.sender.symm.trans sent
  | wakeSend found stage signalled => exact absurd signalled (unserved.sendComplete _ _ _)
  | wakeSendFailed found stage signalled => exact absurd signalled (unserved.sendComplete _ _ _)
  | wakeRep found stage signalled =>
      exact absurd stage (unserved.calls _ (List.mem_of_getElem? found))
  | @recvRep sock msg waiting =>
      refine ⟨⟨unserved.sender, unserved.dispatcher, unserved.calls, unserved.replies,
        unserved.sendComplete, unserved.appRep⟩, ?_⟩
      simp [Process.step, running, Process.recv, MessageRouter.notifyRecvNetRep,
        SignalTable.notify_of_waiting waiting]
  | @recvReq sock msg other =>
      refine ⟨⟨unserved.sender, unserved.dispatcher, unserved.calls, ?_, unserved.sendComplete,
        unserved.appRep⟩, ?_⟩
      · refine forall_mem_added unserved.replies ?_
        rintro rep ⟨⟩
      · simp [Process.step, running, Process.recv, MessageRouter.notifyRecvNetRep,
          SignalTable.notify_of_not_waiting other]
  | @prepareReply index reply router found stage prepared =>
      refine ⟨?_, ?_⟩
      · simp only [MessageRouter.prepareAppRep, Option.ite_none_right_eq_some] at prepared
        obtain ⟨_, prepared⟩ := prepared
        cases prepared
        refine ⟨unserved.sender, unserved.dispatcher, unserved.calls,
          forall_mem_set unserved.replies ?_, unserved.sendComplete, ?_⟩
        · rintro rep ⟨⟩
        · intro sock no rep
          exact set_waiting_ne_sent (unserved.appRep sock no rep) _ _
      · simp [Process.step, running, found, Process.prepareReply, stage, prepared, setReply]
  | prepareReplyCrashed found stage refused assertions => cases passed
  | prepareReplyNull found stage refused assertions => cases assertions
  | @queueIo index reply found stage room received =>
      refine ⟨⟨unserved.sender, unserved.dispatcher, unserved.calls,
        forall_mem_set unserved.replies ?_, unserved.sendComplete, unserved.appRep⟩, ?_⟩
      · rintro rep ⟨⟩
      · simp [Process.step, running, found, Process.queueIo, stage, room, received, setReply,
          ProcessConfig.build]
  | queueIoCrashed found stage room received => cases passed
  | dispatchCalling idle front opened => cases local'
  | dispatchClosed idle front opened done => cases local'
  | handlerDone calling => cases unserved.dispatcher.symm.trans calling
  | wakeReply found stage signalled => exact absurd signalled (unserved.appRep _ _ _)
  | replySent found stage =>
      exact absurd stage (unserved.replies _ (List.mem_of_getElem? found) _)

/-- Nothing is sent before the loops. -/
theorem Unserved.needsNetManager_eq (unserved : Unserved process)
    (stepped : process.step config action = some next) : action.needsNetManager = false := by
  cases action with
  | sendFrame flag =>
      cases (stepped_of_step stepped).2 with
      | sendFrame sending => cases unserved.sender.symm.trans sending
  | _ => rfl

end Process

namespace Endpoint

variable {config : ProcessConfig RouterFunc} {singletons other : Singletons}
  {endpoint next final : Endpoint RouterFunc} {action : Action} {actions : List Action}

/-- A program makes the steps of its process which its instances serve. -/
theorem step_eq_some_iff :
    endpoint.step config singletons action = some next ↔
      singletons.serve action = true ∧
        ∃ process, endpoint.process.step config action = some process ∧
          endpoint.record action process = next := by
  rw [step]
  cases singletons.serve action <;> simp

/-- A run that ends without a failed assertion has failed none before. -/
theorem running_of_run (ran : Machine.run (step config singletons) endpoint actions = some final)
    (passed : final.process.crashed = false) : endpoint.process.crashed = false := by
  cases actions with
  | nil =>
      cases ran
      exact passed
  | cons action actions =>
      obtain ⟨next, stepped, _⟩ := Machine.run_cons.mp ran
      obtain ⟨_, process, moved, _⟩ := step_eq_some_iff.mp stepped
      exact (Process.stepped_of_step moved).1

/-- Without the loops the program does the same without assertions. -/
theorem run_without (unserved : endpoint.process.Unserved) (router : other.messageRouter = true)
    (ran : Machine.run (step (config.build true) singletons) endpoint actions = some final)
    (passed : final.process.crashed = false)
    (local' : ∀ action ∈ actions, action.needsRouter = false) :
    Machine.run (step (config.build false) other) endpoint actions = some final := by
  induction actions generalizing endpoint with
  | nil => exact ran
  | cons action actions inductionHypothesis =>
      obtain ⟨next, stepped, ran⟩ := Machine.run_cons.mp ran
      have alone := local' action List.mem_cons_self
      have nextPassed := running_of_run ran passed
      obtain ⟨_, process, moved, rfl⟩ := step_eq_some_iff.mp stepped
      obtain ⟨nextUnserved, same⟩ := unserved.step moved alone nextPassed
      apply Machine.run_cons.mpr
      refine ⟨_, step_eq_some_iff.mpr ⟨?_, process, same, rfl⟩, ?_⟩
      · rw [Singletons.serve, router, alone, unserved.needsNetManager_eq moved]
        rfl
      · apply inductionHypothesis nextUnserved ran
        intro later member
        exact local' later (List.mem_cons_of_mem _ member)

/-- A run which fails no assertion is the same without assertions if and only if no message is
taken by a loop of the router, which is then never started. -/
theorem assertions_removed_iff {RouterFunc : Type} (config : ProcessConfig RouterFunc)
    (actions : List Action) (endpoint : Endpoint RouterFunc)
    (ran : run (config.build true) actions = some endpoint)
    (passed : endpoint.process.crashed = false) :
    (∃ other, run (config.build false) actions = some other ∧
        other.observation = endpoint.observation) ↔
      ∀ action ∈ actions, action.needsRouter = false := by
  constructor
  · rintro ⟨other, same, _⟩ action member
    obtain ⟨before, after, stepped⟩ :=
      @Machine.enabled_of_run _ _ (step (config.build false) ⟨true, false, false⟩)
        _ _ _ _ same member
    have started := (step_eq_some_iff.mp stepped).1
    cases needs : action.needsRouter with
    | false => rfl
    | true => simp [Singletons.serve, needs] at started
  · intro local'
    exact ⟨endpoint, run_without (Process.Unserved.start config) rfl ran passed local', rfl⟩

/-- One handler, for whatever the assertions are. -/
def oneServer : ProcessConfig Unit :=
  { DispatcherConfig.single with
    cmode := fun _ => .passive, channelMainc := fun _ => 1, registered := fun _ => true }

/-- A request comes and waits for the dispatcher. -/
def waitingRequest : List Action :=
  [.recv 3 ⟨1, [0, 0, 0, 1, 0, 0, 0, 2]⟩, .prepareReply 0, .queueIo 0]

/-- A request which waits to be sent. -/
theorem assertions_removed_iff_waiting :
    ∃ endpoint, run (oneServer.build true) waitingRequest = some endpoint ∧
      ((∃ other, run (oneServer.build false) waitingRequest = some other ∧
          other.observation = endpoint.observation) ↔
        ∀ action ∈ waitingRequest, action.needsRouter = false) :=
  ⟨_, rfl, assertions_removed_iff oneServer waitingRequest _ rfl rfl⟩

/-- Without assertions the request is never taken. And were the loops started, the dispatcher would
not find its handler, since the head is not unpacked. -/
theorem assertions_removed_unserved :
    (∃ endpoint, run (oneServer.build true) (waitingRequest ++ [.dispatch]) = some endpoint ∧
        endpoint.process.crashed = false ∧ endpoint.handlerCalls = [((), [])] ∧
        run (oneServer.build false) (waitingRequest ++ [.dispatch]) = none) ∧
      ∃ endpoint, Machine.run (step (oneServer.build false) ⟨true, true, true⟩)
        (start oneServer) (waitingRequest ++ [.dispatch]) = some endpoint ∧
          endpoint.handlerCalls = [] := by
  exact ⟨⟨_, rfl, rfl, rfl, rfl⟩, _, rfl, rfl⟩

end Endpoint
end SM.Network
