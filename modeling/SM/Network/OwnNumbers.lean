import SM.Network.PendingSignals

/-!
# Frames with an own number

The receive loop takes a frame for a request when no call waits for its number.
`Watched` keeps, beside a process, the numbers it has issued, the frames which
have come and what its reply coroutines have done, so that a frame which was a
reply to an own call can be followed to the dispatcher and back to the channel.
An entry waits for the first frame after its call alone (`Awaited`).
-/

namespace SM.Network

open SM.Lib

/-- A frame which came, with the number of calls made before it. -/
structure Arrival where
  sock : UInt32
  no : UInt32
  calls : Nat

structure Watched (RouterFunc : Type) where
  process : Process RouterFunc
  /-- The channels and numbers which `newReq` has returned. -/
  issued : List (UInt32 × UInt32)
  arrivals : List Arrival
  /-- The reply coroutines spawned for frames whose number was issued on their channel. -/
  own : List Nat
  /-- The reply coroutines which have given their packet to the dispatcher. -/
  executed : List Nat
  /-- The reply coroutines which have called `sendPack`. -/
  sentBack : List Nat

namespace Watched

variable {RouterFunc : Type} {config : ProcessConfig RouterFunc}
  {watched next : Watched RouterFunc} {action : Action}

def start (config : ProcessConfig RouterFunc) : Watched RouterFunc where
  process := Process.start config
  issued := []
  arrivals := []
  own := []
  executed := []
  sentBack := []

/-- What is to be remembered of an action. -/
def note (config : ProcessConfig RouterFunc) (watched : Watched RouterFunc) (action : Action)
    (next : Process RouterFunc) : Watched RouterFunc :=
  let watched' := { watched with process := next }
  match action with
  | .reqrep sock _ =>
      { watched' with issued := watched.issued ++ [(sock, watched.process.nextReqNo config sock)] }
  | .recv sock msg =>
      let heard := { watched' with
        arrivals := watched.arrivals ++ [⟨sock, msg.no, watched.process.calls.length⟩] }
      if (sock, msg.no) ∈ watched.issued ∧
          (watched.process.router.notifyRecvNetRep sock msg).1 = false then
        { heard with own := watched.own ++ [watched.process.replies.length] }
      else heard
  | .queueIo index => { watched' with executed := watched.executed ++ [index] }
  | .wakeReply index => { watched' with sentBack := watched.sentBack ++ [index] }
  | _ => watched'

def step (config : ProcessConfig RouterFunc) (watched : Watched RouterFunc) (action : Action) :
    Option (Watched RouterFunc) :=
  (watched.process.step config action).map (watched.note config action)

/-- No frame with an own number was given to the dispatcher or answered. -/
def ForeignOnly (watched : Watched RouterFunc) : Prop :=
  ∀ index ∈ watched.own, index ∉ watched.executed ∧ index ∉ watched.sentBack

/-- All frames on a channel with a number came before the call of an index was made. -/
def Unheard (arrivals : List Arrival) (sock no : UInt32) (index : Nat) : Prop :=
  ∀ arrival ∈ arrivals, arrival.sock = sock → arrival.no = no → arrival.calls ≤ index

/-- A received frame with an own number is the first since a call which holds the number. -/
def FindsCall (config : ProcessConfig RouterFunc) (watched : Watched RouterFunc) :
    Action → Prop
  | .recv sock msg => (sock, msg.no) ∈ watched.issued →
      ∃ index call, watched.process.calls[index]? = some call ∧
        Process.callKey config.assertions call = some (sock, msg.no) ∧
        Unheard watched.arrivals sock msg.no index
  | _ => True

/-! ## The entry of a call -/

/-- The entry of a call waits as long as no frame with its number has come since. -/
def Awaited (config : ProcessConfig RouterFunc) (process : Process RouterFunc)
    (arrivals : List Arrival) : Prop :=
  ∀ index call sock no, process.calls[index]? = some call →
    Process.callKey config.assertions call = some (sock, no) →
    (process.router.netRepSignals sock no = some .waiting ↔ Unheard arrivals sock no index)

/-- What every step keeps. -/
structure Timely (config : ProcessConfig RouterFunc) (watched : Watched RouterFunc) : Prop where
  held : Process.SignalsHeld config watched.process
  counted : ∀ arrival ∈ watched.arrivals, arrival.calls ≤ watched.process.calls.length
  awaited : Awaited config watched.process watched.arrivals

/-- Before the first call nothing has come. -/
theorem Timely.start (config : ProcessConfig RouterFunc) :
    Timely config (Watched.start config) where
  held := Process.SignalsHeld.start config
  counted := by rintro arrival ⟨⟩
  awaited := by
    intro index call sock no found
    simp [Watched.start, Process.start] at found

section Awaited

variable {process changed : Process RouterFunc} {arrivals : List Arrival}

/-- The calls after a step held what they hold, and its entries stayed. -/
theorem Awaited.of_holders (awaited : Awaited config process arrivals)
    (kept : ∀ (index : Nat) (call : ReqCall) (sock no : UInt32),
      changed.calls[index]? = some call →
      Process.callKey config.assertions call = some (sock, no) →
      (∃ before, process.calls[index]? = some before ∧
        Process.callKey config.assertions before = some (sock, no)) ∧
      changed.router.netRepSignals sock no = process.router.netRepSignals sock no) :
    Awaited config changed arrivals := by
  intro index call sock no found holds
  obtain ⟨⟨before, foundBefore, heldBefore⟩, same⟩ := kept index call sock no found holds
  rw [same]
  exact awaited index before sock no foundBefore heldBefore

/-- Only the entries of replies and the calls matter. -/
theorem Awaited.of_same (awaited : Awaited config process arrivals)
    (signals : changed.router.netRepSignals = process.router.netRepSignals)
    (calls : changed.calls = process.calls) : Awaited config changed arrivals := by
  rw [Awaited, signals, calls]
  exact awaited

/-- Replacing a call by one which holds the same entries. -/
theorem Awaited.setCall {index : Nat} {call replaced : ReqCall}
    (awaited : Awaited config process arrivals) (found : process.calls[index]? = some call)
    (same : Process.callKey config.assertions replaced =
      Process.callKey config.assertions call) :
    Awaited config (process.setCall index replaced) arrivals := by
  refine awaited.of_holders ?_
  intro position holder sock no there holds
  exact ⟨getElem?_set_holder found (.inr same) there holds, rfl⟩

/-- The entry which the end of a call erases is held by no other call. -/
theorem Awaited.finishCall {index : Nat} {call : ReqCall} {ret : Option Utils.Bytes}
    (awaited : Awaited config process arrivals) (found : process.calls[index]? = some call)
    (running : call.stage.isRunning = true) (valid : call.valid = true)
    (held : Process.SignalsHeld config (process.finishCall config index call ret)) :
    Awaited config (process.finishCall config index call ret) arrivals := by
  have ends := Process.callKey_returned config.assertions valid running ret
  cases assertions : config.assertions with
  | false =>
      rw [Process.finishCall_of_not_assertions assertions]
      apply awaited.setCall found
      rw [ends, assertions, if_neg Bool.false_ne_true]
  | true =>
      have free : Process.callKey config.assertions { call with stage := .returned ret } = none := by
        rw [ends, assertions, if_pos rfl]
      have erased : (process.finishCall config index call ret).router.netRepSignals =
          process.router.netRepSignals.set call.sock call.no none := by
        rw [Process.finishCall_router assertions, MessageRouter.finishReqRep]
      refine awaited.of_holders ?_
      intro position holder sock no there holds
      refine ⟨getElem?_set_holder found (.inl free) there holds, ?_⟩
      have present := held.netRep.present_of_mem (List.mem_of_getElem? there) holds
      have other : ¬ (sock = call.sock ∧ no = call.no) := by
        rintro ⟨rfl, rfl⟩
        simp [SignalTable.present, erased] at present
      rw [erased, SignalTable.set_of_ne other]

end Awaited

/-- A frame is not taken for a reply exactly when its entry does not wait. -/
theorem notifyRecvNetRep_eq_false_iff (router : MessageRouter) (sock : UInt32) (msg : NMessage) :
    (router.notifyRecvNetRep sock msg).1 = false ↔
      router.netRepSignals sock msg.no ≠ some .waiting := by
  by_cases waiting : router.netRepSignals sock msg.no = some .waiting
  · simp [MessageRouter.notifyRecvNetRep, SignalTable.notify_of_waiting waiting, waiting]
  · simp [MessageRouter.notifyRecvNetRep, SignalTable.notify_of_not_waiting waiting, waiting]

/-- The process is noted as it is. -/
theorem note_process (watched : Watched RouterFunc) (action : Action)
    (process : Process RouterFunc) : (watched.note config action process).process = process := by
  cases action with
  | recv sock msg =>
      simp only [note]
      split <;> rfl
  | _ => rfl

/-- Only a received frame is noted as one. -/
theorem note_arrivals (watched : Watched RouterFunc) (action : Action)
    (process : Process RouterFunc) :
    (watched.note config action process).arrivals = watched.arrivals ++ match action with
      | .recv sock msg => [⟨sock, msg.no, watched.process.calls.length⟩]
      | _ => [] := by
  cases action with
  | recv sock msg =>
      simp only [note]
      split <;> rfl
  | _ => exact (List.append_nil _).symm

/-! ## Every step keeps the entries waiting -/

/-- A frame is the first since a call which holds its number if and only if the entry of the
number waits. -/
theorem Timely.waiting_iff (timely : Timely config watched) (sock no : UInt32) :
    watched.process.router.netRepSignals sock no = some .waiting ↔
      ∃ index call, watched.process.calls[index]? = some call ∧
        Process.callKey config.assertions call = some (sock, no) ∧
        Unheard watched.arrivals sock no index := by
  constructor
  · intro waiting
    have present : watched.process.router.netRepSignals.present (sock, no) = true := by
      simp [SignalTable.present, waiting]
    obtain ⟨call, member, holds⟩ := timely.held.netRep.exists_of_present present
    obtain ⟨index, found⟩ := List.mem_iff_getElem?.mp member
    have unheard := (timely.awaited index call sock no found holds).mp waiting
    exact ⟨index, call, found, holds, unheard⟩
  · rintro ⟨index, call, found, holds, unheard⟩
    exact (timely.awaited index call sock no found holds).mpr unheard

/-- A call which is added waits for its first frame. -/
theorem Awaited.added {process changed : Process RouterFunc} {arrivals : List Arrival}
    {sock no : UInt32} {call : ReqCall} (awaited : Awaited config process arrivals)
    (held : Process.SignalsHeld config process)
    (counted : ∀ arrival ∈ arrivals, arrival.calls ≤ process.calls.length)
    (absent : process.router.netRepSignals sock no = none)
    (holds : Process.callKey config.assertions call = some (sock, no))
    (signals : changed.router.netRepSignals =
      process.router.netRepSignals.set sock no (some .waiting))
    (calls : changed.calls = process.calls ++ [call]) : Awaited config changed arrivals := by
  intro index other otherSock otherNo found otherHolds
  rw [calls] at found
  rcases getElem?_added found with before | ⟨rfl, rfl⟩
  · have present := held.netRep.present_of_mem (List.mem_of_getElem? before) otherHolds
    have different : ¬ (otherSock = sock ∧ otherNo = no) := by
      rintro ⟨rfl, rfl⟩
      simp [SignalTable.present, absent] at present
    rw [signals, SignalTable.set_of_ne different]
    exact awaited index other otherSock otherNo before otherHolds
  · rw [holds, Option.some.injEq, Prod.mk.injEq] at otherHolds
    obtain ⟨rfl, rfl⟩ := otherHolds
    have unheard : Unheard arrivals sock no process.calls.length :=
      fun arrival member _ _ => counted arrival member
    simp [signals, unheard]

/-- A call which is added without entries changes nothing. -/
theorem Awaited.added_free {process changed : Process RouterFunc} {arrivals : List Arrival}
    {call : ReqCall} (awaited : Awaited config process arrivals)
    (free : Process.callKey config.assertions call = none)
    (signals : changed.router.netRepSignals = process.router.netRepSignals)
    (calls : changed.calls = process.calls ++ [call]) : Awaited config changed arrivals := by
  refine awaited.of_holders ?_
  intro index other sock no found holds
  rw [calls] at found
  rcases getElem?_added found with before | ⟨rfl, rfl⟩
  · exact ⟨⟨other, before, holds⟩, by rw [signals]⟩
  · rw [free] at holds
    cases holds

/-- After a frame its entry waits no longer, and the others wait as before. -/
theorem Awaited.heard {process changed : Process RouterFunc} {arrivals : List Arrival}
    {sock no : UInt32} (awaited : Awaited config process arrivals)
    (signals : changed.router.netRepSignals sock no ≠ some .waiting)
    (others : ∀ otherSock otherNo, ¬ (otherSock = sock ∧ otherNo = no) →
      changed.router.netRepSignals otherSock otherNo =
        process.router.netRepSignals otherSock otherNo)
    (calls : changed.calls = process.calls) :
    Awaited config changed (arrivals ++ [⟨sock, no, process.calls.length⟩]) := by
  intro index call otherSock otherNo found holds
  rw [calls] at found
  have inside : index < process.calls.length := (List.getElem?_eq_some_iff.mp found).1
  by_cases same : otherSock = sock ∧ otherNo = no
  · obtain ⟨rfl, rfl⟩ := same
    refine iff_of_false signals ?_
    intro unheard
    have late := unheard ⟨otherSock, otherNo, process.calls.length⟩ (by simp) rfl rfl
    simp only at late
    omega
  · rw [others otherSock otherNo same, awaited index call otherSock otherNo found holds]
    constructor
    · intro unheard arrival member sameSock sameNo
      rcases List.mem_append.mp member with before | added
      · exact unheard arrival before sameSock sameNo
      · rw [List.mem_singleton.mp added] at sameSock sameNo
        exact absurd ⟨sameSock.symm, sameNo.symm⟩ same
    · intro unheard arrival member
      exact unheard arrival (List.mem_append_left _ member)

/-- Every step but a receipt keeps the entries of the calls waiting as they were. -/
theorem Awaited.step_of_quiet {process changed : Process RouterFunc} {arrivals : List Arrival}
    (awaited : Awaited config process arrivals) (held : Process.SignalsHeld config process)
    (counted : ∀ arrival ∈ arrivals, arrival.calls ≤ process.calls.length)
    (stepped : process.step config action = some changed)
    (quiet : ∀ sock msg, action ≠ .recv sock msg) : Awaited config changed arrivals := by
  have heldAfter := held.step stepped
  obtain ⟨_, stepped⟩ := Process.stepped_of_step stepped
  cases stepped with
  | @reqrep sock req router prepared =>
      simp only [MessageRouter.prepareReqRep, Option.ite_none_right_eq_some] at prepared
      obtain ⟨absent, prepared⟩ := prepared
      cases prepared
      simp only [MessageRouter.canReqRep, Bool.and_eq_true, Option.isNone_iff_eq_none] at absent
      exact awaited.added held counted absent.2 rfl rfl rfl
  | reqrepInvalid refused assertions => exact awaited.added_free rfl rfl rfl
  | @queueApp index call found stage room =>
      have kept : Awaited config (process.setCall index
          { call with stage := if call.valid then .waitSend else .thrown }) arrivals := by
        apply awaited.setCall found
        cases valid : call.valid <;> simp [Process.callKey, valid, stage, CallStage.isRunning]
      exact kept.of_same rfl rfl
  | @wakeSend index call found stage signalled =>
      apply awaited.setCall found
      simp [Process.callKey, stage, CallStage.isRunning]
  | @wakeSendFailed index call found stage signalled =>
      have valid := held.valid call (List.mem_of_getElem? found) (by simp [stage]) (by simp [stage])
      exact awaited.finishCall found (by simp [stage, CallStage.isRunning]) valid heldAfter
  | @wakeRep index call rep found stage signalled =>
      have valid := held.valid call (List.mem_of_getElem? found) (by simp [stage]) (by simp [stage])
      exact awaited.finishCall found (by simp [stage, CallStage.isRunning]) valid heldAfter
  | recvRep waiting => exact absurd rfl (quiet _ _)
  | recvReq other => exact absurd rfl (quiet _ _)
  | @prepareReply index reply router found stage prepared =>
      simp only [MessageRouter.prepareAppRep, Option.ite_none_right_eq_some] at prepared
      obtain ⟨_, prepared⟩ := prepared
      cases prepared
      exact awaited.of_same rfl rfl
  | @dispatchClosed packet dataio turn idle front opened done =>
      refine awaited.of_same ?_ rfl
      exact Process.closePacket_netRepSignals config { process with dataio := dataio } packet turn
  | handlerDone calling =>
      exact awaited.of_same (Process.closePacket_netRepSignals config process _ _) rfl
  | _ => exact awaited.of_same rfl rfl

/-- Every step keeps the calls waiting for their first frames. -/
theorem Timely.step (timely : Timely config watched)
    (stepped : watched.step config action = some next) : Timely config next := by
  obtain ⟨process, taken, rfl⟩ := Option.map_eq_some_iff.mp stepped
  have longer := Process.calls_length_le (Process.stepped_of_step taken).2
  refine ⟨?_, ?_, ?_⟩
  · rw [note_process]
    exact timely.held.step taken
  · rw [note_process, note_arrivals]
    intro arrival member
    rcases List.mem_append.mp member with before | added
    · exact Nat.le_trans (timely.counted arrival before) longer
    · cases action with
      | recv sock msg =>
          rw [List.mem_singleton.mp added]
          exact longer
      | _ => cases added
  · rw [note_process, note_arrivals]
    cases action with
    | recv sock msg =>
        obtain ⟨_, taken⟩ := Process.stepped_of_step taken
        cases taken with
        | recvRep waiting =>
            refine timely.awaited.heard ?_ ?_ rfl
            · simp
            · intro otherSock otherNo other
              exact SignalTable.set_of_ne other _
        | recvReq other => exact timely.awaited.heard other (fun _ _ _ => rfl) rfl
    | _ =>
        rw [List.append_nil]
        exact timely.awaited.step_of_quiet timely.held timely.counted taken (by simp)

/-- A step spawns a coroutine for an own number exactly when the frame does not find its call. -/
theorem own_step (timely : Timely config watched)
    (stepped : watched.step config action = some next) :
    next.own = [] ↔ watched.own = [] ∧ FindsCall config watched action := by
  obtain ⟨process, _, rfl⟩ := Option.map_eq_some_iff.mp stepped
  cases action with
  | recv sock msg =>
      simp only [note, FindsCall, ← timely.waiting_iff, notifyRecvNetRep_eq_false_iff]
      split
      · rename_i missed
        simp [missed.1, missed.2]
      · rename_i found
        refine (and_iff_left ?_).symm
        simpa using found
  | _ => exact (and_iff_left trivial).symm

/-- In every run, no frame with an own number is taken for a request if and only if every one
finds its call. -/
theorem own_nil_iff {actions : List Action}
    (ran : Machine.run (step config) (start config) actions = some watched) :
    watched.own = [] ↔
      Machine.Every (step config) (FindsCall config) (start config) actions := by
  have tracked := Machine.run_iff_every (Timely config) (fun watched => watched.own = [])
    (FindsCall config) (fun timely stepped => timely.step stepped)
    (fun timely stepped => own_step timely stepped) (Timely.start config) ran
  exact tracked.trans (and_iff_right rfl)

/-- In every run in which every frame with an own number finds its call, no such frame comes to
the dispatcher or is answered. -/
theorem foreignOnly_of_findsCall {RouterFunc : Type} (config : ProcessConfig RouterFunc)
    (actions : List Action) (watched : Watched RouterFunc)
    (ran : Machine.run (step config) (start config) actions = some watched)
    (found : Machine.Every (step config) (FindsCall config) (start config) actions) :
    watched.ForeignOnly := by
  have none := (own_nil_iff ran).mpr found
  intro index member
  rw [none] at member
  cases member

/-- One handler, and a channel which calls. -/
def oneCaller : ProcessConfig Unit :=
  { DispatcherConfig.single with
    cmode := fun _ => .initiative, channelMainc := fun _ => 1, registered := fun _ => true }

/-- A request is sent, and its reply comes. -/
def replied : List Action :=
  [.reqrep 3 [], .queueApp 0, .takeApp, .sendFrame true, .notifySend,
    .recv 3 ⟨1, [0, 0, 0, 1, 0, 0, 0, 2]⟩]

/-- The reply comes again, and is handled and answered. -/
def repeated : List Action :=
  [.recv 3 ⟨1, [0, 0, 0, 1, 0, 0, 0, 2]⟩, .prepareReply 0, .queueIo 0, .dispatch,
    .handlerDone (.value []), .wakeReply 0, .replySent 0 true]

/-- A call and its reply. -/
theorem foreignOnly_of_findsCall_replied :
    ∃ watched, Machine.run (step oneCaller) (start oneCaller) replied = some watched ∧
      watched.process.router.netRepSignals 3 1 =
        some (.sent ⟨1, [0, 0, 0, 1, 0, 0, 0, 2]⟩) ∧
      watched.ForeignOnly := by
  refine ⟨_, rfl, rfl, foreignOnly_of_findsCall oneCaller replied _ rfl ?_⟩
  exact (@own_nil_iff Unit oneCaller _ replied rfl).mp rfl

/-- A second reply, and one which comes after its call has returned, are handled as requests. -/
theorem foreignOnly_repeated :
    (∃ watched, Machine.run (step oneCaller) (start oneCaller) (replied ++ repeated) =
        some watched ∧ ¬ watched.ForeignOnly) ∧
      ∃ watched, Machine.run (step oneCaller) (start oneCaller)
        (replied ++ [.wakeSend 0, .wakeRep 0] ++ repeated) = some watched ∧
          ¬ watched.ForeignOnly := by
  refine ⟨⟨_, rfl, ?_⟩, ⟨_, rfl, ?_⟩⟩
  · intro foreign
    exact (foreign 0 (.head _)).1 (.head _)
  · intro foreign
    exact (foreign 0 (.head _)).2 (.head _)

end Watched
end SM.Network
