import SM.Lib.Holders
import SM.Network.ProcessSteps

/-!
# Pending signals

Which entries of the signal tables belong to an exchange in progress. Every entry
has one holder among the coroutines (`SignalsHeld`), but no step erases the entry
of a reply, and without assertions none erases the entries of a call.
-/

namespace SM.Network

open SM.Lib

/-- The call has its signals prepared and is not at its end. -/
def ReqCall.InProgress (call : ReqCall) : Prop :=
  call.valid = true ∧ call.stage.isRunning = true

/-- The reply has its signal prepared and is not at its end. -/
def ReplyCall.InProgress (reply : ReplyCall) : Prop :=
  reply.received = true ∧ reply.stage ≠ .finished

namespace SignalTable

variable {Value : Type} {table : SignalTable Value}

/-- Whether there is an entry for a socket and a number. -/
def present (table : SignalTable Value) (key : UInt32 × UInt32) : Bool :=
  (table key.1 key.2).isSome

/-- Setting an entry changes whether it is there, and no other. -/
theorem present_set (table : SignalTable Value) (sock no : UInt32)
    (entry : Option (Signal Value)) :
    (table.set sock no entry).present = Function.update table.present (sock, no) entry.isSome := by
  ext ⟨otherSock, otherNo⟩
  by_cases same : otherSock = sock ∧ otherNo = no
  · obtain ⟨rfl, rfl⟩ := same
    simp [present]
  · have other : (otherSock, otherNo) ≠ (sock, no) := by simpa using same
    rw [Function.update_of_ne other]
    simp [present, set_of_ne same]

/-- A send through an entry leaves the entry there. -/
theorem present_notify (table : SignalTable Value) (sock no : UInt32) (value : Value) :
    (table.notify sock no value).2.present = table.present := by
  by_cases waiting : table sock no = some .waiting
  · rw [notify_of_waiting waiting, present_set]
    apply Function.update_eq_self_iff.mpr
    simp [present, waiting]
  · rw [notify_of_not_waiting waiting]

variable {Record : Type} {key : Record → Option (UInt32 × UInt32)} {records : List Record}
  {record changed : Record} {index : Nat} {sock no : UInt32}

/-- A record can be added together with its entry. -/
theorem held_append (held : Held key table.present records) (absent : table sock no = none)
    (holds : key record = some (sock, no)) (signal : Signal Value) :
    Held key (table.set sock no (some signal)).present (records ++ [record]) := by
  rw [present_set]
  exact held.append_holder (by simp [present, absent]) holds

/-- A record can get an entry which was absent. -/
theorem held_acquired (held : Held key table.present records)
    (found : records[index]? = some record) (absent : table sock no = none)
    (free : key record = none) (holds : key changed = some (sock, no)) (signal : Signal Value) :
    Held key (table.set sock no (some signal)).present (records.set index changed) := by
  rw [present_set]
  exact held.set_acquired found (by simp [present, absent]) free holds

/-- A record can give up its entry, which is erased. -/
theorem held_released (held : Held key table.present records)
    (found : records[index]? = some record) (holds : key record = some (sock, no))
    (free : key changed = none) :
    Held key (table.set sock no none).present (records.set index changed) := by
  rw [present_set]
  exact held.set_released found holds free

end SignalTable

namespace Process

variable {RouterFunc : Type} {config : ProcessConfig RouterFunc}
  {process next : Process RouterFunc} {action : Action}

/-- Every entry belongs to an exchange in progress, and where none is in progress a request
is accepted. -/
structure NoStale (process : Process RouterFunc) : Prop where
  calls : ∀ sock no,
    process.router.sendCompleteSignals.present (sock, no) = true ∨
      process.router.netRepSignals.present (sock, no) = true →
    ∃ call ∈ process.calls, call.sock = sock ∧ call.no = no ∧ call.InProgress
  replies : ∀ sock no, process.router.appRepSignals.present (sock, no) = true →
    ∃ reply ∈ process.replies, reply.sock = sock ∧ reply.msg.no = no ∧ reply.InProgress
  accepts : ∀ sock no,
    (∀ reply ∈ process.replies, reply.sock = sock → reply.msg.no = no → ¬ reply.InProgress) →
    (process.router.prepareAppRep sock no).isSome = true

/-- The step ends a coroutine whose entries stay: that of a reply, or, without assertions, a
call. -/
def LeavesSignal (config : ProcessConfig RouterFunc) (process : Process RouterFunc) :
    Action → Prop
  | .replySent _ _ => True
  | .wakeRep _ => config.assertions = false
  | .wakeSend index => config.assertions = false ∧ ∃ call, process.calls[index]? = some call ∧
      process.router.sendCompleteSignals call.sock call.no = some (.sent false)
  | _ => False

/-! ## The holders of entries -/

/-- The entries which a call holds. -/
def callKey (assertions : Bool) (call : ReqCall) : Option (UInt32 × UInt32) :=
  if call.valid && (call.stage.isRunning || !assertions && call.stage.isReturned) then
    some (call.sock, call.no)
  else none

/-- The entry which a reply holds. -/
def replyKey (reply : ReplyCall) : Option (UInt32 × UInt32) :=
  if reply.received then some (reply.sock, reply.msg.no) else none

/-- Every entry has one holder. -/
structure SignalsHeld (config : ProcessConfig RouterFunc) (process : Process RouterFunc) :
    Prop where
  sendComplete : Held (callKey config.assertions) process.router.sendCompleteSignals.present
    process.calls
  netRep : Held (callKey config.assertions) process.router.netRepSignals.present process.calls
  appRep : Held replyKey process.router.appRepSignals.present process.replies
  valid : ∀ call ∈ process.calls, call.stage ≠ .queueing → call.stage ≠ .thrown →
    call.valid = true
  spawned : ∀ reply ∈ process.replies, reply.stage = .spawned → reply.received = false
  received : ∀ reply ∈ process.replies, reply.stage ≠ .spawned → reply.stage ≠ .queueing →
    reply.received = true

/-- A coroutine has ended whose entries stay. -/
def Ended (config : ProcessConfig RouterFunc) (process : Process RouterFunc) : Prop :=
  (∃ reply ∈ process.replies, reply.stage = .finished) ∨
    config.assertions = false ∧ ∃ call ∈ process.calls, call.stage.isReturned = true

/-! ## Every entry has one holder -/

/-- Without coroutines there are no entries. -/
theorem SignalsHeld.start (config : ProcessConfig RouterFunc) :
    SignalsHeld config (Process.start config) where
  sendComplete := Held.nil
  netRep := Held.nil
  appRep := Held.nil
  valid := by rintro call ⟨⟩
  spawned := by rintro reply ⟨⟩
  received := by rintro reply ⟨⟩

/-- Only the tables of signals, the calls and the replies matter. -/
theorem SignalsHeld.of_same (held : SignalsHeld config process)
    (router : next.router = process.router) (calls : next.calls = process.calls)
    (replies : next.replies = process.replies) : SignalsHeld config next where
  sendComplete := by
    rw [router, calls]
    exact held.sendComplete
  netRep := by
    rw [router, calls]
    exact held.netRep
  appRep := by
    rw [router, replies]
    exact held.appRep
  valid := by
    rw [calls]
    exact held.valid
  spawned := by
    rw [replies]
    exact held.spawned
  received := by
    rw [replies]
    exact held.received

/-- Replacing a call by one which holds the same entries. -/
theorem SignalsHeld.setCall {index : Nat} {call changed : ReqCall}
    (held : SignalsHeld config process) (found : process.calls[index]? = some call)
    (same : callKey config.assertions changed = callKey config.assertions call)
    (valid : changed.stage ≠ .queueing → changed.stage ≠ .thrown → changed.valid = true) :
    SignalsHeld config (process.setCall index changed) where
  sendComplete := held.sendComplete.set_same found same
  netRep := held.netRep.set_same found same
  appRep := held.appRep
  valid := forall_mem_set held.valid valid
  spawned := held.spawned
  received := held.received

/-- Replacing a reply by one which holds the same entry. -/
theorem SignalsHeld.setReply {index : Nat} {reply changed : ReplyCall}
    (held : SignalsHeld config process) (found : process.replies[index]? = some reply)
    (same : replyKey changed = replyKey reply)
    (spawned : changed.stage = .spawned → changed.received = false)
    (received : changed.stage ≠ .spawned → changed.stage ≠ .queueing → changed.received = true) :
    SignalsHeld config (process.setReply index changed) where
  sendComplete := held.sendComplete
  netRep := held.netRep
  appRep := held.appRep.set_same found same
  valid := held.valid
  spawned := forall_mem_set held.spawned spawned
  received := forall_mem_set held.received received

/-- A running call holds the entries of its number. -/
theorem callKey_of_running {call : ReqCall} (assertions : Bool) (valid : call.valid = true)
    (running : call.stage.isRunning = true) :
    callKey assertions call = some (call.sock, call.no) := by
  simp [callKey, valid, running]

/-- A call which has ended holds its entries without assertions, and none with them. -/
theorem callKey_returned {call : ReqCall} (assertions : Bool) (valid : call.valid = true)
    (running : call.stage.isRunning = true) (ret : Option Utils.Bytes) :
    callKey assertions { call with stage := .returned ret } =
      if assertions then none else callKey assertions call := by
  rw [callKey_of_running assertions valid running]
  cases assertions with
  | false => simp [callKey, valid, CallStage.isReturned]
  | true => simp [callKey, CallStage.isRunning]

/-- The end of a call gives up what it held, or keeps it without assertions. -/
theorem SignalsHeld.finishCall {index : Nat} {call : ReqCall}
    (held : SignalsHeld config process) (found : process.calls[index]? = some call)
    (running : call.stage.isRunning = true) (valid : call.valid = true)
    (ret : Option Utils.Bytes) :
    SignalsHeld config (process.finishCall config index call ret) := by
  have holds := callKey_of_running config.assertions valid running
  have ends := callKey_returned config.assertions valid running ret
  cases assertions : config.assertions with
  | false =>
      rw [finishCall_of_not_assertions assertions]
      apply held.setCall found
      · rw [ends, assertions, if_neg Bool.false_ne_true]
      · intro _ _
        exact valid
  | true =>
      have erased := finishCall_router assertions process index call ret
      have free : callKey config.assertions { call with stage := .returned ret } = none := by
        rw [ends, assertions, if_pos rfl]
      refine ⟨?_, ?_, ?_, ?_, held.spawned, held.received⟩
      · rw [erased]
        exact SignalTable.held_released held.sendComplete found holds free
      · rw [erased]
        exact SignalTable.held_released held.netRep found holds free
      · rw [erased]
        exact held.appRep
      · refine forall_mem_set held.valid ?_
        intro _ _
        exact valid

/-- The end of a turn of the dispatcher erases no entry. -/
theorem SignalsHeld.closePacket (held : SignalsHeld config process) (packet : IoPacket)
    (turn : DispatchTurn RouterFunc) :
    SignalsHeld config (process.closePacket config packet turn) := by
  have kept : ∃ router : MessageRouter,
      (process.closePacket config packet turn).router = router ∧
        router.sendCompleteSignals = process.router.sendCompleteSignals ∧
        router.netRepSignals = process.router.netRepSignals ∧
        router.appRepSignals.present = process.router.appRepSignals.present := by
    rcases closePacket_router config process packet turn with same | ⟨rep, waiting, signalled⟩
    · exact ⟨_, same, rfl, rfl, rfl⟩
    · refine ⟨_, signalled, rfl, rfl, ?_⟩
      have there := SignalTable.present_notify process.router.appRepSignals packet.sock
        packet.msg.no rep
      rwa [SignalTable.notify_of_waiting waiting] at there
  obtain ⟨router, same, sendComplete, netRep, appRep⟩ := kept
  refine ⟨?_, ?_, ?_, held.valid, held.spawned, held.received⟩
  · rw [same, sendComplete]
    exact held.sendComplete
  · rw [same, netRep]
    exact held.netRep
  · rw [same, appRep]
    exact held.appRep

/-- Every step keeps one holder for every entry. -/
theorem SignalsHeld.step (held : SignalsHeld config process)
    (stepped : process.step config action = some next) : SignalsHeld config next := by
  obtain ⟨_, stepped⟩ := stepped_of_step stepped
  cases stepped with
  | @reqrep sock req router prepared =>
      simp only [MessageRouter.prepareReqRep, Option.ite_none_right_eq_some] at prepared
      obtain ⟨absent, prepared⟩ := prepared
      cases prepared
      simp only [MessageRouter.canReqRep, Bool.and_eq_true, Option.isNone_iff_eq_none] at absent
      refine ⟨?_, ?_, held.appRep, ?_, held.spawned, held.received⟩
      · exact SignalTable.held_append held.sendComplete absent.1 rfl .waiting
      · exact SignalTable.held_append held.netRep absent.2 rfl .waiting
      · refine forall_mem_added held.valid ?_
        intro _ _
        rfl
  | reqrepCrashed refused assertions => exact held.of_same rfl rfl rfl
  | @reqrepInvalid sock req refused assertions =>
      have free : callKey config.assertions
          ⟨sock, process.nextReqNo config sock, req, false, .queueing⟩ = none := rfl
      refine ⟨held.sendComplete.append_free free, held.netRep.append_free free, held.appRep, ?_,
        held.spawned, held.received⟩
      refine forall_mem_added held.valid ?_
      intro notQueueing
      exact absurd rfl notQueueing
  | @queueApp index call found stage room =>
      have kept : SignalsHeld config (process.setCall index
          { call with stage := if call.valid then .waitSend else .thrown }) := by
        apply held.setCall found
        · cases valid : call.valid <;> simp [callKey, valid, stage, CallStage.isRunning]
        · cases valid : call.valid <;> simp
      exact kept.of_same rfl rfl rfl
  | takeApp idle front => exact held.of_same rfl rfl rfl
  | sendFrame sending => exact held.of_same rfl rfl rfl
  | @notifySend sock msg flag sent =>
      refine ⟨?_, held.2, held.3, held.4, held.5, held.6⟩
      have kept := SignalTable.present_notify process.router.sendCompleteSignals sock msg.no flag
      exact kept ▸ held.sendComplete
  | @wakeSend index call found stage signalled =>
      have valid := held.valid call (List.mem_of_getElem? found) (by simp [stage]) (by simp [stage])
      apply held.setCall found
      · simp [callKey, valid, stage, CallStage.isRunning]
      · intro _ _
        exact valid
  | @wakeSendFailed index call found stage signalled =>
      have valid := held.valid call (List.mem_of_getElem? found) (by simp [stage]) (by simp [stage])
      exact held.finishCall found (by simp [stage, CallStage.isRunning]) valid none
  | @wakeRep index call rep found stage signalled =>
      have valid := held.valid call (List.mem_of_getElem? found) (by simp [stage]) (by simp [stage])
      exact held.finishCall found (by simp [stage, CallStage.isRunning]) valid (some rep.body)
  | @recvRep sock msg waiting =>
      refine ⟨held.1, ?_, held.3, held.4, held.5, held.6⟩
      have kept := SignalTable.present_notify process.router.netRepSignals sock msg.no msg
      rw [SignalTable.notify_of_waiting waiting] at kept
      exact kept ▸ held.netRep
  | @recvReq sock msg other =>
      refine ⟨held.1, held.2, held.appRep.append_free rfl, held.4, ?_, ?_⟩
      · refine forall_mem_added held.spawned ?_
        intro _
        rfl
      · refine forall_mem_added held.received ?_
        intro notSpawned
        exact absurd rfl notSpawned
  | @prepareReply index reply router found stage prepared =>
      simp only [MessageRouter.prepareAppRep, Option.ite_none_right_eq_some] at prepared
      obtain ⟨absent, prepared⟩ := prepared
      cases prepared
      simp only [MessageRouter.canWaitAppRep, Option.isNone_iff_eq_none] at absent
      have free : replyKey reply = none := by
        simp [replyKey, held.spawned reply (List.mem_of_getElem? found) stage]
      refine ⟨held.1, held.2, ?_, held.4, ?_, ?_⟩
      · exact SignalTable.held_acquired held.appRep found absent free rfl .waiting
      · refine forall_mem_set held.spawned ?_
        rintro ⟨⟩
      · refine forall_mem_set held.received ?_
        intro _ _
        rfl
  | prepareReplyCrashed found stage refused assertions => exact held.of_same rfl rfl rfl
  | prepareReplyNull found stage refused assertions =>
      apply held.setReply found
      · rfl
      · rintro ⟨⟩
      · intro _ notQueueing
        exact absurd rfl notQueueing
  | @queueIo index reply found stage room received =>
      have kept : SignalsHeld config (process.setReply index { reply with stage := .waiting }) := by
        apply held.setReply found
        · rfl
        · rintro ⟨⟩
        · intro _ _
          exact received
      exact kept.of_same rfl rfl rfl
  | queueIoCrashed found stage room received => exact held.of_same rfl rfl rfl
  | dispatchCalling idle front opened => exact held.of_same rfl rfl rfl
  | @dispatchClosed packet dataio turn idle front opened done =>
      have taken : SignalsHeld config { process with dataio := dataio } :=
        held.of_same rfl rfl rfl
      exact taken.closePacket packet turn
  | handlerDone calling => exact held.closePacket _ _
  | @wakeReply index reply rep found stage signalled =>
      apply held.setReply found
      · rfl
      · rintro ⟨⟩
      · intro _ _
        exact held.received reply (List.mem_of_getElem? found) (by simp [stage]) (by simp [stage])
  | @replySent index reply rep flag found stage =>
      apply held.setReply found
      · rfl
      · rintro ⟨⟩
      · intro _ _
        exact held.received reply (List.mem_of_getElem? found) (by simp [stage]) (by simp [stage])

/-! ## Stale entries -/

/-- A call which holds entries runs, or has returned without assertions. -/
theorem callKey_eq_some {assertions : Bool} {call : ReqCall} {sock no : UInt32}
    (holds : callKey assertions call = some (sock, no)) :
    call.sock = sock ∧ call.no = no ∧ (call.InProgress ∨
      assertions = false ∧ call.stage.isReturned = true) := by
  simp only [callKey, Option.ite_none_right_eq_some, Bool.and_eq_true, Bool.or_eq_true,
    Bool.not_eq_true', Option.some.injEq, Prod.mk.injEq] at holds
  obtain ⟨⟨valid, running | returned⟩, rfl, rfl⟩ := holds
  · exact ⟨rfl, rfl, .inl ⟨valid, running⟩⟩
  · exact ⟨rfl, rfl, .inr returned⟩

/-- A reply holds its entry from its preparation on. -/
theorem replyKey_eq_some {reply : ReplyCall} {sock no : UInt32} :
    replyKey reply = some (sock, no) ↔
      reply.received = true ∧ reply.sock = sock ∧ reply.msg.no = no := by
  simp [replyKey]

/-- Without stale entries no reply has ended. -/
theorem NoStale.not_finished (fresh : NoStale process) (held : SignalsHeld config process)
    {reply : ReplyCall} (member : reply ∈ process.replies) : reply.stage ≠ .finished := by
  intro finished
  have received := held.received reply member (by simp [finished]) (by simp [finished])
  have holds : replyKey reply = some (reply.sock, reply.msg.no) :=
    replyKey_eq_some.mpr ⟨received, rfl, rfl⟩
  obtain ⟨other, otherMember, sameSock, sameNo, otherReceived, running⟩ :=
    fresh.replies _ _ (held.appRep.present_of_mem member holds)
  have same := held.appRep.eq_of_mem member holds otherMember
    (replyKey_eq_some.mpr ⟨otherReceived, sameSock, sameNo⟩)
  exact running (same ▸ finished)

/-- Without stale entries and without assertions no call has ended. -/
theorem NoStale.not_returned (fresh : NoStale process) (held : SignalsHeld config process)
    (assertions : config.assertions = false) {call : ReqCall} (member : call ∈ process.calls) :
    call.stage.isReturned ≠ true := by
  intro returned
  have valid := held.valid call member
    (by rintro same; simp [same, CallStage.isReturned] at returned)
    (by rintro same; simp [same, CallStage.isReturned] at returned)
  have holds : callKey config.assertions call = some (call.sock, call.no) := by
    simp [callKey, valid, assertions, returned]
  obtain ⟨other, otherMember, sameSock, sameNo, otherValid, running⟩ :=
    fresh.calls _ _ (.inl (held.sendComplete.present_of_mem member holds))
  have otherHolds : callKey config.assertions other = some (call.sock, call.no) := by
    rw [callKey_of_running config.assertions otherValid running, sameSock, sameNo]
  have same := held.sendComplete.eq_of_mem member holds otherMember otherHolds
  rw [same, CallStage.isReturned_of_isRunning running] at returned
  cases returned

/-- Where no coroutine has ended which leaves an entry, every entry has its coroutine. -/
theorem SignalsHeld.noStale (held : SignalsHeld config process)
    (notEnded : ¬ Ended config process) : NoStale process := by
  have replies : ∀ sock no, process.router.appRepSignals.present (sock, no) = true →
      ∃ reply ∈ process.replies, reply.sock = sock ∧ reply.msg.no = no ∧ reply.InProgress := by
    intro sock no there
    obtain ⟨reply, member, holds⟩ := held.appRep.exists_of_present there
    obtain ⟨received, sameSock, sameNo⟩ := replyKey_eq_some.mp holds
    refine ⟨reply, member, sameSock, sameNo, received, ?_⟩
    intro finished
    exact notEnded (.inl ⟨reply, member, finished⟩)
  refine ⟨?_, replies, ?_⟩
  · intro sock no there
    have holder : ∃ call ∈ process.calls, callKey config.assertions call = some (sock, no) := by
      rcases there with there | there
      · exact held.sendComplete.exists_of_present there
      · exact held.netRep.exists_of_present there
    obtain ⟨call, member, holds⟩ := holder
    obtain ⟨sameSock, sameNo, running | ⟨assertions, returned⟩⟩ := callKey_eq_some holds
    · exact ⟨call, member, sameSock, sameNo, running⟩
    · exact absurd (.inr ⟨assertions, call, member, returned⟩) notEnded
  · intro sock no idle
    cases there : process.router.appRepSignals.present (sock, no) with
    | true =>
        obtain ⟨reply, member, sameSock, sameNo, running⟩ := replies sock no there
        exact absurd running (idle reply member sameSock sameNo)
    | false =>
        have absent : process.router.appRepSignals sock no = none := by
          simpa [SignalTable.present] using there
        simp [MessageRouter.prepareAppRep, MessageRouter.canWaitAppRep, absent]

/-- An entry is stale exactly when a coroutine has ended which leaves one. -/
theorem noStale_iff (held : SignalsHeld config process) :
    NoStale process ↔ ¬ Ended config process := by
  constructor
  · rintro fresh (⟨reply, member, finished⟩ | ⟨assertions, call, member, returned⟩)
    · exact fresh.not_finished held member finished
    · exact fresh.not_returned held assertions member returned
  · exact held.noStale

/-- Whether some record has a property after one without it was replaced. -/
theorem exists_mem_set_iff {Record : Type} {records : List Record} {index : Nat}
    {record : Record} (holds : Record → Prop) (found : records[index]? = some record)
    (without : ¬ holds record) (changed : Record) :
    (∃ other ∈ records.set index changed, holds other) ↔
      (∃ other ∈ records, holds other) ∨ holds changed := by
  obtain ⟨inside, rfl⟩ := List.getElem?_eq_some_iff.mp found
  constructor
  · rintro ⟨other, member, satisfied⟩
    rcases List.mem_or_eq_of_mem_set member with before | rfl
    · exact .inl ⟨other, before, satisfied⟩
    · exact .inr satisfied
  · rintro (⟨other, member, satisfied⟩ | satisfied)
    · obtain ⟨position, positionInside, rfl⟩ := List.getElem_of_mem member
      have moved : index ≠ position := by
        rintro rfl
        exact without satisfied
      refine ⟨records[position], ?_, satisfied⟩
      apply List.mem_iff_getElem.mpr
      exact ⟨position, by simpa using positionInside, by simp [moved]⟩
    · exact ⟨changed, List.mem_set inside changed, satisfied⟩

/-- A call ends where its new stage is an end which leaves entries. -/
theorem ended_setCall {index : Nat} {call : ReqCall}
    (found : process.calls[index]? = some call) (running : call.stage.isReturned = false)
    (changed : ReqCall) :
    Ended config (process.setCall index changed) ↔
      Ended config process ∨ config.assertions = false ∧ changed.stage.isReturned = true := by
  have changedCalls := exists_mem_set_iff (fun call => call.stage.isReturned = true) found
    (by simp [running]) changed
  simp only [Ended, setCall, changedCalls, and_or_left, or_assoc]

/-- A reply ends where its new stage is the end. -/
theorem ended_setReply {index : Nat} {reply : ReplyCall}
    (found : process.replies[index]? = some reply) (running : reply.stage ≠ .finished)
    (changed : ReplyCall) :
    Ended config (process.setReply index changed) ↔
      Ended config process ∨ changed.stage = .finished := by
  have changedReplies := exists_mem_set_iff (fun reply => reply.stage = .finished) found running
    changed
  simp only [Ended, setReply, changedReplies]
  exact or_right_comm

/-- The steps which leave an entry are those which end a coroutine that leaves one. -/
theorem ended_step (stepped : process.step config action = some next) :
    Ended config next ↔ Ended config process ∨ LeavesSignal config process action := by
  obtain ⟨_, stepped⟩ := stepped_of_step stepped
  cases stepped with
  | reqrep prepared => simp [Ended, LeavesSignal, countReq, CallStage.isReturned]
  | reqrepCrashed refused assertions => simp [Ended, LeavesSignal, countReq]
  | reqrepInvalid refused assertions =>
      simp [Ended, LeavesSignal, countReq, CallStage.isReturned]
  | @queueApp index call found stage room =>
      refine (ended_setCall found (by simp [stage, CallStage.isReturned]) _).trans ?_
      cases call.valid <;> simp [LeavesSignal, CallStage.isReturned]
  | takeApp idle front => simp [Ended, LeavesSignal]
  | sendFrame sending => simp [Ended, LeavesSignal]
  | notifySend sent => simp [Ended, LeavesSignal]
  | @wakeSend index call found stage signalled =>
      rw [ended_setCall found (by simp [stage, CallStage.isReturned])]
      simp [LeavesSignal, found, signalled, CallStage.isReturned]
  | @wakeSendFailed index call found stage signalled =>
      refine (ended_setCall found (by simp [stage, CallStage.isReturned]) _).trans ?_
      simp [LeavesSignal, found, signalled, CallStage.isReturned]
  | @wakeRep index call rep found stage signalled =>
      refine (ended_setCall found (by simp [stage, CallStage.isReturned]) _).trans ?_
      simp [LeavesSignal, CallStage.isReturned]
  | recvRep waiting => simp [Ended, LeavesSignal]
  | recvReq other => simp [Ended, LeavesSignal]
  | @prepareReply index reply router found stage prepared =>
      refine (ended_setReply found (by simp [stage]) _).trans ?_
      simp [LeavesSignal]
  | prepareReplyCrashed found stage refused assertions => simp [Ended, LeavesSignal]
  | prepareReplyNull found stage refused assertions =>
      refine (ended_setReply found (by simp [stage]) _).trans ?_
      simp [LeavesSignal]
  | queueIo found stage room received =>
      refine (ended_setReply found (by simp [stage]) _).trans ?_
      simp [LeavesSignal]
  | queueIoCrashed found stage room received => simp [Ended, LeavesSignal]
  | dispatchCalling idle front opened => simp [Ended, LeavesSignal]
  | dispatchClosed idle front opened done => simp [Ended, LeavesSignal, closePacket]
  | handlerDone calling => simp [Ended, LeavesSignal, closePacket]
  | wakeReply found stage signalled =>
      refine (ended_setReply found (by simp [stage]) _).trans ?_
      simp [LeavesSignal]
  | replySent found stage =>
      refine (ended_setReply found (by simp [stage]) _).trans ?_
      simp [LeavesSignal]

/-- In every run, the entries belong to exchanges in progress if and only if no step has ended
a reply, or, without assertions, a call. -/
theorem pendingSignals_iff {RouterFunc : Type} (config : ProcessConfig RouterFunc)
    (actions : List Action) (process : Process RouterFunc)
    (ran : Machine.run (Process.step config) (Process.start config) actions = some process) :
    NoStale process ↔
      Machine.Every (Process.step config)
        (fun process action => ¬ LeavesSignal config process action)
        (Process.start config) actions := by
  have final := Machine.run_invariant (SignalsHeld config) (fun _ => True)
    (fun held _ stepped => held.step stepped) (SignalsHeld.start config) ran (fun _ _ => trivial)
  have fresh : ¬ Ended config (Process.start config) := by simp [Ended, Process.start]
  rw [noStale_iff final]
  have tracked := Machine.run_iff_every (SignalsHeld config) (fun process => ¬ Ended config process)
    (fun process action => ¬ LeavesSignal config process action)
    (fun held stepped => held.step stepped)
    (fun held stepped => by rw [ended_step stepped, not_or]) (SignalsHeld.start config) ran
  exact tracked.trans (and_iff_right fresh)

/-- One handler, and assertions. -/
def oneHandler : ProcessConfig Unit :=
  { DispatcherConfig.single with
    cmode := fun _ => .passive, channelMainc := fun _ => 1, registered := fun _ => true }

/-- A request comes in and is answered. -/
def answered : List Action :=
  [.recv 3 ⟨1, [0, 0, 0, 1, 0, 0, 0, 2]⟩, .prepareReply 0, .queueIo 0, .dispatch,
    .handlerDone (.value []), .wakeReply 0, .replySent 0 true]

/-- A request which was answered. -/
theorem pendingSignals_iff_answered :
    ∃ process,
      Machine.run (Process.step oneHandler) (Process.start oneHandler) answered = some process ∧
        (NoStale process ↔
          Machine.Every (Process.step oneHandler)
            (fun process action => ¬ LeavesSignal oneHandler process action)
            (Process.start oneHandler) answered) := by
  have ran : ∃ process,
      Machine.run (Process.step oneHandler) (Process.start oneHandler) answered = some process :=
    ⟨_, rfl⟩
  obtain ⟨process, ran⟩ := ran
  exact ⟨process, ran, pendingSignals_iff oneHandler answered process ran⟩

/-- After its reply the entry of a request stays, and the next request with its number ends
the program. -/
theorem pendingSignals_stale :
    (∃ process,
      Machine.run (Process.step oneHandler) (Process.start oneHandler) answered = some process ∧
        ¬ NoStale process) ∧
      ∃ process,
        Machine.run (Process.step oneHandler) (Process.start oneHandler)
            (answered ++ [.recv 3 ⟨1, [0, 0, 0, 1, 0, 0, 0, 2]⟩, .prepareReply 1]) =
          some process ∧ process.crashed = true := by
  refine ⟨⟨_, rfl, ?_⟩, ⟨_, rfl, rfl⟩⟩
  rintro fresh
  obtain ⟨reply, member, _, _, _, running⟩ := fresh.replies 3 1 rfl
  apply running
  rw [List.mem_singleton.mp member]

end Process
end SM.Network
