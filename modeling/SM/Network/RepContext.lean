import SM.Lib.Machine
import SM.Network.NngChannels
import SM.Network.Process

/-!
# Requests of a reply context

`rep_callback` starts the receive of an `AsynRepImpl` in state `INIT`. `createRep` passes it the
channel, where the `AsynRepImpl` of the channel is meant: the callback looks for `_nStatus` where
the channel has `_reqNo`, and no receive is started. A request which arrives stays with nng
(`idle_of_run`).
-/

namespace SM.Network

open SM.Lib SM.Utils

/-- The state of an enumerator's value. -/
def NngStatus.ofValue : UInt32 → Option NngStatus
  | 0 => some .init
  | 1 => some .recv
  | 2 => some .wait
  | 3 => some .send
  | 4 => some .aioError
  | _ => none

/-- An `AsynRepImpl` with its context, the receive loop of its channel and the coroutines of the
replies. -/
structure RepContext where
  status : NngStatus := .init
  /-- `createRep` has called `rep_callback`. -/
  started : Bool := false
  /-- The receives, and the replies, whose callback is to come. -/
  receives : Nat := 0
  replies : Nat := 0
  /-- The requests that arrived, and how far they are: with nng, with the coroutine of the callback,
  in `_msgs`, or returned by `recvPack`. -/
  arrived : List Bytes := []
  waiting : List Bytes := []
  handing : List Bytes := []
  msgs : List Bytes := []
  delivered : List Bytes := []
  /-- The receive loop waits in `recvPack`. -/
  receiving : Bool := false
  /-- The states that the calls of `sendPack` found. -/
  found : List NngStatus := []
  /-- The last step was the callback of a reply. -/
  completed : Bool := false
  /-- An assertion failed. -/
  aborted : Bool := false
  /-- Members of the channel were used as messages. -/
  undefined : Bool := false
deriving DecidableEq

namespace RepContext

inductive Event where
  /-- `createRep` calls `rep_callback`. -/
  | started
  /-- A request arrives on the context. -/
  | arrives (msg : Bytes)
  /-- The callback of a receive, which has the first request that arrived, or a result not zero. -/
  | received (result : Int32)
  /-- The callback of a reply. -/
  | replied (result : Int32)
  /-- The coroutine of a request puts it into `_msgs`. -/
  | hand
  /-- The receive loop calls `recvPack`. -/
  | recvPack
  | delivered
  | sendPack (outcome : RepSendOutcome)

/-- `rep_callback` with the result and the message of the aio. -/
def repCallback (context : RepContext) (result : Int32) (msg : Bytes) : RepContext :=
  match context.status with
  | .init => { context with status := .recv, receives := context.receives + 1 }
  | .recv =>
      if result ≠ 0 then { context with status := .aioError }
      else { context with status := .wait, handing := context.handing ++ [msg] }
  | .wait | .send | .aioError => context

/-- `rep_callback` as `createRep` calls it, with the layout of a machine of 64 bits. In `INIT` and
`RECV` the pointers which it uses are other members of the channel. -/
def channelCallback (cmode : ChannelMode) (context : RepContext) : RepContext :=
  match NngStatus.ofValue cmode.firstReqNo with
  | some .init | some .recv => { context with started := true, undefined := true }
  | some .wait | some .send | some .aioError | none => { context with started := true }

/-- `sendPack`: with the message built and the aio begun, the reply is under way. -/
def reply (assertions : Bool) (context : RepContext) (outcome : RepSendOutcome) : RepContext :=
  match AsynRepImpl.sendPack assertions context.status outcome with
  | none => { context with aborted := true }
  | some (begun, status) => { context with
      status
      found := context.found ++ [context.status]
      replies := if begun then context.replies + 1 else context.replies }

def step (cmode : ChannelMode) (assertions : Bool) (context : RepContext) (event : Event) :
    Option RepContext :=
  let before := { context with completed := false }
  if context.aborted || context.undefined then none
  else match event with
  | .started => if context.started then none else some (before.channelCallback cmode)
  | .arrives msg =>
      some { before with
        arrived := context.arrived ++ [msg]
        waiting := context.waiting ++ [msg] }
  | .received result =>
      if context.receives = 0 then none
      else if result ≠ 0 then
        some ({ before with receives := context.receives - 1 }.repCallback result [])
      else match context.waiting with
      | [] => none
      | msg :: waiting =>
          some ({ before with receives := context.receives - 1, waiting }.repCallback result msg)
  | .replied result =>
      if context.replies = 0 then none
      else some { { before with replies := context.replies - 1 }.repCallback result [] with
        completed := true }
  | .hand =>
      match context.handing with
      | [] => none
      | msg :: handing =>
          if context.msgs.length < 5 then
            some { before with handing, msgs := context.msgs ++ [msg] }
          else none
  | .recvPack =>
      if context.receiving then none
      else match AsynRepImpl.recvPack assertions context.status none with
      | .aborted => some { before with aborted := true }
      | .returned _ _ => some { before with receiving := true }
  | .delivered =>
      match context.receiving, context.msgs with
      | true, msg :: msgs => some { before with
          receiving := false
          msgs
          delivered := context.delivered ++ [msg] }
      | _, _ => none
  | .sendPack outcome =>
      if context.found.length < context.delivered.length then
        some (before.reply assertions outcome)
      else none

variable {cmode : ChannelMode} {assertions : Bool} {context next : RepContext} {event : Event}

/-- After a completed reply the next receive is outstanding. Every request that arrived is on its
way to `recvPack`: one which is still with nng has an outstanding receive, or waits for the reply to
the one before it. The replies find the state `WAIT`. -/
structure Serving (context : RepContext) : Prop where
  running : context.aborted = false
  defined : context.undefined = false
  rearmed : context.completed = true → context.status = .recv ∧ context.receives = 1
  handed : context.arrived =
    context.delivered ++ context.msgs ++ context.handing ++ context.waiting
  served : context.started = true → context.waiting ≠ [] →
    context.receives = 1 ∨ context.status = .wait
  waited : ∀ status ∈ context.found, status = .wait

/-- `createRep` calls `rep_callback` for a passive channel, and no request arrives. -/
def Admitted (cmode : ChannelMode) (context : RepContext) : Event → Prop
  | .started => cmode = .passive ∧ context.waiting = []
  | .arrives _ => context.started = false
  | _ => True

/-- No receive was started, and what arrived is still with nng. -/
structure Idle (context : RepContext) : Prop where
  status : context.status = .init
  receives : context.receives = 0
  replies : context.replies = 0
  handing : context.handing = []
  msgs : context.msgs = []
  delivered : context.delivered = []
  found : context.found = []
  arrived : context.arrived = context.waiting
  completed : context.completed = false
  running : context.aborted = false

/-- On a passive channel the callback does nothing. -/
theorem channelCallback_passive :
    context.channelCallback .passive = { context with started := true } := rfl

/-- On an initiative channel the callback uses other members of the channel. -/
theorem channelCallback_initiative :
    context.channelCallback .initiative = { context with started := true, undefined := true } :=
  rfl

/-- The callback does nothing to the `AsynRepImpl`. -/
theorem Idle.channelCallback (idle : context.Idle) : (context.channelCallback cmode).Idle := by
  cases cmode <;> exact { idle with }

/-- An idle context serves unless a request waits. -/
theorem Idle.serving_iff (idle : context.Idle) :
    context.Serving ↔
      context.undefined = false ∧ (context.started = true → context.waiting = []) := by
  constructor
  · intro serving
    refine ⟨serving.defined, fun started => Decidable.byContradiction fun waits => ?_⟩
    rcases serving.served started waits with outstanding | answering
    · exact absurd (idle.receives.symm.trans outstanding) (by decide)
    · exact nomatch idle.status.symm.trans answering
  · rintro ⟨defined, empty⟩
    refine ⟨idle.running, defined, ?_, ?_, fun started waits => absurd (empty started) waits, ?_⟩
    · intro completed
      exact nomatch idle.completed.symm.trans completed
    · simp [idle.delivered, idle.msgs, idle.handing, idle.arrived]
    · simp [idle.found]

/-- In an idle context the channel is started, a request arrives or the receive loop calls
`recvPack`. -/
theorem Idle.step_cases (idle : context.Idle)
    (stepped : context.step cmode assertions event = some next) :
    context.undefined = false ∧
      ((event = .started ∧ context.started = false ∧ next = context.channelCallback cmode) ∨
        (∃ msg, event = .arrives msg ∧
          next = { context with
            arrived := context.arrived ++ [msg]
            waiting := context.waiting ++ [msg] }) ∨
        (event = .recvPack ∧ next = { context with receiving := true })) := by
  have same : { context with completed := false } = context := by rw [← idle.completed]
  simp only [step, same] at stepped
  obtain ⟨going, stepped⟩ := Option.ite_none_left_eq_some.mp stepped
  refine ⟨by simpa [idle.running] using going, ?_⟩
  cases event with
  | started =>
      obtain ⟨first, stepped⟩ := Option.ite_none_left_eq_some.mp stepped
      exact .inl ⟨rfl, Bool.not_eq_true _ ▸ first, (Option.some.inj stepped).symm⟩
  | arrives msg =>
      cases stepped
      exact .inr (.inl ⟨msg, rfl, by rw [idle.completed]⟩)
  | received result => simp [idle.receives] at stepped
  | replied result => simp [idle.replies] at stepped
  | hand => simp [idle.handing] at stepped
  | recvPack =>
      obtain ⟨_, stepped⟩ := Option.ite_none_left_eq_some.mp stepped
      have returned : AsynRepImpl.recvPack assertions context.status none = .returned 0 none := by
        simp [AsynRepImpl.recvPack, idle.status]
      rw [returned] at stepped
      cases stepped
      exact .inr (.inr ⟨rfl, by rw [idle.completed]⟩)
  | delivered => simp [idle.msgs] at stepped
  | sendPack outcome => simp [idle.delivered] at stepped

/-- Every step leaves the context idle. -/
theorem Idle.step (idle : context.Idle)
    (stepped : context.step cmode assertions event = some next) : next.Idle := by
  obtain ⟨-, ⟨-, -, rfl⟩ | ⟨msg, -, rfl⟩ | ⟨-, rfl⟩⟩ := idle.step_cases stepped
  · exact idle.channelCallback
  · exact { idle with arrived := congrArg (· ++ [msg]) idle.arrived }
  · exact { idle with }

/-- A step from a context which serves keeps it serving if and only if it is admitted. -/
theorem Idle.serving_step_iff (idle : context.Idle) (serving : context.Serving)
    (stepped : context.step cmode assertions event = some next) :
    next.Serving ↔ Admitted cmode context event := by
  obtain ⟨defined, empty⟩ := idle.serving_iff.mp serving
  rw [(idle.step stepped).serving_iff]
  obtain ⟨-, ⟨rfl, -, rfl⟩ | ⟨msg, rfl, rfl⟩ | ⟨rfl, rfl⟩⟩ := idle.step_cases stepped
  · cases cmode with
    | passive => simp [channelCallback_passive, defined, Admitted]
    | initiative => simp [channelCallback_initiative, Admitted]
  · simp [defined, Admitted]
  · exact iff_of_true ⟨defined, empty⟩ trivial

/-- The context starts idle. -/
theorem idle_start : Idle {} := ⟨rfl, rfl, rfl, rfl, rfl, rfl, rfl, rfl, rfl, rfl⟩

/-- In no run a request is received. -/
theorem idle_of_run {events : List Event} (idle : context.Idle)
    (ran : Machine.run (step cmode assertions) context events = some next) : next.Idle :=
  Machine.run_invariant Idle (fun _ => True) (fun idle _ stepped => idle.step stepped) idle ran
    fun _ _ => trivial

/-- A context serves its requests in a run if and only if none arrives in it, and its channel is
passive. -/
theorem rearmed_throughout_iff (cmode : ChannelMode) (assertions : Bool) (events : List Event)
    (final : RepContext) (ran : Machine.run (step cmode assertions) {} events = some final) :
    Machine.Throughout (step cmode assertions) Serving {} events ↔
      Machine.Every (step cmode assertions) (Admitted cmode) {} events := by
  refine Machine.throughout_iff_every Idle Serving (Admitted cmode)
    (fun idle _ stepped => idle.step stepped)
    (fun idle serving stepped => idle.serving_step_iff serving stepped) idle_start ?_ ran
  exact idle_start.serving_iff.mpr ⟨rfl, fun _ => rfl⟩

/-- A channel serves until the first of two requests arrives. -/
theorem rearmed_throughout_iff_two :
    Machine.Throughout (step .passive true) Serving {} [.recvPack, .started] ∧
      ¬ Machine.Throughout (step .passive true) Serving {}
        [.recvPack, .started, .arrives [65], .arrives [66]] := by
  constructor
  · refine (rearmed_throughout_iff .passive true _ _ rfl).mpr ⟨trivial, ?_⟩
    rintro _ ⟨⟩
    exact ⟨⟨rfl, rfl⟩, fun _ _ => trivial⟩
  · intro throughout
    have every := (rearmed_throughout_iff .passive true _ _ rfl).mp throughout
    exact Bool.noConfusion ((every.2 _ rfl).2 _ rfl).1

/-- A request which arrives when the channel is created stays with nng, whatever happens then; for
an initiative channel the call of `rep_callback` is undefined. -/
theorem rearmed_fails :
    (∃ final, Machine.run (step .passive false) {} [.started, .recvPack, .arrives [65]] = some final ∧
      ¬ final.Serving ∧ ∀ events later,
        Machine.run (step .passive false) final events = some later → later.delivered = []) ∧
    ∃ final, Machine.run (step .initiative false) {} [.started] = some final ∧
      final.undefined = true := by
  refine ⟨⟨_, rfl, ?_, ?_⟩, _, rfl, rfl⟩
  · intro serving
    rcases serving.served rfl (by simp) with outstanding | answering
    · cases outstanding
    · cases answering
  · intro events later ran
    have idle : Idle { ({} : RepContext) with
        started := true, receiving := true, arrived := [[65]], waiting := [[65]] } :=
      ⟨rfl, rfl, rfl, rfl, rfl, rfl, rfl, rfl, rfl, rfl⟩
    exact (idle_of_run idle ran).delivered

end RepContext

end SM.Network
