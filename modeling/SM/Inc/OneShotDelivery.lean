import Mathlib.Tactic.SplitIfs
import SM.Inc.OneShotSteps
import SM.Lib.Holders

/-!
# Delivery

The runs of a pair: each is a run of a channel (`refines_channel`), and no wait is lost
(`waits_end`).
-/

namespace SM.Inc.OneShot

open Lib.Machine

variable {T : Type} {channel after : Channel T} {pair : Pair T}

/-! ## Codes -/

/-- A new channel is sound. -/
theorem Channel.Sound.new : (Channel.new : Channel T).Sound :=
  ⟨by simp [Channel.new], by simp [Channel.new], by simp [Channel.new]⟩

/-- An outcome keeps the channel sound. -/
theorem Channel.Sound.decided (sound : channel.Sound) (undecided : channel.outcome = .undecided)
    (outcome : Outcome T) : (channel.decided outcome).Sound := by
  refine ⟨fun op code found => ?_, fun op armed => ?_, fun v told => ?_⟩
  · cases armed : channel.armed with
    | none =>
        have old : channel.waits[op]? = some code := by simpa [Channel.decided, armed] using found
        rcases sound.codes op code old with refused | cancelled | ⟨here, -⟩
        · exact .inl refused
        · exact .inr (.inl cancelled)
        · rw [armed] at here
          cases here
    | some late =>
        have set : (channel.waits.set late outcome.verdict)[op]? = some code := by
          simpa [Channel.decided, armed] using found
        by_cases same : late = op
        · subst same
          rw [List.getElem?_set_self (lt_of_getElem? (sound.armed late armed))] at set
          exact .inr (.inr ⟨armed, (Option.some.inj set).symm⟩)
        · rw [List.getElem?_set_ne same] at set
          rcases sound.codes op code set with refused | cancelled | ⟨here, -⟩
          · exact .inl refused
          · exact .inr (.inl cancelled)
          · rw [armed] at here
            exact absurd (Option.some.inj here) same
  · have here : channel.armed = some op := armed
    have room := lt_of_getElem? (sound.armed op here)
    simp [Channel.decided, here, List.getElem?_set_self room]
  · have none := sound.told v told
    rw [undecided] at none
    cases none

@[simp] theorem wait_gets : channel.wait.gets = channel.gets := by
  cases armed : channel.armed <;> simp [Channel.wait, armed]

/-- A wait keeps the channel sound. -/
theorem Channel.Sound.wait (sound : channel.Sound) : channel.wait.Sound := by
  have told : ∀ v, some v ∈ channel.wait.gets → channel.wait.outcome = .value v := by
    simpa using sound.told
  cases armed : channel.armed with
  | none =>
      refine ⟨fun op code found => ?_, fun op here => ?_, told⟩
      · have waits : (channel.waits ++ [channel.outcome.verdict])[op]? = some code := by
          simpa [Channel.wait, armed] using found
        rcases Lib.getElem?_added waits with old | ⟨rfl, rfl⟩
        · rcases sound.codes op code old with refused | cancelled | ⟨here, -⟩
          · exact .inl refused
          · exact .inr (.inl cancelled)
          · rw [armed] at here
            cases here
        · exact .inr (.inr ⟨by simp [Channel.wait, armed], by rw [wait_outcome]⟩)
      · obtain rfl : channel.waits.length = op := by simpa [Channel.wait, armed] using here
        simp [Channel.wait, armed]
  | some late =>
      refine ⟨fun op code found => ?_, fun op here => ?_, told⟩
      · have waits : (channel.waits ++ [some (some .duplicateWaitOnReceiver)])[op]? = some code := by
          simpa [Channel.wait, armed] using found
        rcases Lib.getElem?_added waits with old | ⟨-, rfl⟩
        · rw [wait_outcome, wait_armed armed, ← armed]
          exact sound.codes op code old
        · exact .inl rfl
      · rw [wait_armed armed, ← armed] at here
        rw [wait_outcome]
        exact wait_waits (sound.armed op here)

/-- A cancelled wait keeps the channel sound. -/
theorem Channel.Sound.cancel (sound : channel.Sound) (op : Nat) : (channel.cancel op).Sound := by
  by_cases unended : channel.waits[op]? = some none
  · have armed := (sound.unended unended).1
    rw [Channel.cancel, if_pos unended]
    refine ⟨fun other code found => ?_, by simp, sound.told⟩
    by_cases same : op = other
    · subst same
      rw [List.getElem?_set_self (lt_of_getElem? unended)] at found
      exact .inr (.inl (Option.some.inj found).symm)
    · rw [List.getElem?_set_ne same] at found
      rcases sound.codes other code found with refused | cancelled | ⟨here, -⟩
      · exact .inl refused
      · exact .inr (.inl cancelled)
      · rw [armed] at here
        exact absurd (Option.some.inj here) same
  · rw [Channel.cancel, if_neg unended]
    exact sound

/-- What a call does. -/
theorem Channel.call_cases {call : Call T} (called : channel.call call = some after) :
    (∃ outcome, outcome ≠ .undecided ∧ channel.outcome = .undecided ∧
      after = channel.decided outcome ∧ ∀ value, outcome = .value value → call = .send value) ∨
      after = channel.wait ∨ (∃ op, after = channel.cancel op) ∨
      after = { channel with gets := channel.gets ++ [channel.outcome.object] } ∨
      after = { channel with closed := true } := by
  cases call with
  | send value =>
      rw [Channel.call] at called
      split at called
      · refine .inl ⟨.value value, by simp, ‹_›, (Option.some.inj called).symm, ?_⟩
        rintro other ⟨⟩
        rfl
      · cases called
  | breakOff =>
      rw [Channel.call] at called
      split at called
      · exact .inl ⟨.broken, by simp, ‹_›, (Option.some.inj called).symm, by simp⟩
      · cases called
  | wait =>
      rw [Channel.call] at called
      split at called
      · cases called
      · exact .inr (.inl (Option.some.inj called).symm)
  | cancel op =>
      rw [Channel.call] at called
      split at called
      · cases called
      · exact .inr (.inr (.inl ⟨op, (Option.some.inj called).symm⟩))
  | get =>
      rw [Channel.call] at called
      split at called
      · cases called
      · exact .inr (.inr (.inr (.inl (Option.some.inj called).symm)))
  | close =>
      rw [Channel.call] at called
      split at called
      · cases called
      · exact .inr (.inr (.inr (.inr (Option.some.inj called).symm)))

/-- Every call keeps the channel sound. -/
theorem Channel.Sound.call {call : Call T} (sound : channel.Sound)
    (called : channel.call call = some after) : after.Sound := by
  rcases Channel.call_cases called with ⟨outcome, -, undecided, rfl, -⟩ | rfl | ⟨op, rfl⟩ | rfl | rfl
  · exact sound.decided undecided outcome
  · exact sound.wait
  · exact sound.cancel op
  · refine ⟨sound.codes, sound.armed, fun v told => ?_⟩
    rcases List.mem_append.mp told with before | here
    · exact sound.told v before
    · have object := List.mem_singleton.mp here
      cases came : channel.outcome <;> simp_all [Outcome.object]
  · exact ⟨sound.codes, sound.armed, sound.told⟩

/-! ## Runs -/

/-- A new pair follows a new channel. -/
theorem follows_create : Follows (Channel.new : Channel T) create :=
  .undecided rfl .holding (.idle rfl rfl)

/-- The calls which take effect in a run, in order. -/
def calls (labels : List (Label T)) : List (Call T) :=
  trace step (fun pair label => (linearized pair label).toList) create labels

/-- Every run in which no wait is cut off follows a run of the channel. -/
theorem exists_channel {labels : List (Label T)} (ran : run step create labels = some pair)
    (patient : Every step Patient create labels) :
    ∃ channel, run Channel.call Channel.new (calls labels) = some channel ∧
      Follows channel pair ∧ channel.Sound := by
  refine exists_run_trace (fun pair channel => Follows channel pair ∧ channel.Sound) Patient
    (fun pair label => (linearized pair label).toList) ?_ ⟨follows_create, .new⟩ ran patient
  rintro pair label next channel ⟨follows, sound⟩ patient stepped
  have matched := follows.step sound patient stepped
  generalize linearized pair label = call at matched ⊢
  cases matched with
  | still follows => exact ⟨channel, rfl, follows, sound⟩
  | @called call after called follows =>
      refine ⟨after, ?_, follows, sound.call called⟩
      simp [run, called]

/-- A receiver which stays cuts off no wait. -/
theorem patient_of_stays {labels : List (Label T)}
    (stays : ∀ label ∈ labels, label ≠ .receiverDetached) : Every step Patient pair labels := by
  induction labels generalizing pair with
  | nil => trivial
  | cons label labels inductionHypothesis =>
      refine ⟨?_, fun next _ => inductionHypothesis fun other member =>
        stays other (List.mem_cons_of_mem _ member)⟩
      have here := stays label List.mem_cons_self
      cases label <;> trivial

/-! ## At rest -/

/-- Neither end is halfway. -/
def Pair.AtRest (pair : Pair T) : Prop :=
  (pair.sender = .holding ∨ pair.sender = .gone) ∧
    (pair.receiver = .idle ∨ pair.receiver = .gone)

/-- A pair which follows the channel has no fault and the same results. -/
theorem Follows.fault (follows : Follows channel pair) :
    pair.fault = false ∧ pair.gets = channel.gets := by
  cases follows with
  | undecided outcome preparing stage => cases stage <;> exact ⟨rfl, rfl⟩
  | met outcome stage =>
      cases stage
      exact ⟨rfl, rfl⟩
  | settled outcome done stage => cases stage <;> exact ⟨rfl, rfl⟩
  | left outcome armed closed place stage => cases stage <;> exact ⟨rfl, rfl⟩

/-- A wait which was completed ended so. -/
theorem Follows.completed (follows : Follows channel pair) {op : Nat} {code : ErrorCode}
    (found : pair.ops[op]? = some (some code)) : channel.waits[op]? = some (some code) := by
  have all : pair.ops = channel.waits ∨ ∃ late, pair.ops = channel.waits.set late none := by
    cases follows with
    | undecided outcome preparing stage =>
        cases stage <;> first | exact .inl rfl | exact .inr ⟨_, rfl⟩
    | met outcome stage =>
        cases stage
        exact .inr ⟨_, rfl⟩
    | settled outcome done stage =>
        cases stage <;> first | exact .inl rfl | exact .inr ⟨_, rfl⟩
    | left outcome armed closed place stage => cases stage <;> exact .inl rfl
  rcases all with same | ⟨late, same⟩
  · rwa [same] at found
  · rw [same] at found
    by_cases here : late = op
    · subst here
      rw [List.getElem?_set] at found
      simp at found
    · rwa [List.getElem?_set_ne here] at found

/-- At rest no wait is left to complete. -/
theorem Follows.ops_eq (follows : Follows channel pair) (rest : pair.AtRest) :
    pair.ops = channel.waits := by
  obtain ⟨sender, receiver⟩ := rest
  cases follows with
  | undecided outcome preparing stage =>
      cases stage with
      | suspended op armed opened unended place => exact set_of_getElem? unended ▸ by simp [shape]
      | idle => rfl
      | stored => rcases receiver with idle | gone <;> contradiction
      | cancelling => rcases receiver with idle | gone <;> contradiction
      | cancelled => rfl
      | leaving => rfl
      | gone => rfl
  | met outcome stage =>
      obtain ⟨op⟩ := stage
      cases came : channel.outcome <;> simp [shape, came, Outcome.place] at sender
  | settled outcome done stage =>
      cases stage with
      | idle => rfl
      | stored => rcases receiver with idle | gone <;> contradiction
      | exchanged => rcases receiver with idle | gone <;> contradiction
      | restored => rcases receiver with idle | gone <;> contradiction
      | awaited => rfl
      | cancelling => rcases receiver with idle | gone <;> contradiction
      | restoring => rfl
      | cancelled => rfl
      | leaving => rfl
      | destroyed => rfl
      | gone => rfl
  | left outcome armed closed place stage => cases stage <;> rfl

/-- Where the sender is gone the outcome is decided. -/
theorem Follows.came_of_gone (follows : Follows channel pair) (gone : pair.sender = .gone) :
    channel.outcome ≠ .undecided := by
  cases follows with
  | undecided outcome preparing stage =>
      rw [stage.same.1] at gone
      cases preparing <;> cases gone
  | met outcome stage => exact outcome.came
  | settled outcome done stage => exact outcome.came
  | left outcome => exact outcome

/-- Behind both ends nothing is left. -/
theorem Follows.deleted (follows : Follows channel pair) (sender : pair.sender = .gone)
    (receiver : pair.receiver = .gone) : pair.deleted = true ∧ pair.storage = none := by
  have came := follows.came_of_gone sender
  cases follows with
  | undecided outcome => exact absurd outcome came
  | met outcome stage =>
      obtain ⟨op⟩ := stage
      cases value : channel.outcome <;> simp [shape, value, Outcome.place] at sender
  | settled outcome done stage =>
      cases stage with
      | gone => exact ⟨rfl, rfl⟩
      | idle => cases receiver
      | stored => cases receiver
      | exchanged => cases receiver
      | restored => cases receiver
      | awaited => cases receiver
      | cancelling => cases receiver
      | restoring => cases receiver
      | cancelled => cases receiver
      | leaving => cases receiver
      | destroyed => cases receiver
  | left outcome armed closed place stage =>
      cases stage with
      | met => cases value : channel.outcome <;> simp [shape, value, Outcome.place] at sender
      | destroyed => cases sender
      | gone => exact ⟨rfl, rfl⟩

/-- Linearizability: each run of the two ends, with their operations halfway, is a run of a channel
whose calls happen at once. `get` comes to the same, a wait ends in the same way, and there is no
access behind the deletion, no second deletion and no second completion; behind both ends the object
and the shared state are gone. -/
theorem refines_channel {labels : List (Label T)} (ran : run step create labels = some pair)
    (patient : Every step Patient create labels) :
    ∃ channel, run Channel.call Channel.new (calls labels) = some channel ∧
      pair.fault = false ∧ pair.gets = channel.gets ∧
      (∀ (op : Nat) (code : ErrorCode),
        pair.ops[op]? = some (some code) → channel.waits[op]? = some (some code)) ∧
      (pair.AtRest → pair.ops = channel.waits) ∧
      (pair.sender = .gone → pair.receiver = .gone →
        pair.deleted = true ∧ pair.storage = none) := by
  obtain ⟨channel, called, follows, -⟩ := exists_channel ran patient
  obtain ⟨fault, gets⟩ := follows.fault
  exact ⟨channel, called, fault, gets, fun op code found => follows.completed found, follows.ops_eq,
    follows.deleted⟩

/-- A run in which the object comes while the receiver waits. -/
def delivery : List (Label Nat) :=
  [.asyncWait, .send 7, .receiver, .sender, .receiver, .sender, .get]

/-- The pair behind it. -/
def delivered : Pair Nat where
  state := sent
  storage := some 7
  waitOp := some 0
  deleted := false
  ops := [some none]
  sender := .gone
  receiver := .idle
  gets := [some 7]
  fault := false

/-- A value which is sent while the receiver waits. -/
theorem refines_channel_delivered :
    ∃ channel, run Channel.call Channel.new (calls delivery) = some channel ∧
      delivered.fault = false ∧ delivered.gets = channel.gets ∧
      (∀ (op : Nat) (code : ErrorCode),
        delivered.ops[op]? = some (some code) → channel.waits[op]? = some (some code)) ∧
      (delivered.AtRest → delivered.ops = channel.waits) ∧
      (delivered.sender = .gone → delivered.receiver = .gone →
        delivered.deleted = true ∧ delivered.storage = none) :=
  refines_channel rfl (patient_of_stays (by simp [delivery]))

/-! ## The object -/

/-- Completing a wait leaves both ends and the value. -/
@[simp] theorem Pair.complete_same (pair : Pair T) (op : Option Nat) (ec : ErrorCode) :
    (pair.complete op ec).storage = pair.storage ∧ (pair.complete op ec).sender = pair.sender ∧
      (pair.complete op ec).receiver = pair.receiver := by
  unfold Pair.complete
  split
  · exact ⟨rfl, rfl, rfl⟩
  · split <;> exact ⟨rfl, rfl, rfl⟩

/-- How many steps the sender has to go, at most. -/
def Sender.rank : Sender → Nat
  | .holding | .gone => 0
  | .constructed => 3
  | .fetched _ => 2
  | .destroyed | .exchanged _ => 1

def Receiver.rank : Receiver → Nat
  | .idle | .gone => 0
  | .stored _ => 3
  | .exchanged _ _ | .cancelling _ | .leaving _ => 2
  | .restored _ _ | .cancelled | .destroyed => 1

/-- A step with which an end only goes on. -/
structure GoesOn (pair next : Pair T) : Prop where
  storage : next.storage = pair.storage ∨ next.storage = none
  rank : next.sender.rank + next.receiver.rank < pair.sender.rank + pair.receiver.rank

/-- Every access of the sender goes on. -/
theorem senderStep_goesOn {next : Pair T} (stepped : pair.senderStep = some next) :
    GoesOn pair next := by
  cases place : pair.sender <;> simp only [Pair.senderStep, place] at stepped
  case holding => cases stepped
  case gone => cases stepped
  case constructed =>
    cases stepped
    exact ⟨.inl rfl, by simp [Sender.rank, place, Pair.touch]⟩
  case fetched prev =>
    split_ifs at stepped
    · cases stepped
      exact ⟨.inr rfl, by simp [Sender.rank, place, Pair.touch, Pair.destroy]⟩
    · cases stepped
      exact ⟨.inl (by simp [Pair.touch]), by simp [Sender.rank, place, Pair.touch]⟩
    · cases stepped
      exact ⟨.inl rfl, by simp [Sender.rank, place]⟩
  case destroyed =>
    cases stepped
    exact ⟨.inl rfl, by simp [Sender.rank, place, Pair.delete]⟩
  case exchanged prev =>
    split_ifs at stepped
    · cases stepped
      exact ⟨.inl rfl, by simp [Sender.rank, place, Pair.delete]⟩
    · cases stepped
      exact ⟨.inl (by simp [Pair.touch]), by simp [Sender.rank, place, Pair.touch]⟩
    · cases stepped
      exact ⟨.inl rfl, by simp [Sender.rank, place]⟩

/-- Every access of the receiver goes on. -/
theorem receiverStep_goesOn {next : Pair T} (stepped : pair.receiverStep = some next) :
    GoesOn pair next := by
  cases place : pair.receiver <;> simp only [Pair.receiverStep, place] at stepped
  case idle => cases stepped
  case gone => cases stepped
  case stored op =>
    cases stepped
    exact ⟨.inl rfl, by simp [Receiver.rank, place, Pair.touch]⟩
  case exchanged op prev =>
    split_ifs at stepped
    · cases stepped
      exact ⟨.inl rfl, by simp [Receiver.rank, place, Pair.touch]⟩
    · cases stepped
      exact ⟨.inl rfl, by simp [Receiver.rank, place]⟩
  case restored op prev =>
    cases stepped
    exact ⟨.inl (by simp), by simp [Receiver.rank, place]⟩
  case cancelling prev =>
    split_ifs at stepped
    · cases stepped
      exact ⟨.inl (by simp [Pair.touch]), by simp [Receiver.rank, place, Pair.touch]⟩
    · cases stepped
      exact ⟨.inl rfl, by simp [Receiver.rank, place, Pair.touch]⟩
  case cancelled =>
    cases stepped
    exact ⟨.inl rfl, by simp [Receiver.rank, place, Pair.touch]⟩
  case leaving prev =>
    split_ifs at stepped
    · cases stepped
      exact ⟨.inl rfl, by simp [Receiver.rank, place, Pair.delete]⟩
    · cases stepped
      exact ⟨.inr rfl, by simp [Receiver.rank, place, Pair.touch, Pair.destroy]⟩
    · cases stepped
      exact ⟨.inl rfl, by simp [Receiver.rank, place]⟩
  case destroyed =>
    cases stepped
    exact ⟨.inl rfl, by simp [Receiver.rank, place, Pair.delete]⟩

/-- A wait leaves the value. -/
theorem asyncWait_storage {next : Pair T} (stepped : pair.asyncWait = some next) :
    next.storage = pair.storage := by
  unfold Pair.asyncWait at stepped
  split at stepped
  · cases stepped
    simp [Pair.touch]
  · cases stepped
    rfl
  · cases stepped

/-- The object is the one which was sent. -/
theorem step_storage {label : Label T} {next : Pair T} {v : T} (stepped : step pair label = some next)
    (stored : next.storage = some v) : pair.storage = some v ∨ label = .send v := by
  cases label with
  | send value =>
      obtain ⟨-, rfl⟩ := Pair.send_eq stepped
      cases stored
      exact .inr rfl
  | senderDetached =>
      obtain ⟨-, rfl⟩ := Pair.senderDetached_eq stepped
      exact .inl stored
  | sender =>
      rcases (senderStep_goesOn stepped).storage with same | none
      · exact .inl (same ▸ stored)
      · rw [none] at stored
        cases stored
  | asyncWait => exact .inl (asyncWait_storage stepped ▸ stored)
  | cancel op =>
      rw [step, Pair.cancel] at stepped
      split at stepped <;> cases stepped
      exact .inl stored
  | get =>
      rw [step, Pair.get] at stepped
      split at stepped <;> cases stepped
      exact .inl stored
  | receiverDetached =>
      rw [step, Pair.receiverDetached] at stepped
      split at stepped <;> cases stepped
      exact .inl stored
  | receiver =>
      rcases (receiverStep_goesOn stepped).storage with same | none
      · exact .inl (same ▸ stored)
      · rw [none] at stored
        cases stored

/-- A value which was sent in a run was given to `send` in it. -/
theorem send_of_trace {labels : List (Label T)} {v : T}
    (sent : Call.send v ∈ trace step (fun pair label => (linearized pair label).toList) pair labels) :
    pair.storage = some v ∨ Label.send v ∈ labels := by
  induction labels generalizing pair with
  | nil => cases sent
  | cons label labels inductionHypothesis =>
      rw [trace] at sent
      split at sent
      · cases sent
      · rename_i next stepped
        rcases List.mem_append.mp sent with here | later
        · left
          cases label <;> simp [linearized] at here
          exact here.2
        · rcases inductionHypothesis later with stored | member
          · rcases step_storage stepped stored with before | rfl
            · exact .inl before
            · exact .inr List.mem_cons_self
          · exact .inr (List.mem_cons_of_mem _ member)

/-- A value in the channel was there before or was sent. -/
theorem value_of_run {calls : List (Call T)} {v : T}
    (called : run Channel.call channel calls = some after) (value : after.outcome = .value v) :
    channel.outcome = .value v ∨ Call.send v ∈ calls := by
  induction calls generalizing channel with
  | nil =>
      cases called
      exact .inl value
  | cons call calls inductionHypothesis =>
      obtain ⟨middle, first, rest⟩ := run_cons.mp called
      rcases inductionHypothesis rest with came | member
      · rcases Channel.call_cases first with ⟨outcome, -, -, rfl, same⟩ | rfl | ⟨op, rfl⟩ | rfl | rfl
        · exact .inr (same v came ▸ List.mem_cons_self)
        · exact .inl (wait_outcome ▸ came)
        · rw [Channel.cancel] at came
          split at came <;> exact .inl came
        · exact .inl came
        · exact .inl came
      · exact .inr (List.mem_cons_of_mem _ member)

/-- A value in the channel was sent. -/
theorem sent_of_value {labels : List (Label T)} {v : T}
    (called : run Channel.call Channel.new (calls labels) = some channel)
    (value : channel.outcome = .value v) : Label.send v ∈ labels := by
  rcases value_of_run called value with new | sent
  · cases new
  · rcases send_of_trace sent with stored | member
    · cases stored
    · exact member

/-! ## The waits -/

/-- A wait which ended as the sender did. -/
def Served (code : ErrorCode) : Prop :=
  code ≠ some .duplicateWaitOnReceiver ∧ code ≠ some .cancelled

/-- A wait which is served has the code of the outcome. -/
theorem Channel.Sound.served (sound : channel.Sound) {op : Nat} {code : ErrorCode}
    (found : channel.waits[op]? = some (some code)) (served : Served code) :
    channel.armed = some op ∧ channel.outcome.verdict = some code := by
  rcases sound.codes op _ found with refused | cancelled | ⟨armed, verdict⟩
  · exact absurd (Option.some.inj refused) served.1
  · exact absurd (Option.some.inj cancelled) served.2
  · exact ⟨armed, verdict.symm⟩

/-- An end goes on with what it began. -/
def Onward (label : Label T) : Prop := label = .sender ∨ label = .receiver

/-- Where no end can go on both are at rest. -/
theorem atRest_of_stuck (stuck : Stuck step Onward pair) : pair.AtRest := by
  constructor
  · have none : ∀ next, pair.senderStep ≠ some next := fun next => stuck .sender next (.inl rfl)
    cases place : pair.sender <;> simp [Pair.senderStep, place] at none ⊢
    all_goals split_ifs at none <;> simp at none
  · have none : ∀ next, pair.receiverStep ≠ some next := fun next => stuck .receiver next (.inr rfl)
    cases place : pair.receiver <;> simp [Pair.receiverStep, place] at none ⊢
    all_goals split_ifs at none <;> simp at none

/-- The sender has at most three accesses to go. -/
theorem Sender.rank_le (sender : Sender) : sender.rank ≤ 3 := by
  cases sender <;> simp [Sender.rank]

/-- The receiver has at most three accesses to go. -/
theorem Receiver.rank_le (receiver : Receiver) : receiver.rank ≤ 3 := by
  cases receiver <;> simp [Receiver.rank]

/-- Every access leaves fewer to go. -/
theorem onward_decreases {label : Label T} {next : Pair T} (onward : Onward label)
    (stepped : step pair label = some next) :
    next.sender.rank + next.receiver.rank < pair.sender.rank + pair.receiver.rank := by
  rcases onward with rfl | rfl
  · exact (senderStep_goesOn stepped).rank
  · exact (receiverStep_goesOn stepped).rank

/-- Once the sender is gone every wait has ended. -/
theorem Follows.ended (follows : Follows channel pair) (sound : channel.Sound) (rest : pair.AtRest)
    (gone : pair.sender = .gone) : none ∉ pair.ops := by
  rw [follows.ops_eq rest]
  intro inside
  obtain ⟨op, found⟩ := List.mem_iff_getElem?.mp inside
  exact follows.came_of_gone gone (sound.unended found).2

/-- Where there is an object the receiver is ready. -/
theorem isReady_of_object {v : T} (found : pair.getStoredObject = some v) : pair.isReady = true := by
  rw [Pair.getStoredObject] at found
  split at found
  · rename_i ready
    simpa [Pair.isReady] using ready
  · cases found

/-- No wait is lost, and no object: in every run of the two ends `get` comes to nothing but what
was sent; behind a wait which ended without an error it comes to this; at most one wait ends as
the sender does, the others are refused or cancelled. Wherever the run is, at most six steps
take both ends out of their operations, in any order, and if the sender is gone by then, each
wait has ended. -/
theorem waits_end {labels : List (Label T)} (ran : run step create labels = some pair)
    (patient : Every step Patient create labels) :
    (∀ v, some v ∈ pair.gets → Label.send v ∈ labels) ∧
      (∀ op : Nat, pair.ops[op]? = some (some none) → pair.receiver = .idle →
        ∃ v, Label.send v ∈ labels ∧ pair.isReady = true ∧ pair.getStoredObject = some v) ∧
      (∀ (first second : Nat) (code other : ErrorCode), pair.ops[first]? = some (some code) →
        pair.ops[second]? = some (some other) → Served code → Served other → first = second) ∧
      ∀ more final, (∀ label ∈ more, Onward label) → run step pair more = some final →
        more.length ≤ 6 ∧ (Stuck step Onward final →
          final.AtRest ∧ (final.sender = .gone → none ∉ final.ops)) := by
  obtain ⟨channel, called, follows, sound⟩ := exists_channel ran patient
  refine ⟨fun v told => ?_, fun op success idle => ?_, ?_, ?_⟩
  · rw [follows.fault.2] at told
    exact sent_of_value called (sound.told v told)
  · obtain ⟨-, verdict⟩ := sound.served (follows.completed success) ⟨by simp, by simp⟩
    cases came : channel.outcome with
    | undecided =>
        rw [came] at verdict
        cases verdict
    | value v =>
        obtain ⟨-, sender, state, storage, pending, rfl, resting⟩ := follows.resting idle
        have object : (shape channel sender .idle state storage channel.armed pending
            false).getStoredObject = some v := by
          rw [resting.getStoredObject, came]
          rfl
        exact ⟨v, sent_of_value called came, isReady_of_object object, object⟩
    | broken =>
        rw [came] at verdict
        cases verdict
  · intro first second code other found met served also
    have one := (sound.served (follows.completed found) served).1
    have two := (sound.served (follows.completed met) also).1
    exact Option.some.inj (one.symm.trans two)
  · intro more final onward continued
    have bound := length_add_le_of_decreases (fun _ => True) Onward
      (fun pair : Pair T => pair.sender.rank + pair.receiver.rank) (fun _ _ _ => trivial)
      (fun _ onward stepped => onward_decreases onward stepped) trivial continued onward
    have sender := pair.sender.rank_le
    have receiver := pair.receiver.rank_le
    refine ⟨by omega, fun stuck => ?_⟩
    have rest := atRest_of_stuck stuck
    have stays : ∀ label ∈ more, label ≠ .receiverDetached := by
      rintro label member rfl
      rcases onward _ member with same | same <;> cases same
    have still : Every step Patient create (labels ++ more) :=
      every_append_of patient fun _ _ => patient_of_stays stays
    obtain ⟨channel, -, follows, sound⟩ :=
      exists_channel (run_append.mpr ⟨pair, ran, continued⟩) still
    exact ⟨rest, follows.ended sound rest⟩

/-- The wait for a value which is sent. -/
theorem waits_end_delivered :
    (∀ v, some v ∈ delivered.gets → Label.send v ∈ delivery) ∧
      (∀ op : Nat, delivered.ops[op]? = some (some none) → delivered.receiver = .idle →
        ∃ v, Label.send v ∈ delivery ∧ delivered.isReady = true ∧
          delivered.getStoredObject = some v) ∧
      (∀ (first second : Nat) (code other : ErrorCode), delivered.ops[first]? = some (some code) →
        delivered.ops[second]? = some (some other) → Served code → Served other →
          first = second) ∧
      ∀ more final, (∀ label ∈ more, Onward label) → run step delivered more = some final →
        more.length ≤ 6 ∧ (Stuck step Onward final →
          final.AtRest ∧ (final.sender = .gone → none ∉ final.ops)) :=
  waits_end rfl (patient_of_stays (by simp [delivery]))

end SM.Inc.OneShot
