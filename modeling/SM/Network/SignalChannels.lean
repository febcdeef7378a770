import SM.Inc.OneShotDelivery
import SM.Network.MessageRouter

/-!
# Signals as one-shot channels

An entry of a signal table is the outcome of its one-shot channel, while the dispatcher's thread has
the sender and the caller's thread the receiver: `entry_follows`.
-/

namespace SM.Network

open Inc.OneShot Lib.Machine

variable {Value : Type}

/-- The entry of a channel. -/
def signal : Outcome Value → Option (Signal Value)
  | .undecided => some .waiting
  | .value v => some (.sent v)
  | .broken => none

/-- What the coroutine reads behind an entry. -/
def Signal.object : Option (Signal Value) → Option Value
  | some (.sent v) => some v
  | _ => none

/-- What the router does to its table: `notify` for a send, and the erasure of an entry, whose
sender is destroyed with it. What the receiver does is not seen there. -/
def handle (sock no : UInt32) (table : SignalTable Value) : Call Value → SignalTable Value
  | .send v => (table.notify sock no v).2
  | .breakOff => table.set sock no none
  | _ => table

/-- A call on the one-shot changes the entry as it changes the outcome. -/
theorem handle_call {sock no : UInt32} {table : SignalTable Value} {channel after : Channel Value}
    {call : Call Value} (entry : table sock no = signal channel.outcome)
    (called : channel.call call = some after) :
    handle sock no table call sock no = signal after.outcome := by
  cases call with
  | send v =>
      rw [Channel.call] at called
      split at called
      · rename_i undecided
        cases called
        rw [undecided] at entry
        rw [handle, SignalTable.notify_of_waiting entry]
        exact SignalTable.set_self table sock no _
      · cases called
  | breakOff =>
      rw [Channel.call] at called
      split at called
      · cases called
        rw [handle, SignalTable.set_self]
        rfl
      · cases called
  | wait =>
      rw [Channel.call] at called
      split at called
      · cases called
      · cases called
        change table sock no = _
        rw [entry, wait_outcome]
  | cancel op =>
      rw [Channel.call] at called
      split at called
      · cases called
      · cases called
        change table sock no = _
        rw [entry, Channel.cancel]
        split <;> rfl
  | get =>
      rw [Channel.call] at called
      split at called
      · cases called
      · cases called
        exact entry
  | close =>
      rw [Channel.call] at called
      split at called
      · cases called
      · cases called
        exact entry

/-- Calls on the one-shot change the entry as they change the outcome. -/
theorem handle_run {sock no : UInt32} {table : SignalTable Value} {channel after : Channel Value}
    {calls : List (Call Value)} (entry : table sock no = signal channel.outcome)
    (called : run Channel.call channel calls = some after) :
    calls.foldl (handle sock no) table sock no = signal after.outcome := by
  induction calls generalizing table channel with
  | nil =>
      cases called
      exact entry
  | cons call calls inductionHypothesis =>
      obtain ⟨next, first, rest⟩ := run_cons.mp called
      exact inductionHypothesis (handle_call entry first) rest

/-- A fresh entry, in every run of the two threads: the caller which looks at its receiver between
two operations gets what stands in the table, behind the calls which took effect so far. -/
theorem entry_follows {labels : List (Label Value)} {pair : Pair Value}
    (ran : run step create labels = some pair) (patient : Every step Patient create labels)
    (idle : pair.receiver = .idle) (table : SignalTable Value) (sock no : UInt32) :
    pair.getStoredObject = Signal.object
      ((calls labels).foldl (handle sock no) (table.set sock no (some .waiting)) sock no) := by
  obtain ⟨channel, called, follows, -⟩ := exists_channel ran patient
  have entry : (table.set sock no (some .waiting)) sock no =
      signal (Channel.new : Channel Value).outcome := SignalTable.set_self table sock no _
  rw [handle_run entry called]
  obtain ⟨-, sender, state, storage, pending, rfl, resting⟩ := follows.resting idle
  rw [resting.getStoredObject]
  cases channel.outcome <;> rfl

/-- The object came and was read. -/
theorem entry_follows_delivered :
    delivered.getStoredObject = Signal.object
      ((calls delivery).foldl (handle 3 5) (SignalTable.empty.set 3 5 (some .waiting)) 3 5) :=
  entry_follows rfl (patient_of_stays (by simp [delivery])) rfl .empty 3 5

end SM.Network
