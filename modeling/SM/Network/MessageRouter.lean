import SM.Network.StreamNetDealer

/-!
# Message router

The three signal tables of `MessageRouter`, keyed by socket and message number.
An entry is the sender of a oneshot; the value it was given stands with it
until the coroutine which waits for it has read it.
-/

namespace SM.Network

/-- A oneshot which was not used yet, or the value sent through it. -/
inductive Signal (Value : Type) where
  | waiting
  | sent (value : Value)
deriving DecidableEq

/-- `map<uint32_t, map<uint32_t, oneshot::sender<..>>>`. -/
abbrev SignalTable (Value : Type) := UInt32 → UInt32 → Option (Signal Value)

namespace SignalTable

variable {Value : Type}

def empty : SignalTable Value := fun _ _ => none

/-- Assign an entry, or erase it. -/
def set (table : SignalTable Value) (sock no : UInt32) (entry : Option (Signal Value)) :
    SignalTable Value :=
  fun otherSock otherNo => if otherSock = sock ∧ otherNo = no then entry else table otherSock otherNo

/-- Send through an entry. The second send through one entry throws, which is caught. -/
def notify (table : SignalTable Value) (sock no : UInt32) (value : Value) :
    Bool × SignalTable Value :=
  match table sock no with
  | some .waiting => (true, table.set sock no (some (.sent value)))
  | _ => (false, table)

/-- The entry which was set is there. -/
@[simp] theorem set_self (table : SignalTable Value) (sock no : UInt32)
    (entry : Option (Signal Value)) : table.set sock no entry sock no = entry := by
  simp [set]

/-- The other entries stay. -/
theorem set_of_ne {table : SignalTable Value} {sock no otherSock otherNo : UInt32}
    (other : ¬ (otherSock = sock ∧ otherNo = no)) (entry : Option (Signal Value)) :
    table.set sock no entry otherSock otherNo = table otherSock otherNo := by
  simp [set, other]

/-- An entry which waits is sent through. -/
theorem notify_of_waiting {table : SignalTable Value} {sock no : UInt32}
    (waiting : table sock no = some .waiting) (value : Value) :
    table.notify sock no value = (true, table.set sock no (some (.sent value))) := by
  simp [notify, waiting]

/-- An entry which does not wait is left as it is. -/
theorem notify_of_not_waiting {table : SignalTable Value} {sock no : UInt32}
    (other : table sock no ≠ some .waiting) (value : Value) :
    table.notify sock no value = (false, table) := by
  cases entry : table sock no with
  | none => simp [notify, entry]
  | some signal =>
      cases signal with
      | waiting => exact absurd entry other
      | sent earlier => simp [notify, entry]

/-- The entries of other numbers stay. -/
theorem set_of_no_ne (table : SignalTable Value) (sock otherSock : UInt32)
    (entry : Option (Signal Value)) {no otherNo : UInt32} (different : no ≠ otherNo) :
    table.set sock no entry otherSock otherNo = table otherSock otherNo :=
  set_of_ne (fun same => different same.2.symm) entry

/-- A send leaves the entries of other numbers. -/
theorem notify_of_no_ne (table : SignalTable Value) (sock otherSock : UInt32) (value : Value)
    {no otherNo : UInt32} (different : no ≠ otherNo) :
    (table.notify sock no value).2 otherSock otherNo = table otherSock otherNo := by
  by_cases waiting : table sock no = some .waiting
  · rw [notify_of_waiting waiting]
    exact set_of_no_ne table sock otherSock _ different
  · rw [notify_of_not_waiting waiting]

end SignalTable

/-- The signal tables of the router. -/
structure MessageRouter where
  sendCompleteSignals : SignalTable Bool
  netRepSignals : SignalTable NMessage
  appRepSignals : SignalTable NMessage

namespace MessageRouter

def new : MessageRouter := ⟨.empty, .empty, .empty⟩

def canReqRep (router : MessageRouter) (sock no : UInt32) : Bool :=
  (router.sendCompleteSignals sock no).isNone && (router.netRepSignals sock no).isNone

def canWaitAppRep (router : MessageRouter) (sock no : UInt32) : Bool :=
  (router.appRepSignals sock no).isNone

def prepareSignalSendComplete (router : MessageRouter) (sock no : UInt32) : MessageRouter :=
  { router with sendCompleteSignals := router.sendCompleteSignals.set sock no (some .waiting) }

def prepareSignalRecvNetRep (router : MessageRouter) (sock no : UInt32) : MessageRouter :=
  { router with netRepSignals := router.netRepSignals.set sock no (some .waiting) }

def prepareSignalRecvAppRep (router : MessageRouter) (sock no : UInt32) : MessageRouter :=
  { router with appRepSignals := router.appRepSignals.set sock no (some .waiting) }

/-- The free function `prepareReqRep`; `none` is the result whose `_valid` is false. -/
def prepareReqRep (router : MessageRouter) (sock no : UInt32) : Option MessageRouter :=
  if router.canReqRep sock no then
    some ((router.prepareSignalSendComplete sock no).prepareSignalRecvNetRep sock no)
  else none

/-- The free function `prepareAppRep`; `none` is a null receiver. -/
def prepareAppRep (router : MessageRouter) (sock no : UInt32) : Option MessageRouter :=
  if router.canWaitAppRep sock no then some (router.prepareSignalRecvAppRep sock no) else none

def finishReqRep (router : MessageRouter) (sock no : UInt32) : MessageRouter :=
  { router with
    sendCompleteSignals := router.sendCompleteSignals.set sock no none
    netRepSignals := router.netRepSignals.set sock no none }

def notifySendNetComplete (router : MessageRouter) (sock no : UInt32) (flag : Bool) :
    Bool × MessageRouter :=
  let (bret, table) := router.sendCompleteSignals.notify sock no flag
  (bret, { router with sendCompleteSignals := table })

def notifyRecvNetRep (router : MessageRouter) (sock : UInt32) (msg : NMessage) :
    Bool × MessageRouter :=
  let (bret, table) := router.netRepSignals.notify sock msg.no msg
  (bret, { router with netRepSignals := table })

def notifyRecvAppRep (router : MessageRouter) (sock : UInt32) (msg : NMessage) :
    Bool × MessageRouter :=
  let (bret, table) := router.appRepSignals.notify sock msg.no msg
  (bret, { router with appRepSignals := table })

end MessageRouter
end SM.Network
