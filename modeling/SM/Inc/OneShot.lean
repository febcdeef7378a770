import SM.Lib.Machine

/-!
# One-shot channels

The `shared_state` of a sender and a receiver which are on different threads: their operations are
taken apart at the accesses of the atomic `state_`, and the steps of the two interleave in any
order. An access behind `deleter_`, an object constructed or destroyed twice and a wait completed
twice are faults.
-/

namespace SM.Inc.OneShot

/-- `errc`, of the errors with which a wait can end. -/
inductive Errc where
  | cancelled
  | brokenSender
  | duplicateWaitOnReceiver
deriving DecidableEq

/-- `error_code`; `none` is success. -/
abbrev ErrorCode := Option Errc

/-! The values of `state_`. -/

abbrev empty : UInt8 := 0
abbrev engaged : UInt8 := 1
abbrev waiting : UInt8 := 2
abbrev sent : UInt8 := 3
abbrev detached : UInt8 := 4

/-- Where the sender is: in `send` behind the construction of the object, behind `fetch_add` with
the value which stood there and behind the destruction of the object, or in `sender_detached` behind
`exchange`. -/
inductive Sender where
  | holding
  | constructed
  | fetched (prev : UInt8)
  | destroyed
  | exchanged (prev : UInt8)
  | gone
deriving DecidableEq

/-- Where the receiver is: in `async_wait` behind the store of `wait_op_`, behind `exchange` and
behind the store of `state_`; in the handler of a cancellation behind `exchange` and behind the
completion; in `receiver_detached` behind `exchange` and behind the destruction of the object. -/
inductive Receiver where
  | idle
  | stored (op : Nat)
  | exchanged (op : Nat) (prev : UInt8)
  | restored (op : Nat) (prev : UInt8)
  | cancelling (prev : UInt8)
  | cancelled
  | leaving (prev : UInt8)
  | destroyed
  | gone
deriving DecidableEq

/-- What `create` returns: the shared state with its two ends, with the waits which were begun, each
with the code it was completed with, and with what `get` came to. -/
structure Pair (T : Type) where
  state : UInt8
  storage : Option T
  waitOp : Option Nat
  deleted : Bool
  ops : List (Option ErrorCode)
  sender : Sender
  receiver : Receiver
  gets : List (Option T)
  fault : Bool

variable {T : Type}

def create : Pair T where
  state := empty
  storage := none
  waitOp := none
  deleted := false
  ops := []
  sender := .holding
  receiver := .idle
  gets := []
  fault := false

namespace Pair

/-- An access of the shared state. -/
def touch (pair : Pair T) : Pair T := { pair with fault := pair.fault || pair.deleted }

/-- `storage_.construct` -/
def construct (pair : Pair T) (value : T) : Pair T :=
  { pair with storage := some value, fault := pair.fault || pair.storage.isSome }

/-- `storage_.destroy` -/
def destroy (pair : Pair T) : Pair T :=
  { pair with storage := none, fault := pair.fault || pair.storage.isNone }

/-- `deleter_` -/
def delete (pair : Pair T) : Pair T :=
  { pair with deleted := true, fault := pair.fault || pair.deleted }

/-- `complete` of the wait behind a pointer. -/
def complete (pair : Pair T) (op : Option Nat) (ec : ErrorCode) : Pair T :=
  match op with
  | none => { pair with fault := true }
  | some op =>
      if pair.ops[op]? = some none then { pair with ops := pair.ops.set op (some ec) }
      else { pair with fault := true }

def isReady (pair : Pair T) : Bool := pair.state == sent || pair.state == engaged

def getStoredObject (pair : Pair T) : Option T :=
  if pair.state = sent ∨ pair.state = engaged then pair.storage else none

/-! ## The sender -/

/-- `send`, to behind the construction. -/
def send (pair : Pair T) (value : T) : Option (Pair T) :=
  match pair.sender with
  | .holding => some { pair.touch.construct value with sender := .constructed }
  | _ => none

/-- `sender_detached`, to behind `exchange`. -/
def senderDetached (pair : Pair T) : Option (Pair T) :=
  match pair.sender with
  | .holding => some { pair.touch with state := detached, sender := .exchanged pair.state }
  | _ => none

/-- The sender goes on. -/
def senderStep (pair : Pair T) : Option (Pair T) :=
  match pair.sender with
  | .holding | .gone => none
  | .constructed => some { pair.touch with state := pair.state + 1, sender := .fetched pair.state }
  | .fetched prev =>
      if prev = detached then some { pair.touch.destroy with sender := .destroyed }
      else if prev = waiting then some { pair.touch.complete pair.waitOp none with sender := .gone }
      else some { pair with sender := .gone }
  | .destroyed => some { pair.delete with sender := .gone }
  | .exchanged prev =>
      if prev = detached then some { pair.delete with sender := .gone }
      else if prev = waiting then
        some { pair.touch.complete pair.waitOp (some .brokenSender) with sender := .gone }
      else some { pair with sender := .gone }

/-! ## The receiver -/

/-- `async_wait`, to behind the store of `wait_op_`. -/
def asyncWait (pair : Pair T) : Option (Pair T) :=
  match pair.receiver, pair.waitOp with
  | .idle, some _ =>
      let op := pair.ops.length
      some ({ pair.touch with ops := pair.ops ++ [none] }.complete (some op)
        (some .duplicateWaitOnReceiver))
  | .idle, none =>
      let op := pair.ops.length
      some { pair.touch with ops := pair.ops ++ [none], waitOp := some op, receiver := .stored op }
  | _, _ => none

/-- The handler which `async_wait` puts in the slot of a wait; completing the wait clears the
slot. -/
def cancel (pair : Pair T) (op : Nat) : Option (Pair T) :=
  match pair.receiver, pair.ops[op]? with
  | .idle, some none => some { pair.touch with state := empty, receiver := .cancelling pair.state }
  | _, _ => none

/-- `get` -/
def get (pair : Pair T) : Option (Pair T) :=
  match pair.receiver with
  | .idle => some { pair.touch with gets := pair.gets ++ [pair.getStoredObject] }
  | _ => none

/-- `receiver_detached`, to behind `exchange`. -/
def receiverDetached (pair : Pair T) : Option (Pair T) :=
  match pair.receiver with
  | .idle => some { pair.touch with state := detached, receiver := .leaving pair.state }
  | _ => none

/-- The receiver goes on. -/
def receiverStep (pair : Pair T) : Option (Pair T) :=
  match pair.receiver with
  | .idle | .gone => none
  | .stored op =>
      some { pair.touch with state := waiting, receiver := .exchanged op pair.state }
  | .exchanged op prev =>
      if prev = detached ∨ prev = engaged then
        some { pair.touch with state := prev, receiver := .restored op prev }
      else some { pair with receiver := .idle }
  | .restored op prev =>
      some { pair.complete (some op) (if prev = detached then some .brokenSender else none) with
        receiver := .idle }
  | .cancelling prev =>
      if prev = waiting then
        some { pair.touch.complete pair.waitOp (some .cancelled) with receiver := .cancelled }
      else some { pair.touch with state := prev, receiver := .idle }
  | .cancelled => some { pair.touch with waitOp := none, receiver := .idle }
  | .leaving prev =>
      if prev = detached then some { pair.delete with receiver := .gone }
      else if prev = engaged ∨ prev = sent then
        some { pair.touch.destroy with receiver := .destroyed }
      else some { pair with receiver := .gone }
  | .destroyed => some { pair.delete with receiver := .gone }

end Pair

/-! ## Runs -/

/-- What an end begins, and that it goes on. -/
inductive Label (T : Type) where
  | send (value : T)
  | senderDetached
  | sender
  | asyncWait
  | cancel (op : Nat)
  | get
  | receiverDetached
  | receiver

def step (pair : Pair T) : Label T → Option (Pair T)
  | .send value => pair.send value
  | .senderDetached => pair.senderDetached
  | .sender => pair.senderStep
  | .asyncWait => pair.asyncWait
  | .cancel op => pair.cancel op
  | .get => pair.get
  | .receiverDetached => pair.receiverDetached
  | .receiver => pair.receiverStep

/-- The receiver goes only when each of its waits was completed. -/
def Patient (pair : Pair T) : Label T → Prop
  | .receiverDetached => none ∉ pair.ops
  | _ => True

end SM.Inc.OneShot
