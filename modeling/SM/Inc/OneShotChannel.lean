import SM.Inc.OneShot

/-!
# What a one-shot channel is for

`Channel` is a channel whose operations happen at once. `Follows` relates the states of a pair, with
its operations halfway, to a channel; `exists_channel_of_run` is the refinement.
-/

namespace SM.Inc.OneShot

variable {T : Type}

/-- What the sender came to. -/
inductive Outcome (T : Type) where
  | undecided
  | value (v : T)
  | broken

/-- The code with which a wait ends; `none` while it does not. -/
def Outcome.verdict : Outcome T → Option ErrorCode
  | .undecided => none
  | .value _ => some none
  | .broken => some (some .brokenSender)

def Outcome.object : Outcome T → Option T
  | .value v => some v
  | _ => none

/-- A channel, with the codes of the waits which were begun. The armed one is the wait which ends
with the outcome. -/
structure Channel (T : Type) where
  outcome : Outcome T
  armed : Option Nat
  waits : List (Option ErrorCode)
  gets : List (Option T)
  closed : Bool

namespace Channel

def new : Channel T := ⟨.undecided, none, [], [], false⟩

/-- The sender comes to its outcome. -/
def decided (channel : Channel T) (outcome : Outcome T) : Channel T :=
  { channel with
    outcome
    waits := match channel.armed with
      | none => channel.waits
      | some op => channel.waits.set op outcome.verdict }

/-- A wait is begun. -/
def wait (channel : Channel T) : Channel T :=
  match channel.armed with
  | some _ => { channel with waits := channel.waits ++ [some (some .duplicateWaitOnReceiver)] }
  | none =>
      { channel with
        armed := some channel.waits.length
        waits := channel.waits ++ [channel.outcome.verdict] }

/-- A wait is cancelled, if it has not ended. -/
def cancel (channel : Channel T) (op : Nat) : Channel T :=
  if channel.waits[op]? = some none then
    { channel with armed := none, waits := channel.waits.set op (some (some .cancelled)) }
  else channel

end Channel

inductive Call (T : Type) where
  | send (value : T)
  | breakOff
  | wait
  | cancel (op : Nat)
  | get
  | close

/-- A call on a channel. The sender is heard once, the receiver until it closes. -/
def Channel.call (channel : Channel T) : Call T → Option (Channel T)
  | .send value =>
      match channel.outcome with
      | .undecided => some (channel.decided (.value value))
      | _ => none
  | .breakOff =>
      match channel.outcome with
      | .undecided => some (channel.decided .broken)
      | _ => none
  | .wait => if channel.closed then none else some channel.wait
  | .cancel op => if channel.closed then none else some (channel.cancel op)
  | .get =>
      if channel.closed then none
      else some { channel with gets := channel.gets ++ [channel.outcome.object] }
  | .close => if channel.closed then none else some { channel with closed := true }

/-! ## Halfway -/

/-- A pair without a fault. Its waits are those of the channel, but one may still be to complete. -/
def shape (channel : Channel T) (sender : Sender) (receiver : Receiver) (state : UInt8)
    (storage : Option T) (waitOp pending : Option Nat) (deleted : Bool) : Pair T where
  state
  storage
  waitOp
  deleted
  ops := match pending with
    | none => channel.waits
    | some op => channel.waits.set op none
  sender
  receiver
  gets := channel.gets
  fault := false

/-- A sender which came to nothing yet, with the object. -/
inductive Preparing : Sender → Option T → Prop
  | holding : Preparing .holding none
  | constructed (v : T) : Preparing .constructed (some v)

/-- The value of `state_` behind the step with which the sender comes to its outcome. -/
def Outcome.after : Outcome T → UInt8 → UInt8
  | .value _, met => met + 1
  | _, _ => detached

/-- The sender behind this step, with what it met. -/
def Outcome.place : Outcome T → UInt8 → Sender
  | .value _, met => .fetched met
  | _, met => .exchanged met

/-- A sender with nothing more to do to the pair. -/
def Done (outcome : Outcome T) (sender : Sender) : Prop :=
  sender = outcome.place empty ∨ sender = .gone

/-- What stands in `state_` behind the outcome, when the receiver is not halfway. A wait which was
armed before the object came is not armed again. -/
inductive Base (channel : Channel T) : UInt8 → Prop
  | engaged (v : T) (outcome : channel.outcome = .value v) : Base channel engaged
  | sent (v : T) (outcome : channel.outcome = .value v) (armed : channel.armed ≠ none) :
      Base channel sent
  | detached (outcome : channel.outcome = .broken) : Base channel detached

/-- The sender came to nothing yet. -/
inductive Undecided (channel : Channel T) (sender : Sender) (storage : Option T) : Pair T → Prop
  | idle (armed : channel.armed = none) (opened : channel.closed = false) :
      Undecided channel sender storage (shape channel sender .idle empty storage none none false)
  | suspended (op : Nat) {receiver : Receiver} (armed : channel.armed = some op)
      (opened : channel.closed = false) (unended : channel.waits[op]? = some none)
      (place : receiver = .idle ∨ receiver = .exchanged op empty) :
      Undecided channel sender storage
        (shape channel sender receiver waiting storage (some op) (some op) false)
  | stored (op : Nat) (armed : channel.armed = some op) (opened : channel.closed = false)
      (unended : channel.waits[op]? = some none) :
      Undecided channel sender storage
        (shape channel sender (.stored op) empty storage (some op) (some op) false)
  | cancelling (op : Nat) (armed : channel.armed = none) (opened : channel.closed = false)
      (ended : channel.waits[op]? = some (some (some .cancelled))) :
      Undecided channel sender storage
        (shape channel sender (.cancelling waiting) empty storage (some op) (some op) false)
  | cancelled (op : Nat) (armed : channel.armed = none) (opened : channel.closed = false) :
      Undecided channel sender storage
        (shape channel sender .cancelled empty storage (some op) none false)
  | leaving (armed : channel.armed = none) (closed : channel.closed = true) :
      Undecided channel sender storage
        (shape channel sender (.leaving empty) detached storage none none false)
  | gone (armed : channel.armed = none) (closed : channel.closed = true) :
      Undecided channel sender storage
        (shape channel sender .gone detached storage none none false)

/-- The sender came to its outcome while the receiver waited, and has the wait to complete. -/
inductive Met (channel : Channel T) (base : UInt8) : Pair T → Prop
  | mk (op : Nat) {receiver : Receiver} {state : UInt8} (armed : channel.armed = some op)
      (opened : channel.closed = false) (ended : channel.waits[op]? = some channel.outcome.verdict)
      (place : state = base ∧ (receiver = .idle ∨ receiver = .exchanged op empty) ∨
        state = empty ∧ receiver = .cancelling base) :
      Met channel base (shape channel (channel.outcome.place waiting) receiver state
        channel.outcome.object (some op) (some op) false)

/-- The sender has nothing more to do. -/
inductive Settled (channel : Channel T) (base : UInt8) (sender : Sender) : Pair T → Prop
  | idle (opened : channel.closed = false) :
      Settled channel base sender
        (shape channel sender .idle base channel.outcome.object channel.armed none false)
  | stored (op : Nat) (armed : channel.armed = some op) (opened : channel.closed = false)
      (ended : channel.waits[op]? = some channel.outcome.verdict) (fresh : base ≠ sent) :
      Settled channel base sender (shape channel sender (.stored op) base channel.outcome.object
        (some op) (some op) false)
  | exchanged (op : Nat) (armed : channel.armed = some op) (opened : channel.closed = false)
      (ended : channel.waits[op]? = some channel.outcome.verdict) (fresh : base ≠ sent) :
      Settled channel base sender (shape channel sender (.exchanged op base) waiting
        channel.outcome.object (some op) (some op) false)
  | restored (op : Nat) (armed : channel.armed = some op) (opened : channel.closed = false)
      (ended : channel.waits[op]? = some channel.outcome.verdict) :
      Settled channel base sender (shape channel sender (.restored op base) base
        channel.outcome.object (some op) (some op) false)
  | awaited (op : Nat) (armed : channel.armed = some op) (opened : channel.closed = false) :
      Settled channel base sender (shape channel sender (.exchanged op empty) base
        channel.outcome.object (some op) none false)
  | cancelling (op : Nat) (armed : channel.armed = none) (opened : channel.closed = false)
      (ended : channel.waits[op]? = some (some (some .cancelled))) :
      Settled channel base sender (shape channel sender (.cancelling waiting) base
        channel.outcome.object (some op) (some op) false)
  | restoring (opened : channel.closed = false) :
      Settled channel base sender (shape channel sender (.cancelling base) empty
        channel.outcome.object channel.armed none false)
  | cancelled (op : Nat) (armed : channel.armed = none) (opened : channel.closed = false) :
      Settled channel base sender (shape channel sender .cancelled base channel.outcome.object
        (some op) none false)
  | leaving (closed : channel.closed = true) :
      Settled channel base sender (shape channel sender (.leaving base) detached
        channel.outcome.object channel.armed none false)
  | destroyed (closed : channel.closed = true) :
      Settled channel base sender
        (shape channel sender .destroyed detached none channel.armed none false)
  | gone (closed : channel.closed = true) :
      Settled channel base sender
        (shape channel sender .gone detached none channel.armed none true)

/-- The receiver was gone before the sender came to its outcome. -/
inductive Left (channel : Channel T) (receiver : Receiver) (state : UInt8) : Pair T → Prop
  | met : Left channel receiver state (shape channel (channel.outcome.place detached) receiver state
      channel.outcome.object none none false)
  | destroyed :
      Left channel receiver state (shape channel .destroyed receiver state none none none false)
  | gone : Left channel receiver state (shape channel .gone receiver state none none none true)

/-- The pair is on the way of the channel. -/
inductive Follows (channel : Channel T) (pair : Pair T) : Prop
  | undecided {sender : Sender} {storage : Option T} (outcome : channel.outcome = .undecided)
      (preparing : Preparing sender storage) (stage : Undecided channel sender storage pair)
  | met {base : UInt8} (outcome : Base channel base) (stage : Met channel base pair)
  | settled {base : UInt8} {sender : Sender} (outcome : Base channel base)
      (done : Done channel.outcome sender) (stage : Settled channel base sender pair)
  | left {receiver : Receiver} {state : UInt8} (outcome : channel.outcome ≠ .undecided)
      (armed : channel.armed = none) (closed : channel.closed = true)
      (place : receiver = .leaving empty ∨ receiver = .gone)
      (stage : Left channel receiver state pair)

/-- A wait was refused or cancelled, or it is the armed one and ends as the sender does; `get` comes
to nothing but the object. -/
structure Channel.Sound (channel : Channel T) : Prop where
  codes : ∀ op code, channel.waits[op]? = some code →
    code = some (some .duplicateWaitOnReceiver) ∨ code = some (some .cancelled) ∨
      channel.armed = some op ∧ code = channel.outcome.verdict
  armed : ∀ op, channel.armed = some op → channel.waits[op]? = some channel.outcome.verdict
  told : ∀ v, some v ∈ channel.gets → channel.outcome = .value v

/-- The call which takes effect with a step. -/
def linearized (pair : Pair T) : Label T → Option (Call T)
  | .send _ | .receiver => none
  | .senderDetached => some .breakOff
  | .sender => if pair.sender = .constructed then pair.storage.map .send else none
  | .asyncWait => some .wait
  | .cancel op => some (.cancel op)
  | .get => some .get
  | .receiverDetached => some .close

/-- The call, or nothing, happened to the channel. -/
inductive Matched (channel : Channel T) (next : Pair T) : Option (Call T) → Prop
  | still (follows : Follows channel next) : Matched channel next none
  | called {call : Call T} {after : Channel T} (called : channel.call call = some after)
      (follows : Follows after next) : Matched channel next (some call)

end SM.Inc.OneShot
