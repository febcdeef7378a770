import Mathlib.Logic.Function.Basic
import SM.Network.StreamNetDealer

/-!
# Local net manager

The four functions which create channels and number them, and `sendPack`, which
looks a channel up by its number. `createPair` takes its numbers from a counter
of its own, and its channels stand in a map which `sendPack` does not read.
`after_constructs` reduces any calls to single constructions.
-/

namespace SM.Network

/-- The class which a `ChannelCombine` wraps. -/
inductive ChannelKind where
  | fullDuplex
  | tcp
  | rep
  | req
deriving DecidableEq, Repr

/-- A constructed channel. One whose nng calls failed is dropped with its number. -/
structure Transport where
  kind : ChannelKind
  sockNo : UInt32
  kept : Bool
deriving DecidableEq, Repr

/-- The maps lead to positions in `transports`, the channels in the order of their
construction. -/
structure LocalNetManager where
  /-- `_Index`. -/
  index : UInt32
  /-- `_sockNo`, the counter of `newSockNo`. -/
  sockNo : UInt32
  channels : UInt32 → Option Nat
  channelsTcp : UInt32 → Option Nat
  channelsRep : UInt32 → Option Nat
  channelsReq : UInt32 → Option Nat
  transports : List Transport

/-- What the nng calls for one context of a rep socket did. -/
inductive RepOutcome where
  | aioAllocFailed
  | ctxOpenFailed
  | ready
deriving DecidableEq, Repr

/-- `map::insert`, which keeps an entry that is already there. -/
def insertNew (map : UInt32 → Option Nat) (key : UInt32) (value : Nat) : UInt32 → Option Nat :=
  if (map key).isSome then map else Function.update map key (some value)

/-- An insertion leaves the value of a key which is there. -/
theorem insertNew_apply (map : UInt32 → Option Nat) (key : UInt32) (value : Nat) (no : UInt32) :
    insertNew map key value no = (map no).or (if key = no then some value else none) := by
  simp only [insertNew]
  by_cases same : key = no
  · subst same
    cases present : map key <;> simp [present]
  · rw [if_neg same, Option.or_none]
    split
    · rfl
    · exact Function.update_of_ne (Ne.symm same) _ _

namespace LocalNetManager

def new : LocalNetManager where
  index := 0
  sockNo := 0
  channels _ := none
  channelsTcp _ := none
  channelsRep _ := none
  channelsReq _ := none
  transports := []

def createPair (manager : LocalNetManager) : LocalNetManager :=
  let f := manager.index + 1
  let s := f + 1
  let position := manager.transports.length
  { manager with
    index := s
    channels := insertNew (insertNew manager.channels f position) s (position + 1)
    transports := manager.transports ++ [⟨.fullDuplex, f, true⟩, ⟨.fullDuplex, s, true⟩] }

def createTcpChannel (manager : LocalNetManager) : LocalNetManager :=
  let no := manager.sockNo + 1
  { manager with
    sockNo := no
    channelsTcp := insertNew manager.channelsTcp no manager.transports.length
    transports := manager.transports ++ [⟨.tcp, no, true⟩] }

/-- One turn of the loop of `createRep`. -/
def createContext (manager : LocalNetManager) (outcome : RepOutcome) : LocalNetManager :=
  let no := manager.sockNo + 1
  match outcome with
  | .ready =>
      { manager with
        sockNo := no
        channelsRep := insertNew manager.channelsRep no manager.transports.length
        transports := manager.transports ++ [⟨.rep, no, true⟩] }
  | _ =>
      { manager with sockNo := no, transports := manager.transports ++ [⟨.rep, no, false⟩] }

/-- `for (uint16_t i = 0; i < cur; ++i)`. The result is whether the loop came to its end; with
`cur` above 65535 it never does. -/
def repLoop (cur : Int) : UInt16 → LocalNetManager → List RepOutcome →
    LocalNetManager × Bool
  | i, manager, [] => (manager, decide (cur ≤ i.toNat))
  | i, manager, outcome :: outcomes =>
      if cur ≤ i.toNat then (manager, true)
      else if outcome = .ready then repLoop cur (i + 1) (manager.createContext outcome) outcomes
      else (manager.createContext outcome, false)

/-- `createRep` with the outcomes of `nng_rep0_open`, of the contexts and of `nng_listen`. -/
def createRep (manager : LocalNetManager) (cur : Int) (opened : Bool)
    (outcomes : List RepOutcome) (listening : Bool) : LocalNetManager × Bool :=
  if opened then
    let (manager, completed) := repLoop cur 0 manager outcomes
    (manager, completed && listening)
  else (manager, false)

/-- The result of `nng_req0_open` is not looked at. -/
def createReq (manager : LocalNetManager) : LocalNetManager :=
  let no := manager.sockNo + 1
  { manager with
    sockNo := no
    channelsReq := insertNew manager.channelsReq no manager.transports.length
    transports := manager.transports ++ [⟨.req, no, true⟩] }

end LocalNetManager

/-- A call which creates channels. -/
inductive CreateCall where
  | createPair
  | createTcpChannel
  | createRep (cur : Int) (opened : Bool) (outcomes : List RepOutcome) (listening : Bool)
  | createReq
deriving DecidableEq

namespace LocalNetManager

def create (manager : LocalNetManager) : CreateCall → LocalNetManager
  | .createPair => manager.createPair
  | .createTcpChannel => manager.createTcpChannel
  | .createRep cur opened outcomes listening =>
      (manager.createRep cur opened outcomes listening).1
  | .createReq => manager.createReq

/-- The manager after the given calls. -/
def after (calls : List CreateCall) : LocalNetManager := calls.foldl create new

/-- The numbers given to channels, in the order in which they were given. -/
def socketNumbers (manager : LocalNetManager) : List UInt32 :=
  manager.transports.map Transport.sockNo

/-- What `sendPack` does to the outside. -/
inductive Effect where
  | sendMessage (channel : Nat) (msg : NMessage)
  | notifySendNetComplete (sock : UInt32) (no : UInt32) (flag : Bool)
deriving DecidableEq

/-- The common body of `_sendTcp`, `_sendRep` and `_sendReq`: whether the map holds the
number, and the calls made. -/
def sendVia (map : UInt32 → Option Nat) (sendMessage : Nat → NMessage → Bool) (sock : UInt32)
    (msg : NMessage) : Bool × List Effect :=
  match map sock with
  | some channel => (true, [.sendMessage channel msg,
      .notifySendNetComplete sock msg.no (sendMessage channel msg)])
  | none => (false, [])

/-- `_sendTcp`. -/
def sendTcp (manager : LocalNetManager) := sendVia manager.channelsTcp

/-- `_sendRep`. -/
def sendRep (manager : LocalNetManager) := sendVia manager.channelsRep

/-- `_sendReq`. -/
def sendReq (manager : LocalNetManager) := sendVia manager.channelsReq

/-- `sendPack(int, shared_ptr<NMessage>)`, given the results of `sendMessage`. -/
def sendPack (manager : LocalNetManager) (sendMessage : Nat → NMessage → Bool) (sock : UInt32)
    (msg : NMessage) : Bool × List Effect :=
  let (bret, tcp) := manager.sendTcp sendMessage sock msg
  if bret then (bret, tcp)
  else
    let (bret, rep) := manager.sendRep sendMessage sock msg
    if bret then (bret, tcp ++ rep)
    else
      let (bret, req) := manager.sendReq sendMessage sock msg
      (bret, tcp ++ rep ++ req)

/-! ## Constructions -/

/-- The map which the channels of a kind are inserted into. -/
def table (manager : LocalNetManager) : ChannelKind → UInt32 → Option Nat
  | .fullDuplex => manager.channels
  | .tcp => manager.channelsTcp
  | .rep => manager.channelsRep
  | .req => manager.channelsReq

/-- The number which the next channel of a kind is given. -/
def nextNo (manager : LocalNetManager) (kind : ChannelKind) : UInt32 :=
  if kind = .fullDuplex then manager.index + 1 else manager.sockNo + 1

/-- One channel is constructed, and inserted when it is kept. -/
structure Constructs (kind : ChannelKind) (kept : Bool) (manager next : LocalNetManager) :
    Prop where
  index : next.index = if kind = .fullDuplex then manager.index + 1 else manager.index
  sockNo : next.sockNo = if kind = .fullDuplex then manager.sockNo else manager.sockNo + 1
  table : ∀ other, next.table other =
    if kept ∧ other = kind then
      insertNew (manager.table kind) (manager.nextNo kind) manager.transports.length
    else manager.table other
  transports : next.transports =
    manager.transports ++ [⟨kind, manager.nextNo kind, kept⟩]

/-- Channels constructed one after the other. -/
inductive ConstructsAll : List (ChannelKind × Bool) → LocalNetManager → LocalNetManager → Prop where
  | nil {manager} : ConstructsAll [] manager manager
  | cons {kind kept rest manager middle next} (first : Constructs kind kept manager middle)
      (later : ConstructsAll rest middle next) :
      ConstructsAll ((kind, kept) :: rest) manager next

/-- Constructions follow one another. -/
theorem ConstructsAll.append {first second : List (ChannelKind × Bool)}
    {manager middle next : LocalNetManager} (before : ConstructsAll first manager middle)
    (later : ConstructsAll second middle next) : ConstructsAll (first ++ second) manager next := by
  induction before with
  | nil => exact later
  | cons head _ inductionHypothesis => exact .cons head (inductionHypothesis later)

/-- What every construction preserves holds after all of them. -/
theorem ConstructsAll.preserves {property : LocalNetManager → Prop}
    (step : ∀ {kind kept manager next}, Constructs kind kept manager next → property manager →
      property next)
    {constructions : List (ChannelKind × Bool)} {manager next : LocalNetManager}
    (constructs : ConstructsAll constructions manager next) (start : property manager) :
    property next := by
  induction constructs with
  | nil => exact start
  | cons first _ inductionHypothesis => exact inductionHypothesis (step first start)

/-- The contexts which the loop of `createRep` constructs. -/
def contexts (cur : Int) : UInt16 → List RepOutcome → List (ChannelKind × Bool)
  | _, [] => []
  | i, outcome :: outcomes =>
      if cur ≤ i.toNat then []
      else if outcome = .ready then (.rep, true) :: contexts cur (i + 1) outcomes
      else [(.rep, false)]

end LocalNetManager

/-- The channels which a call constructs, with whether they are kept. -/
def CreateCall.constructions : CreateCall → List (ChannelKind × Bool)
  | .createPair => [(.fullDuplex, true), (.fullDuplex, true)]
  | .createTcpChannel => [(.tcp, true)]
  | .createRep cur opened outcomes _ =>
      if opened then LocalNetManager.contexts cur 0 outcomes else []
  | .createReq => [(.req, true)]

namespace LocalNetManager

/-- A pair constructs two ends. -/
theorem createPair_constructs (manager : LocalNetManager) :
    ConstructsAll [(.fullDuplex, true), (.fullDuplex, true)] manager manager.createPair := by
  have first : Constructs .fullDuplex true manager { manager with
      index := manager.index + 1
      channels := insertNew manager.channels (manager.index + 1) manager.transports.length
      transports := manager.transports ++ [⟨.fullDuplex, manager.index + 1, true⟩] } := by
    constructor
    · rfl
    · rfl
    · intro other
      cases other <;> rfl
    · rfl
  refine .cons first (.cons ?_ .nil)
  constructor
  · rfl
  · rfl
  · intro other
    cases other <;> simp [createPair, table, nextNo]
  · simp [createPair, nextNo]

/-- A TCP channel constructs one end. -/
theorem createTcpChannel_constructs (manager : LocalNetManager) :
    Constructs .tcp true manager manager.createTcpChannel := by
  constructor
  · rfl
  · rfl
  · intro other
    cases other <;> rfl
  · rfl

/-- A request constructs one end. -/
theorem createReq_constructs (manager : LocalNetManager) :
    Constructs .req true manager manager.createReq := by
  constructor
  · rfl
  · rfl
  · intro other
    cases other <;> rfl
  · rfl

/-- A context constructs one end, which is entered where all went well. -/
theorem createContext_constructs (manager : LocalNetManager) (outcome : RepOutcome) :
    Constructs .rep (decide (outcome = .ready)) manager (manager.createContext outcome) := by
  cases outcome <;>
  · constructor
    · rfl
    · rfl
    · intro other
      cases other <;> rfl
    · rfl

/-- The loop over the contexts constructs one end in each turn. -/
theorem repLoop_constructs (cur : Int) (outcomes : List RepOutcome) (i : UInt16)
    (manager : LocalNetManager) :
    ConstructsAll (contexts cur i outcomes) manager (repLoop cur i manager outcomes).1 := by
  induction outcomes generalizing i manager with
  | nil => exact .nil
  | cons outcome outcomes inductionHypothesis =>
      simp only [contexts, repLoop]
      have first := createContext_constructs manager outcome
      split
      · exact .nil
      · split
        · rename_i ready
          subst ready
          exact .cons first (inductionHypothesis _ _)
        · rename_i failed
          simp only [failed, decide_false] at first
          exact .cons first .nil

/-- Every call constructs its channels one after the other. -/
theorem create_constructs (manager : LocalNetManager) (call : CreateCall) :
    ConstructsAll call.constructions manager (manager.create call) := by
  cases call with
  | createPair => exact createPair_constructs manager
  | createTcpChannel => exact .cons (createTcpChannel_constructs manager) .nil
  | createRep cur opened outcomes listening =>
      cases opened with
      | false => exact .nil
      | true => exact repLoop_constructs cur outcomes 0 manager
  | createReq => exact .cons (createReq_constructs manager) .nil

/-- The calls construct what they say one after another. -/
theorem after_constructs (calls : List CreateCall) :
    ConstructsAll (calls.flatMap CreateCall.constructions) new (after calls) := by
  have general : ∀ manager : LocalNetManager,
      ConstructsAll (calls.flatMap CreateCall.constructions) manager (calls.foldl create manager) := by
    induction calls with
    | nil => exact fun manager => .nil
    | cons call calls inductionHypothesis =>
        intro manager
        exact (create_constructs manager call).append (inductionHypothesis _)
  exact general new

end LocalNetManager
end SM.Network
