import Mathlib.Logic.Function.Basic
import SM.Network.Exchange

/-!
# Two ends of a channel

Two processes joined by one channel, which is initiative at one end and passive
at the other. Frames are written whole and come out of a wire in the order in
which they were written.
-/

namespace SM.Network

open SM.Lib SM.Utils

variable {RouterFunc : Type}

def ChannelMode.peer : ChannelMode → ChannelMode
  | .initiative => .passive
  | .passive => .initiative

/-- The peer of the peer is the end itself. -/
@[simp] theorem ChannelMode.peer_peer (mode : ChannelMode) : mode.peer.peer = mode := by
  cases mode <;> rfl

/-- No end is its own peer. -/
theorem ChannelMode.peer_ne (mode : ChannelMode) : mode.peer ≠ mode := by
  cases mode <;> decide

/-- There are two ends. -/
theorem ChannelMode.eq_or_eq_peer (mode other : ChannelMode) : other = mode ∨ other = mode.peer := by
  cases mode <;> cases other <;> decide

/-- The configurations of the two processes. -/
structure Ends (RouterFunc : Type) where
  config : ChannelMode → ProcessConfig RouterFunc
  /-- The number of the channel in each process. -/
  sock : ChannelMode → UInt32
  cmode : ∀ mode, (config mode).cmode (sock mode) = mode
  registered : ∀ mode, (config mode).registered (sock mode) = true
  assertions : ∀ mode, (config mode).assertions = true

/-- The main command of the channel at an end. -/
def Ends.mainc (ends : Ends RouterFunc) (mode : ChannelMode) : Int :=
  (ends.config mode).channelMainc (ends.sock mode)

/-- The frame which an action writes. -/
def Process.frame (process : Process RouterFunc) : Action → List NMessage
  | .sendFrame _ =>
      match process.sender with
      | .sending _ msg => [msg]
      | _ => []
  | .replySent index _ =>
      match process.replies[index]? with
      | some ⟨_, _, _, .sending rep⟩ => [rep]
      | _ => []
  | _ => []

/-- The two processes, and the frames which each has written and the other not received. -/
structure System (RouterFunc : Type) where
  process : ChannelMode → Process RouterFunc
  wire : ChannelMode → List NMessage

namespace System

def start (ends : Ends RouterFunc) : System RouterFunc where
  process mode := Process.start (ends.config mode)
  wire _ := []

/-- An action of the process at one end, with the wires afterwards. -/
def act (system : System RouterFunc) (mode : ChannelMode) (next : Process RouterFunc)
    (wire : ChannelMode → List NMessage) : System RouterFunc where
  process := Function.update system.process mode next
  wire

/-- The wires after an action. Only the frame at the front of a wire is received. -/
def wires (system : System RouterFunc) (mode : ChannelMode) :
    Action → Option (ChannelMode → List NMessage)
  | .recv _ msg =>
      match system.wire mode.peer with
      | [] => none
      | front :: rest =>
          if front = msg then some (Function.update system.wire mode.peer rest) else none
  | action =>
      some (Function.update system.wire mode
        (system.wire mode ++ (system.process mode).frame action))

def step (ends : Ends RouterFunc) (system : System RouterFunc) (label : ChannelMode × Action) :
    Option (System RouterFunc) :=
  ((system.process label.1).step (ends.config label.1) label.2).bind fun next =>
    (system.wires label.1 label.2).map (system.act label.1 next)

end System

/-- The action is one of the channel: every send succeeds, requests have a handler at the other
end, and handlers return. -/
def Ends.Regular (ends : Ends RouterFunc) : ChannelMode × Action → Prop
  | (mode, .reqrep sock req) =>
      sock = ends.sock mode ∧
        (ends.config mode.peer).HasHandler (ends.mainc mode.peer) req
  | (mode, .recv sock _) => sock = ends.sock mode
  | (_, .sendFrame flag) | (_, .replySent _ flag) => flag = true
  | (_, .handlerDone outcome) => ∃ ret, outcome = .value ret
  | _ => True

/-- The end whose calls have a number. -/
def owner (no : UInt32) : ChannelMode :=
  if no ≤ halfMax then .initiative else .passive

end SM.Network
