import SM.Network.SharedSend
import SM.Network.RequestReply

/-!
# Two ends of a TCP channel

The two processes again, but each joined to a socket: the calls of `sendPack` which are in
progress write their heads and bodies one after the other, and the receive loop reads the bytes in
pieces of any size. Where no call writes in the middle of another's frame, every run is one of the
processes with whole frames on the wires: `bytes_refine`.
-/

namespace SM.Network

open SM.Lib SM.Utils TcpChannelImpl

variable {RouterFunc : Type} {ends : Ends RouterFunc}

/-- Whose call of `sendPack`: that of the sender loop, or that of a reply coroutine. -/
inductive Sending where
  | sender
  | reply (index : Nat)
deriving DecidableEq

/-- What the return of the call lets the process do. -/
def Sending.action (flag : Bool) : Sending → Action
  | .sender => .sendFrame flag
  | .reply index => .replySent index flag

/-- The calls of `sendPack` after an action, which may start one. -/
def startSend (next : Process RouterFunc) (sends : Sending → SendStatus) :
    Action → Sending → SendStatus
  | .takeApp =>
      match next.sender with
      | .sending _ msg => Function.update sends .sender (sendPack msg)
      | _ => sends
  | .wakeReply index =>
      match next.replies[index]? with
      | some ⟨_, _, _, .sending rep⟩ => Function.update sends (.reply index) (sendPack rep)
      | _ => sends
  | _ => sends

/-- The call has written a part of its frame. -/
def SendStatus.midFrame : SendStatus → Bool
  | .sending call => call.inBody || decide (0 < call.hadsend)
  | .returned _ | .undefined => false

/-- One end of the channel: its process, its calls of `sendPack`, the receiving members of its
`TcpChannelImpl`, and the call of `recvPack` in progress with what it has read. -/
structure ByteEnd (RouterFunc : Type) where
  process : Process RouterFunc
  sends : Sending → SendStatus
  channel : TcpChannelImpl
  /-- The local `_netpack` of the call of `recvPack`. -/
  netpack : StreamNetDealer
  reads : List ReadOutcome
  /-- The bytes which this end has written and the other not read. -/
  socket : Bytes

inductive ByteAction where
  /-- An action which neither ends a call of `sendPack` nor one of `recvPack`. -/
  | act (action : Action)
  /-- An `async_send` of a call is done. -/
  | write (sending : Sending) (outcome : WriteOutcome)
  /-- An `async_read_some` of the receive loop is done. -/
  | read (outcome : ReadOutcome)
  /-- `recvPack` returns, and the receive loop comes to its next call. -/
  | receive (netpack : StreamNetDealer)

abbrev ByteSystem (RouterFunc : Type) := ChannelMode → ByteEnd RouterFunc

/-- The return of `sendPack` or `recvPack` is an action of its own. -/
def Action.isInner : Action → Bool
  | .sendFrame _ | .replySent _ _ | .recv _ _ => false
  | _ => true

namespace ByteSystem

def start (ends : Ends RouterFunc) (recvasio : ChannelMode → Bytes)
    (netpack : ChannelMode → StreamNetDealer) : ByteSystem RouterFunc := fun mode =>
  { process := Process.start (ends.config mode)
    sends := fun _ => .returned true
    channel := TcpChannelImpl.new (recvasio mode)
    netpack := netpack mode
    reads := []
    socket := [] }

def act (config : ProcessConfig RouterFunc) (byteEnd : ByteEnd RouterFunc) (action : Action) :
    Option (ByteEnd RouterFunc) :=
  if action.isInner then
    (byteEnd.process.step config action).map fun next =>
      { byteEnd with process := next, sends := startSend next byteEnd.sends action }
  else none

/-- A call writes, and when it returns the coroutine behind it goes on. -/
def write (config : ProcessConfig RouterFunc) (byteEnd : ByteEnd RouterFunc) (sending : Sending)
    (outcome : WriteOutcome) : Option (ByteEnd RouterFunc) :=
  match byteEnd.sends sending with
  | .returned _ | .undefined => none
  | .sending call =>
      let (written, status) := call.resume outcome
      let after := { byteEnd with
        sends := Function.update byteEnd.sends sending status
        socket := byteEnd.socket ++ written }
      match status with
      | .sending _ | .undefined => some after
      | .returned flag =>
          (after.process.step config (sending.action flag)).map fun next =>
            { after with process := next }

/-- The receive loop takes what it has read from the socket of the other end. -/
def read (byteEnd peer : ByteEnd RouterFunc) (outcome : ReadOutcome) :
    Option (ByteEnd RouterFunc × ByteEnd RouterFunc) :=
  match recvPack byteEnd.netpack byteEnd.channel byteEnd.reads with
  | .suspended =>
      if outcome.data <+: peer.socket then
        some ({ byteEnd with reads := byteEnd.reads ++ [outcome] },
          { peer with socket := peer.socket.drop outcome.data.length })
      else none
  | _ => none

def receive (config : ProcessConfig RouterFunc) (sock : UInt32) (byteEnd : ByteEnd RouterFunc)
    (netpack : StreamNetDealer) : Option (ByteEnd RouterFunc) :=
  match recvPack byteEnd.netpack byteEnd.channel byteEnd.reads with
  | .returned msg channel reads =>
      (byteEnd.process.step config (.recv sock msg)).map fun next =>
        { byteEnd with process := next, channel, netpack, reads }
  | _ => none

def step (ends : Ends RouterFunc) (system : ByteSystem RouterFunc) :
    ChannelMode × ByteAction → Option (ByteSystem RouterFunc)
  | (mode, .act action) =>
      (act (ends.config mode) (system mode) action).map (Function.update system mode)
  | (mode, .write sending outcome) =>
      (write (ends.config mode) (system mode) sending outcome).map (Function.update system mode)
  | (mode, .read outcome) =>
      (read (system mode) (system mode.peer) outcome).map fun (byteEnd, peer) =>
        Function.update (Function.update system mode byteEnd) mode.peer peer
  | (mode, .receive netpack) =>
      (receive (ends.config mode) (ends.sock mode) (system mode) netpack).map
        (Function.update system mode)

end ByteSystem

/-- The step is one of the channel: actions are regular, a write takes all it is offered of a
message that has a frame, and not in the middle of the frame of another call, and a read takes at
least one byte. -/
def Ends.RegularBytes (ends : Ends RouterFunc) (system : ByteSystem RouterFunc) :
    ChannelMode × ByteAction → Prop
  | (mode, .act action) => ends.Regular (mode, action)
  | (mode, .write sending outcome) =>
      ∀ call, (system mode).sends sending = .sending call →
        outcome = .sent call.buffer.length ∧ call.message.body.length < maxBody ∧
          ∀ other, other ≠ sending → ((system mode).sends other).midFrame = false
  | (_, .read outcome) => outcome.Progress
  | (_, .receive _) => True

/-! ## Which frames are being written -/

/-- The frame which a call of `sendPack` writes. -/
def Process.unsent (process : Process RouterFunc) (sending : Sending) : List NMessage :=
  process.frame (sending.action true)

variable {config : ProcessConfig RouterFunc} {process next : Process RouterFunc}
  {sends : Sending → SendStatus} {action : Action}

/-- An action inside of a process writes no frame. -/
theorem frame_of_inner (inner : action.isInner = true) : process.frame action = [] := by
  cases action <;> first | rfl | cases inner

/-- A sender which has a message has it unsent. -/
theorem unsent_sender {sock : UInt32} {msg : NMessage} (stage : process.sender = .sending sock msg) :
    process.unsent .sender = [msg] := by
  simp [Process.unsent, Sending.action, Process.frame, stage]

/-- A sender without a message has nothing unsent. -/
theorem unsent_sender_of_not (stage : ∀ sock msg, process.sender ≠ .sending sock msg) :
    process.unsent .sender = [] := by
  unfold Process.unsent Sending.action Process.frame
  cases sender : process.sender with
  | sending sock msg => exact absurd sender (stage sock msg)
  | _ => rfl

/-- The frame of a reply coroutine. -/
def ReplyStage.unsent : ReplyStage → List NMessage
  | .sending rep => [rep]
  | _ => []

/-- A reply coroutine has unsent what its stage says. -/
theorem unsent_reply (process : Process RouterFunc) (index : Nat) :
    process.unsent (.reply index) =
      ((process.replies[index]?).map (·.stage.unsent)).getD [] := by
  simp only [Process.unsent, Sending.action, Process.frame]
  cases found : process.replies[index]? with
  | none => rfl
  | some reply => rcases reply with ⟨sock, msg, received, stage⟩; cases stage <;> rfl

/-- A reply coroutine comes to a stage. -/
theorem unsent_set (next : Process RouterFunc) {index : Nat} {reply changed : ReplyCall}
    (found : process.replies[index]? = some reply)
    (sender : next.sender = process.sender)
    (replies : next.replies = process.replies.set index changed) :
    next.unsent = Function.update process.unsent (.reply index) changed.stage.unsent := by
  funext sending
  cases sending with
  | sender =>
      rw [Function.update_of_ne (by simp)]
      simp only [Process.unsent, Sending.action, Process.frame, sender]
  | reply other =>
      rw [unsent_reply, replies]
      by_cases same : other = index
      · subst same
        obtain ⟨inside, _⟩ := List.getElem?_eq_some_iff.mp found
        rw [Function.update_self, List.getElem?_set_self inside]
        rfl
      · rw [Function.update_of_ne (by simpa using same), unsent_reply,
          List.getElem?_set_ne (Ne.symm same)]

/-- What is unsent depends on the sender and the replies alone. -/
theorem unsent_of_same (sender : next.sender = process.sender)
    (replies : next.replies = process.replies) : next.unsent = process.unsent := by
  funext sending
  cases sending with
  | sender => simp only [Process.unsent, Sending.action, Process.frame, sender]
  | reply index => rw [unsent_reply, unsent_reply, replies]

/-- A reply which has nothing unsent before and after changes nothing. -/
theorem unsent_set_idle {index : Nat} {reply changed : ReplyCall}
    (found : process.replies[index]? = some reply) (sender : next.sender = process.sender)
    (replies : next.replies = process.replies.set index changed)
    (before : reply.stage.unsent = []) (after : changed.stage.unsent = []) :
    next.unsent = process.unsent := by
  rw [unsent_set next found sender replies, after]
  refine Function.update_eq_self_iff.mpr ?_
  rw [unsent_reply, found]
  exact before.symm

/-- An action between two returns of `sendPack` starts one call or none. -/
theorem unsent_act (inner : action.isInner = true) (stepped : process.Stepped config action next) :
    next.unsent = process.unsent ∧ (∀ sends, startSend next sends action = sends) ∨
      ∃ sending msg, process.unsent sending = [] ∧
        next.unsent = Function.update process.unsent sending [msg] ∧
        ∀ sends, startSend next sends action = Function.update sends sending (sendPack msg) := by
  cases stepped with
  | @takeApp sock msg dataapp idle front =>
      have silent : process.unsent .sender = [] := unsent_sender_of_not (by simp [idle])
      cases registered : config.registered sock with
      | true =>
          refine .inr ⟨.sender, msg, silent, ?_, fun sends => by simp [startSend]⟩
          funext sending
          cases sending with
          | sender =>
              rw [Function.update_self]
              apply unsent_sender
              simp only [if_true]
              rfl
          | reply index =>
              rw [Function.update_of_ne (by simp), unsent_reply, unsent_reply]
      | false =>
          refine .inl ⟨?_, fun sends => by simp [startSend]⟩
          exact unsent_of_same (by simp [idle]) rfl
  | @wakeReply index reply rep found stage signalled =>
      refine .inr ⟨.reply index, rep, ?_, ?_, ?_⟩
      · rw [unsent_reply, found]
        simp [stage, ReplyStage.unsent]
      · exact unsent_set (process.setReply index { reply with stage := .sending rep })
          found rfl rfl
      · intro sends
        obtain ⟨inside, _⟩ := List.getElem?_eq_some_iff.mp found
        simp [startSend, Process.setReply, inside]
  | recvRep waiting => cases inner
  | recvReq other => cases inner
  | sendFrame sending => cases inner
  | replySent found stage => cases inner
  | notifySend sent =>
      refine .inl ⟨?_, fun _ => rfl⟩
      funext sending
      cases sending with
      | sender =>
          rw [unsent_sender_of_not (by simp), unsent_sender_of_not (by simp [sent])]
      | reply index => rw [unsent_reply, unsent_reply]
  | @prepareReply index reply router found stage prepared =>
      refine .inl ⟨?_, fun _ => rfl⟩
      exact unsent_set_idle found rfl rfl (by simp [stage, ReplyStage.unsent]) rfl
  | @prepareReplyNull index reply found stage refused assertions =>
      refine .inl ⟨?_, fun _ => rfl⟩
      exact unsent_set_idle found rfl rfl (by simp [stage, ReplyStage.unsent]) rfl
  | @queueIo index reply found stage room received =>
      refine .inl ⟨?_, fun _ => rfl⟩
      exact unsent_set_idle found rfl rfl (by simp [stage, ReplyStage.unsent]) rfl
  | _ => exact .inl ⟨unsent_of_same rfl rfl, fun _ => rfl⟩

/-- A frame which comes leaves what is unsent. -/
theorem unsent_recv {sock : UInt32} {msg : NMessage}
    (stepped : process.Stepped config (.recv sock msg) next) : next.unsent = process.unsent := by
  cases stepped with
  | recvRep waiting => exact unsent_of_same rfl rfl
  | recvReq other =>
      funext sending
      cases sending with
      | sender => rfl
      | reply index =>
          rw [unsent_reply, unsent_reply]
          rcases Nat.lt_trichotomy index process.replies.length with before | here | after
          · simp only
            rw [List.getElem?_append_left before]
          · subst here
            simp [ReplyStage.unsent]
          · rw [List.getElem?_eq_none (by simp; omega), List.getElem?_eq_none (by omega)]

/-- The return of `sendPack` ends one call. -/
theorem unsent_returned {sending : Sending} {flag : Bool}
    (stepped : process.Stepped config (sending.action flag) next) :
    next.unsent = Function.update process.unsent sending [] := by
  cases sending with
  | sender =>
      cases stepped with
      | sendFrame stage =>
          funext other
          cases other with
          | sender => rw [Function.update_self]; exact unsent_sender_of_not (by simp)
          | reply index => rw [Function.update_of_ne (by simp), unsent_reply, unsent_reply]
  | reply index =>
      cases stepped with
      | @replySent index reply rep flag found stage =>
          exact unsent_set (process.setReply index { reply with stage := .finished })
            found rfl rfl

/-- A frame is a request, which has a handler, or the reply of one: both have a head. -/
theorem System.Correlated.loggable_of_unsent {system : System RouterFunc}
    (correlated : System.Correlated ends system) (mode : ChannelMode) {sending : Sending}
    {msg : NMessage}
    (unsent : (system.process mode).unsent sending = [msg]) : Loggable msg := by
  cases sending with
  | sender =>
      obtain ⟨sock, stage⟩ : ∃ sock, (system.process mode).sender = .sending sock msg := by
        simp only [Process.unsent, Sending.action, Process.frame] at unsent
        split at unsent
        · rename_i sock other stage
          cases unsent
          exact ⟨sock, stage⟩
        · cases unsent
      obtain ⟨place, tracks⟩ := correlated.tracked msg.no
      have viewed : ((system.process mode).view (ends.sock mode) msg.no).sender =
          .sending sock msg := by
        simp [Process.view, stage, SenderStage.only]
      rcases tracks.view_cases mode with ⟨own, view⟩ | ⟨_, view⟩
      · obtain ⟨_, _, _, _, sound⟩ := tracks.at_owner own
        rw [view] at viewed
        cases place with
        | sending req =>
            injection viewed with _ same
            rw [← same]
            exact DispatcherConfig.HasHandler.eight_le sound
        | sent req notice transit => cases notice <;> cases viewed
        | _ => cases viewed
      · rw [view, (System.server_calls _ _ _ place).2.2.1] at viewed
        cases viewed
  | reply index =>
      rw [unsent_reply] at unsent
      cases found : (system.process mode).replies[index]? with
      | none => simp [found] at unsent
      | some reply =>
          obtain ⟨no, place, _, _, _, _, only, sound⟩ := correlated.of_reply found
          have stage : reply.stage.unsent = [msg] := by simpa [found] using unsent
          cases place with
          | sent req notice transit =>
              cases transit with
              | replying strrep =>
                  cases only
                  cases stage
                  exact DispatcherConfig.RepliesTo.eight_le sound.2
              | _ => cases only <;> cases stage
          | returned req strrep => cases only; cases stage
          | _ => cases only

/-! ## How far the calls have come -/

/-- Where the call of `sendPack` for a frame stands. It is defined. -/
inductive SendAt : List NMessage → SendStatus → Prop where
  | returned (flag) : SendAt [] (.returned flag)
  | head (msg) (loggable : Loggable msg) : SendAt [msg] (sendPack msg)
  | body (msg) (loggable : Loggable msg) : SendAt [msg] (.sending ⟨msg, true, 1, 8, 0⟩)

/-- A call with nothing to send has returned. -/
theorem SendAt.returned_of_nil {status : SendStatus} (stands : SendAt [] status) :
    ∃ flag, status = .returned flag := by
  cases stands
  exact ⟨_, rfl⟩

/-- A call with something to send is under way. -/
theorem SendAt.sending_of_singleton {msg : NMessage} {status : SendStatus}
    (stands : SendAt [msg] status) : ∃ call, status = .sending call := by
  cases stands with
  | head msg loggable => exact ⟨_, sendPack_of_loggable loggable⟩
  | body msg loggable => exact ⟨_, rfl⟩

/-- What a complete write puts on the socket. -/
theorem SendAt.write {frames : List NMessage} {call : SendPack}
    (stands : SendAt frames (.sending call)) :
    frames = [call.message] ∧ Loggable call.message ∧
      (SendStatus.midFrame (.sending call) = false ∧
          call.resume (.sent call.buffer.length) =
            ((StreamNetDealer.pack call.message.no call.message.body.length).2,
              .sending ⟨call.message, true, 1, 8, 0⟩) ∨
        call = ⟨call.message, true, 1, 8, 0⟩ ∧
          call.resume (.sent call.buffer.length) = (call.message.body, .returned true)) := by
  generalize same : SendStatus.sending call = status at stands
  cases stands with
  | returned flag => cases same
  | head msg loggable =>
      rw [sendPack_of_loggable loggable] at same
      obtain rfl : call = ⟨msg, false, 1, 0, 0⟩ := by
        cases same
        rfl
      have whole (len : Nat) : (StreamNetDealer.pack msg.no len).2.take 8 =
          (StreamNetDealer.pack msg.no len).2 :=
        List.take_of_length_le (by simp)
      have filled : 0 < msg.body.length := List.length_pos_iff.mpr loggable.body_ne_nil
      refine ⟨rfl, loggable, .inl ⟨by rw [sendPack_of_loggable loggable]; rfl, ?_⟩⟩
      simp [SendPack.resume, SendPack.headLoop, SendPack.bodyLoop, SendPack.buffer,
        SendPack.strhead, retryCount, StreamNetDealer.headLen, filled, whole]
  | body msg loggable =>
      cases same
      have positive : 0 < msg.body.length := List.length_pos_iff.mpr loggable.body_ne_nil
      refine ⟨rfl, loggable, .inr ⟨rfl, ?_⟩⟩
      simp [SendPack.resume, SendPack.bodyLoop, SendPack.buffer, retryCount, positive]

/-- The part of a frame which has been written, while its rest has not. -/
inductive Begun (sends : Sending → SendStatus) : Bytes → Prop where
  | between (quiet : ∀ sending, (sends sending).midFrame = false) : Begun sends []
  | head (sending msg) (status : sends sending = .sending ⟨msg, true, 1, 8, 0⟩)
      (loggable : Loggable msg) (short : msg.body.length < maxBody)
      (others : ∀ other, other ≠ sending → (sends other).midFrame = false) :
      Begun sends (StreamNetDealer.pack msg.no msg.body.length).2

variable {sending : Sending} {part : Bytes}

/-- Where no call is inside of a frame, none was begun. -/
theorem Begun.eq_nil (begun : Begun sends part)
    (quiet : ∀ sending, (sends sending).midFrame = false) : part = [] := by
  cases begun with
  | between => rfl
  | head sending msg status loggable short others =>
      have silent := quiet sending
      rw [status] at silent
      cases silent

/-- A begun frame is not a whole one. -/
theorem Begun.stuck (begun : Begun sends part) : nextMessage part = none := by
  cases begun with
  | between => rfl
  | head sending msg status loggable short others =>
      cases found : nextMessage (StreamNetDealer.pack msg.no msg.body.length).2 with
      | none => rfl
      | some decoded =>
          obtain ⟨other, rest⟩ := decoded
          obtain ⟨small, whole⟩ := eq_encode_of_nextMessage found
          have sizes := congrArg List.length whole
          simp only [length_pack, List.length_append, length_encodeMessage] at sizes
          have empty : other.body.length = 0 := by omega
          rw [encodeMessage, List.append_assoc] at whole
          have heads := congrArg (List.take 8) whole
          rw [List.take_of_length_le (length_pack ..).le, List.take_left' (length_pack ..)] at heads
          have lens := congrArg UInt32.toNat (pack_inj heads).2
          have positive : 0 < msg.body.length := List.length_pos_iff.mpr loggable.body_ne_nil
          simp only [UInt32.toNat_ofNat', maxBody] at lens short
          omega

/-- A call which starts has written nothing yet. -/
theorem Begun.start (begun : Begun sends part) {msg : NMessage} {flag : Bool}
    (loggable : Loggable msg) (free : sends sending = .returned flag) :
    Begun (Function.update sends sending (sendPack msg)) part := by
  have quiet : ∀ other, (sends other).midFrame = false →
      (Function.update sends sending (sendPack msg) other).midFrame = false := by
    intro other silent
    by_cases same : other = sending
    · subst same
      rw [Function.update_self, sendPack_of_loggable loggable]
      rfl
    · rwa [Function.update_of_ne same]
  cases begun with
  | between silent => exact .between fun other => quiet other (silent other)
  | head busy msg status logged short others =>
      refine .head busy msg ?_ logged short fun other different => quiet other (others other different)
      rw [Function.update_of_ne, status]
      rintro rfl
      cases free.symm.trans status

namespace ByteEnd

/-- The bytes which one end has written and the other not split into frames. -/
def unread (writer reader : ByteEnd RouterFunc) : Bytes :=
  reader.channel.stream reader.reads ++ writer.socket

/-- The calls of `sendPack` stand where the process is, and no read has failed. -/
structure Sound (byteEnd : ByteEnd RouterFunc) : Prop where
  sends : ∀ sending, SendAt (byteEnd.process.unsent sending) (byteEnd.sends sending)
  progress : ∀ read ∈ byteEnd.reads, read.Progress

/-- The bytes between two ends are whole frames, and perhaps one which is begun. -/
structure Carries (writer reader : ByteEnd RouterFunc) (wire : List NMessage) : Prop where
  short : ∀ msg ∈ wire, streamFraming.Valid msg
  bytes : ∃ part, Begun writer.sends part ∧
    unread writer reader = streamFraming.encodeAll wire ++ part

variable {byteEnd after peer : ByteEnd RouterFunc} {wire : List NMessage}

/-- The frames on the way are those of the wire. -/
theorem Carries.frames (carries : Carries byteEnd peer wire) :
    streamFraming.frames (unread byteEnd peer) = wire := by
  obtain ⟨part, begun, same⟩ := carries.bytes
  rw [same, streamFraming.frames_encodeAll_append carries.short,
    streamFraming.frames_of_none begun.stuck, List.append_nil]

/-- What a reader has not touched is carried as before. -/
theorem Carries.of_reader (carries : Carries peer byteEnd wire)
    (channel : after.channel = byteEnd.channel) (reads : after.reads = byteEnd.reads) :
    Carries peer after wire := by
  refine ⟨carries.short, ?_⟩
  rw [unread, channel, reads]
  exact carries.bytes

/-! ## The steps of one end -/

/-- An action of an end is one of its process. -/
theorem process_of_act (stepped : ByteSystem.act config byteEnd action = some after) :
    action.isInner = true ∧ byteEnd.process.step config action = some after.process := by
  obtain ⟨inner, moved⟩ := Option.ite_none_right_eq_some.mp stepped
  obtain ⟨next, processStep, rfl⟩ := Option.map_eq_some_iff.mp moved
  exact ⟨inner, processStep⟩

/-- An action may start a call, for a message which can be logged. -/
theorem act_spec (sound : byteEnd.Sound)
    (loggable : ∀ sending msg, after.process.unsent sending = [msg] → Loggable msg)
    (stepped : ByteSystem.act config byteEnd action = some after) :
    after.Sound ∧ after.channel = byteEnd.channel ∧ after.reads = byteEnd.reads ∧
      ∀ peer wire, Carries byteEnd peer wire → Carries after peer wire := by
  obtain ⟨inner, moved⟩ := Option.ite_none_right_eq_some.mp stepped
  obtain ⟨next, processStep, rfl⟩ := Option.map_eq_some_iff.mp moved
  have acted := (Process.stepped_of_step processStep).2
  have logged {busy : Sending} {msg : NMessage}
      (unsent : next.unsent = Function.update byteEnd.process.unsent busy [msg]) : Loggable msg :=
    loggable busy msg (by rw [unsent, Function.update_self])
  refine ⟨?_, rfl, rfl, ?_⟩
  · refine ⟨?_, sound.progress⟩
    intro sending
    rcases unsent_act inner acted with ⟨unsent, started⟩ | ⟨busy, msg, _, unsent, started⟩
    · simp only [unsent, started]
      exact sound.sends sending
    · simp only [unsent, started]
      by_cases same : sending = busy
      · subst same
        rw [Function.update_self, Function.update_self]
        exact .head msg (logged unsent)
      · rw [Function.update_of_ne same, Function.update_of_ne same]
        exact sound.sends sending
  · rintro peer wire ⟨short, part, begun, bytes⟩
    refine ⟨short, part, ?_, bytes⟩
    rcases unsent_act inner acted with ⟨_, started⟩ | ⟨busy, msg, free, unsent, started⟩
    · simp only [started]
      exact begun
    · simp only [started]
      have stands := sound.sends busy
      rw [free] at stands
      obtain ⟨flag, status⟩ := stands.returned_of_nil
      exact begun.start (logged unsent) status

/-- Bytes which complete frames bring these frames to the wire. -/
theorem Carries.write {frames : List NMessage} {bytes : Bytes} (carries : Carries byteEnd peer wire)
    (socket : after.socket = byteEnd.socket ++ bytes) (valid : ∀ msg ∈ frames, streamFraming.Valid msg)
    (begun : Begun after.sends part)
    (completed : ∀ before, Begun byteEnd.sends before →
      before ++ bytes = streamFraming.encodeAll frames ++ part) :
    Carries after peer (wire ++ frames) := by
  obtain ⟨before, begunBefore, same⟩ := carries.bytes
  refine ⟨?_, part, begun, ?_⟩
  · intro msg member
    rcases List.mem_append.mp member with old | new
    · exact carries.short msg old
    · exact valid msg new
  · calc unread after peer
        = unread byteEnd peer ++ bytes := by simp only [unread, socket, List.append_assoc]
      _ = streamFraming.encodeAll wire ++ (before ++ bytes) := by rw [same, List.append_assoc]
      _ = streamFraming.encodeAll (wire ++ frames) ++ part := by
          rw [completed before begunBefore, Framing.encodeAll_append, List.append_assoc]

/-- The last write of a call. -/
theorem write_returned (sound : byteEnd.Sound) {call : SendPack} {bytes : Bytes}
    (suspended : byteEnd.sends sending = .sending call)
    (resumed : call.resume (.sent call.buffer.length) = (bytes, .returned true))
    (short : call.message.body.length < maxBody)
    (quiet : ∀ other, other ≠ sending → (byteEnd.sends other).midFrame = false)
    (completed : ∀ before, Begun byteEnd.sends before → before ++ bytes = encodeMessage call.message)
    (stepped : ByteSystem.write config byteEnd sending (.sent call.buffer.length) = some after) :
    after.Sound ∧ after.channel = byteEnd.channel ∧ after.reads = byteEnd.reads ∧
      byteEnd.process.step config (sending.action true) = some after.process ∧
        ∀ peer wire, Carries byteEnd peer wire → Carries after peer (wire ++ [call.message]) := by
  simp only [ByteSystem.write, suspended, resumed] at stepped
  obtain ⟨next, processStep, rfl⟩ := Option.map_eq_some_iff.mp stepped
  refine ⟨⟨?_, sound.progress⟩, rfl, rfl, processStep, ?_⟩
  · intro other
    rw [unsent_returned (Process.stepped_of_step processStep).2]
    by_cases same : other = sending
    · subst same
      simp only [Function.update_self]
      exact .returned true
    · simp only [Function.update_of_ne same]
      exact sound.sends other
  · intro peer wire carries
    have silent : Begun (Function.update byteEnd.sends sending (.returned true)) [] := by
      refine .between fun other => ?_
      by_cases same : other = sending
      · subst same
        rw [Function.update_self]
        rfl
      · rw [Function.update_of_ne same]
        exact quiet other same
    refine carries.write rfl ?_ silent ?_
    · intro msg member
      rw [List.mem_singleton.mp member]
      exact short
    · intro before begun
      rw [completed before begun, List.append_nil]
      exact (List.append_nil _).symm

/-- The write of a head which a body follows. -/
theorem write_head (sound : byteEnd.Sound) {call : SendPack}
    (suspended : byteEnd.sends sending = .sending call) (loggable : Loggable call.message)
    (resumed : call.resume (.sent call.buffer.length) =
      ((StreamNetDealer.pack call.message.no call.message.body.length).2,
        .sending ⟨call.message, true, 1, 8, 0⟩))
    (unsent : byteEnd.process.unsent sending = [call.message])
    (short : call.message.body.length < maxBody)
    (quiet : ∀ other, other ≠ sending → (byteEnd.sends other).midFrame = false)
    (fresh : ∀ before, Begun byteEnd.sends before → before = [])
    (stepped : ByteSystem.write config byteEnd sending (.sent call.buffer.length) = some after) :
    after.Sound ∧ after.channel = byteEnd.channel ∧ after.reads = byteEnd.reads ∧
      after.process = byteEnd.process ∧
        ∀ peer wire, Carries byteEnd peer wire → Carries after peer wire := by
  simp only [ByteSystem.write, suspended, resumed, Option.some.injEq] at stepped
  subst stepped
  refine ⟨⟨?_, sound.progress⟩, rfl, rfl, rfl, ?_⟩
  · intro other
    by_cases same : other = sending
    · subst same
      simp only [Function.update_self, unsent]
      exact .body _ loggable
    · simp only [Function.update_of_ne same]
      exact sound.sends other
  · intro peer wire carries
    rw [← List.append_nil wire]
    refine carries.write rfl (fun _ none => absurd none List.not_mem_nil)
      (.head sending call.message (Function.update_self ..) loggable short ?_) ?_
    · intro other different
      simp only [Function.update_of_ne different]
      exact quiet other different
    · intro before begun
      rw [fresh before begun]
      rfl

/-- A complete write of a call goes on with its frame or ends it. -/
theorem write_spec (sound : byteEnd.Sound) {call : SendPack}
    (suspended : byteEnd.sends sending = .sending call)
    (short : call.message.body.length < maxBody)
    (quiet : ∀ other, other ≠ sending → (byteEnd.sends other).midFrame = false)
    (stepped : ByteSystem.write config byteEnd sending (.sent call.buffer.length) = some after) :
    after.Sound ∧ after.channel = byteEnd.channel ∧ after.reads = byteEnd.reads ∧
      (after.process = byteEnd.process ∧
          (∀ peer wire, Carries byteEnd peer wire → Carries after peer wire) ∨
        byteEnd.process.step config (sending.action true) = some after.process ∧
          ∀ peer wire, Carries byteEnd peer wire →
            Carries after peer (wire ++ [call.message])) := by
  have stands := sound.sends sending
  rw [suspended] at stands
  obtain ⟨unsent, loggable, written⟩ := stands.write
  have nothing (fresh : SendStatus.midFrame (.sending call) = false) :
      ∀ before, Begun byteEnd.sends before → before = [] := by
    intro before begun
    apply begun.eq_nil
    intro other
    by_cases same : other = sending
    · rw [same, suspended, fresh]
    · exact quiet other same
  rcases written with ⟨fresh, resumed⟩ | ⟨inBody, resumed⟩
  · obtain ⟨after, channel, reads, same, carried⟩ :=
      write_head sound suspended loggable resumed unsent short quiet (nothing fresh) stepped
    exact ⟨after, channel, reads, .inl ⟨same, carried⟩⟩
  · -- The begun frame is the one of this call.
    have own : ∀ before, Begun byteEnd.sends before →
        before ++ call.message.body = encodeMessage call.message := by
      intro before begun
      cases begun with
      | between silent =>
          have mid := silent sending
          rw [suspended, inBody] at mid
          cases mid
      | head busy msg status logged small others =>
          have same : busy = sending := by
            by_contra different
            have mid := quiet busy different
            rw [status] at mid
            cases mid
          rw [same, suspended] at status
          cases status
          rfl
    obtain ⟨after, channel, reads, processStep, carried⟩ :=
      write_returned sound suspended resumed short quiet own stepped
    exact ⟨after, channel, reads, .inr ⟨processStep, carried⟩⟩

/-- A read moves bytes from the socket to the channel. -/
theorem read_spec {peer' : ByteEnd RouterFunc} {outcome : ReadOutcome} (sound : byteEnd.Sound)
    (progress : outcome.Progress)
    (stepped : ByteSystem.read byteEnd peer outcome = some (after, peer')) :
    after.Sound ∧ after.process = byteEnd.process ∧ peer'.process = peer.process ∧
      (peer.Sound → peer'.Sound) ∧
      ∀ wire, (Carries peer byteEnd wire → Carries peer' after wire) ∧
        (Carries byteEnd peer wire → Carries after peer' wire) := by
  simp only [ByteSystem.read] at stepped
  split at stepped
  · obtain ⟨⟨rest, front⟩, same⟩ := Option.ite_none_right_eq_some.mp stepped
    cases same
    refine ⟨⟨sound.sends, ?_⟩, rfl, rfl, fun peerSound => ⟨peerSound.sends, peerSound.progress⟩, ?_⟩
    · intro read member
      rcases List.mem_append.mp member with old | new
      · exact sound.progress read old
      · rwa [List.mem_singleton.mp new]
    · intro wire
      refine ⟨?_, fun carries => ⟨carries.short, carries.bytes⟩⟩
      rintro ⟨short, part, begun, bytes⟩
      refine ⟨short, part, begun, ?_⟩
      rw [← bytes]
      simp only [unread, TcpChannelImpl.stream, received, List.flatMap_append, List.flatMap_singleton,
        ← front, List.drop_left, List.append_assoc]
  · cases stepped

/-- A return of `recvPack` takes the first frame off. -/
theorem receive_spec (peer : ByteEnd RouterFunc) {sock : UInt32} {netpack : StreamNetDealer}
    (sound : byteEnd.Sound)
    (stepped : ByteSystem.receive config sock byteEnd netpack = some after) :
    after.Sound ∧ after.sends = byteEnd.sends ∧ after.socket = byteEnd.socket ∧
      ∃ msg, byteEnd.process.step config (.recv sock msg) = some after.process ∧
        ∀ wire, Carries peer byteEnd wire → ∃ rest, wire = msg :: rest ∧ Carries peer after rest := by
  have spec := recvPack_spec byteEnd.netpack byteEnd.channel sound.progress
  simp only [ByteSystem.receive] at stepped
  split at stepped
  · rename_i msg channel reads returned
    obtain ⟨next, processStep, rfl⟩ := Option.map_eq_some_iff.mp stepped
    rw [returned] at spec
    cases spec with
    | returned found suffix =>
        refine ⟨⟨?_, fun read member => sound.progress read (suffix.subset member)⟩, rfl, rfl, msg,
          processStep, ?_⟩
        · intro sending
          simp only [unsent_recv (Process.stepped_of_step processStep).2]
          exact sound.sends sending
        · rintro wire ⟨short, part, begun, bytes⟩
          obtain ⟨small, whole⟩ := eq_encode_of_nextMessage found
          have first : nextMessage (streamFraming.encodeAll wire ++ part) =
              some (msg, channel.stream reads ++ peer.socket) := by
            rw [← bytes, unread, whole, List.append_assoc]
            exact nextMessage_encode small _
          cases wire with
          | nil =>
              rw [Framing.encodeAll_nil, List.nil_append, begun.stuck] at first
              cases first
          | cons front rest =>
              have valid := short front List.mem_cons_self
              rw [Framing.encodeAll_cons, List.append_assoc] at first
              have same := (nextMessage_encode valid _).symm.trans first
              simp only [Option.some.injEq, Prod.mk.injEq] at same
              obtain ⟨rfl, later⟩ := same
              exact ⟨rest, rfl, fun msg member => short msg (List.mem_cons_of_mem _ member), part,
                begun, later.symm⟩
  · cases stepped

end ByteEnd

/-! ## The processes and their frames -/

/-- The processes are the same, and the bytes carry the frames on the wires. -/
structure ByteSystem.Refines (bytes : ByteSystem RouterFunc) (system : System RouterFunc) :
    Prop where
  process : ∀ mode, system.process mode = (bytes mode).process
  sound : ∀ mode, (bytes mode).Sound
  carries : ∀ mode, (bytes mode).Carries (bytes mode.peer) (system.wire mode)

namespace ByteSystem

variable {bytes after : ByteSystem RouterFunc} {system : System RouterFunc} {mode : ChannelMode}
  {byteEnd : ByteEnd RouterFunc}

/-- One end has changed, and so have the wires. -/
theorem Refines.update (refines : bytes.Refines system) {wire : ChannelMode → List NMessage}
    (sound : byteEnd.Sound)
    (written : byteEnd.Carries (bytes mode.peer) (wire mode))
    (read : (bytes mode.peer).Carries byteEnd (wire mode.peer)) :
    Refines (Function.update bytes mode byteEnd) (system.act mode byteEnd.process wire) := by
  have different := ChannelMode.peer_ne mode
  refine ⟨?_, ?_, ?_⟩
  · intro other
    rcases ChannelMode.eq_or_eq_peer mode other with rfl | rfl
    · rw [System.act_process_self, Function.update_self]
    · rw [System.act_process_of_ne different, Function.update_of_ne different]
      exact refines.process _
  · intro other
    rcases ChannelMode.eq_or_eq_peer mode other with rfl | rfl
    · rwa [Function.update_self]
    · rw [Function.update_of_ne different]
      exact refines.sound _
  · intro other
    rcases ChannelMode.eq_or_eq_peer mode other with rfl | rfl
    · rw [Function.update_self, Function.update_of_ne different]
      exact written
    · rw [ChannelMode.peer_peer, Function.update_self, Function.update_of_ne different]
      exact read

/-- A step of a process is one of the system which it refines. -/
theorem Refines.stepped (refines : bytes.Refines system) {action : Action}
    {wire : ChannelMode → List NMessage}
    (processStep : (bytes mode).process.step (ends.config mode) action = some byteEnd.process)
    (wired : system.wires mode action = some wire) :
    system.step ends (mode, action) = some (system.act mode byteEnd.process wire) := by
  simp [System.step, refines.process, processStep, wired]

/-- An action of a process is one of the system. -/
theorem Refines.act (refines : bytes.Refines system) {action : Action}
    (correlated : ∀ upper, system.step ends (mode, action) = some upper →
      System.Correlated ends upper)
    (stepped : ByteSystem.act (ends.config mode) (bytes mode) action = some byteEnd) :
    ∃ upper, system.step ends (mode, action) = some upper ∧
      Refines (Function.update bytes mode byteEnd) upper := by
  obtain ⟨inner, processStep⟩ := ByteEnd.process_of_act stepped
  have wired : system.wires mode action = some system.wire :=
    System.wires_of_frame_nil (by rintro sock msg rfl; cases inner) (frame_of_inner inner)
  have upperStep := refines.stepped processStep wired
  have loggable : ∀ sending msg, byteEnd.process.unsent sending = [msg] → Loggable msg := by
    intro sending msg unsent
    apply (correlated _ upperStep).loggable_of_unsent mode
    rwa [System.act_process_self]
  obtain ⟨sound, channel, reads, written⟩ :=
    ByteEnd.act_spec (refines.sound mode) loggable stepped
  refine ⟨_, upperStep, refines.update sound ?_ ?_⟩
  · exact written _ _ (refines.carries mode)
  · have back := refines.carries mode.peer
    rw [ChannelMode.peer_peer] at back
    exact back.of_reader channel reads

/-- A write of bytes is nothing or the end of a frame. -/
theorem Refines.write (refines : bytes.Refines system) {sending : Sending} {call : SendPack}
    (suspended : (bytes mode).sends sending = .sending call)
    (short : call.message.body.length < maxBody)
    (quiet : ∀ other, other ≠ sending → ((bytes mode).sends other).midFrame = false)
    (stepped : ByteSystem.write (ends.config mode) (bytes mode) sending
      (.sent call.buffer.length) = some byteEnd) :
    Refines (Function.update bytes mode byteEnd) system ∨
      ∃ upper, system.step ends (mode, sending.action true) = some upper ∧
        Refines (Function.update bytes mode byteEnd) upper := by
  have sound := refines.sound mode
  obtain ⟨soundAfter, channel, reads, moved⟩ :=
    ByteEnd.write_spec sound suspended short quiet stepped
  have back := refines.carries mode.peer
  rw [ChannelMode.peer_peer] at back
  have backAfter := back.of_reader channel reads
  rcases moved with ⟨same, written⟩ | ⟨processStep, written⟩
  · left
    have updated := refines.update soundAfter (written _ _ (refines.carries mode)) backAfter
    rwa [same, ← refines.process mode, System.act, Function.update_eq_self] at updated
  · right
    have stands := sound.sends sending
    rw [suspended] at stands
    have frame : (system.process mode).frame (sending.action true) = [call.message] := by
      rw [refines.process mode]
      exact stands.write.1
    have wired : system.wires mode (sending.action true) = some (Function.update system.wire mode
        (system.wire mode ++ [call.message])) := by
      cases sending <;> exact congrArg (fun frames => some (Function.update system.wire mode
        (system.wire mode ++ frames))) frame
    refine ⟨_, refines.stepped processStep wired, refines.update soundAfter ?_ ?_⟩
    · rw [Function.update_self]
      exact written _ _ (refines.carries mode)
    · rw [Function.update_of_ne (ChannelMode.peer_ne mode)]
      exact backAfter

/-- A read of bytes changes nothing for the system. -/
theorem Refines.read (refines : bytes.Refines system) {outcome : ReadOutcome}
    {peer : ByteEnd RouterFunc} (progress : outcome.Progress)
    (stepped : ByteSystem.read (bytes mode) (bytes mode.peer) outcome = some (byteEnd, peer)) :
    Refines (Function.update (Function.update bytes mode byteEnd) mode.peer peer) system := by
  obtain ⟨sound, same, samePeer, peerSound, carried⟩ :=
    ByteEnd.read_spec (refines.sound mode) progress stepped
  have different := ChannelMode.peer_ne mode
  have back := refines.carries mode.peer
  rw [ChannelMode.peer_peer] at back
  refine ⟨?_, ?_, ?_⟩
  · intro other
    rcases ChannelMode.eq_or_eq_peer mode other with rfl | rfl
    · rw [Function.update_of_ne different.symm, Function.update_self, same]
      exact refines.process _
    · rw [Function.update_self, samePeer]
      exact refines.process _
  · intro other
    rcases ChannelMode.eq_or_eq_peer mode other with rfl | rfl
    · rwa [Function.update_of_ne different.symm, Function.update_self]
    · rw [Function.update_self]
      exact peerSound (refines.sound _)
  · intro other
    rcases ChannelMode.eq_or_eq_peer mode other with rfl | rfl
    · rw [Function.update_of_ne different.symm, Function.update_self, Function.update_self]
      exact (carried _).2 (refines.carries _)
    · rw [ChannelMode.peer_peer, Function.update_of_ne different.symm, Function.update_self,
        Function.update_self]
      exact (carried _).1 back

/-- A message which is received is a frame taken from the wire. -/
theorem Refines.receive (refines : bytes.Refines system) {netpack : StreamNetDealer}
    (stepped : ByteSystem.receive (ends.config mode) (ends.sock mode) (bytes mode) netpack =
      some byteEnd) :
    ∃ msg upper, system.step ends (mode, .recv (ends.sock mode) msg) = some upper ∧
      Refines (Function.update bytes mode byteEnd) upper := by
  obtain ⟨sound, sends, socket, msg, processStep, taken⟩ :=
    ByteEnd.receive_spec (bytes mode.peer) (refines.sound mode) stepped
  have back := refines.carries mode.peer
  rw [ChannelMode.peer_peer] at back
  obtain ⟨rest, front, carries⟩ := taken _ back
  have wired : system.wires mode (.recv (ends.sock mode) msg) =
      some (Function.update system.wire mode.peer rest) := by
    simp [System.wires, front]
  refine ⟨msg, _, refines.stepped processStep wired, refines.update sound ?_ ?_⟩
  · rw [Function.update_of_ne (ChannelMode.peer_ne mode).symm]
    have out := refines.carries mode
    refine ⟨out.short, ?_⟩
    rw [sends, ByteEnd.unread, socket]
    exact out.bytes
  · rw [Function.update_self]
    exact carries

/-- Every regular step of the bytes is a regular step of the frames, or none. -/
theorem Refines.step (refines : bytes.Refines system) (correlated : System.Correlated ends system)
    (few : ∀ mode, (bytes mode).process.calls.length < 0x7fffffff)
    {label : ChannelMode × ByteAction} (regular : ends.RegularBytes bytes label)
    (stepped : bytes.step ends label = some after) :
    ∃ labels upper, (∀ label ∈ labels, ends.Regular label) ∧
      Machine.run (System.step ends) system labels = some upper ∧ after.Refines upper ∧
      System.Correlated ends upper := by
  have few' : ∀ mode, (system.process mode).calls.length < 0x7fffffff := fun mode =>
    refines.process mode ▸ few mode
  have single {upper : System RouterFunc} {label : ChannelMode × Action}
      (allowed : ends.Regular label) (moved : system.step ends label = some upper)
      (related : after.Refines upper) : ∃ labels upper, (∀ label ∈ labels, ends.Regular label) ∧
        Machine.run (System.step ends) system labels = some upper ∧ after.Refines upper ∧
        System.Correlated ends upper := by
    refine ⟨[label], upper, ?_, Machine.run_cons.mpr ⟨upper, moved, rfl⟩, related,
      correlated.step few' allowed moved⟩
    intro other member
    rwa [List.mem_singleton.mp member]
  have silent (related : after.Refines system) : ∃ labels upper,
      (∀ label ∈ labels, ends.Regular label) ∧
        Machine.run (System.step ends) system labels = some upper ∧ after.Refines upper ∧
        System.Correlated ends upper :=
    ⟨[], system, fun _ none => absurd none List.not_mem_nil, rfl, related, correlated⟩
  obtain ⟨mode, action⟩ := label
  cases action with
  | act action =>
      obtain ⟨byteEnd, moved, rfl⟩ := Option.map_eq_some_iff.mp stepped
      obtain ⟨upper, moved, related⟩ :=
        refines.act (fun _ upperStep => correlated.step few' regular upperStep) moved
      exact single regular moved related
  | write sending outcome =>
      obtain ⟨byteEnd, moved, rfl⟩ := Option.map_eq_some_iff.mp stepped
      cases suspended : (bytes mode).sends sending with
      | returned flag =>
          rw [ByteSystem.write, suspended] at moved
          cases moved
      | undefined =>
          rw [ByteSystem.write, suspended] at moved
          cases moved
      | sending call =>
          obtain ⟨rfl, short, quiet⟩ := regular call suspended
          rcases refines.write suspended short quiet moved with related | ⟨upper, moved, related⟩
          · exact silent related
          · refine single ?_ moved related
            cases sending <;> rfl
  | read outcome =>
      obtain ⟨⟨byteEnd, peer⟩, moved, rfl⟩ := Option.map_eq_some_iff.mp stepped
      exact silent (refines.read regular moved)
  | receive netpack =>
      obtain ⟨byteEnd, moved, rfl⟩ := Option.map_eq_some_iff.mp stepped
      obtain ⟨msg, upper, moved, related⟩ := refines.receive moved
      refine single ?_ moved related
      rfl

/-- No step of the bytes forgets a call. -/
theorem step_calls_length_le {label : ChannelMode × ByteAction}
    (stepped : bytes.step ends label = some after) (mode : ChannelMode) :
    (bytes mode).process.calls.length ≤ (after mode).process.calls.length := by
  have moved {acting : ChannelMode} {byteEnd : ByteEnd RouterFunc}
      (more : (bytes acting).process.calls.length ≤ byteEnd.process.calls.length) :
      (bytes mode).process.calls.length ≤
        (Function.update bytes acting byteEnd mode).process.calls.length := by
    by_cases same : mode = acting
    · subst same
      rwa [Function.update_self]
    · rw [Function.update_of_ne same]
  have acted {acting : ChannelMode} {action : Action} {next : Process RouterFunc}
      (processStep : (bytes acting).process.step (ends.config acting) action = some next) :
      (bytes acting).process.calls.length ≤ next.calls.length :=
    Process.calls_length_le (Process.stepped_of_step processStep).2
  obtain ⟨acting, action⟩ := label
  cases action with
  | act action =>
      obtain ⟨byteEnd, made, rfl⟩ := Option.map_eq_some_iff.mp stepped
      exact moved (acted (ByteEnd.process_of_act made).2)
  | write sending outcome =>
      obtain ⟨byteEnd, made, rfl⟩ := Option.map_eq_some_iff.mp stepped
      simp only [ByteSystem.write] at made
      split at made
      · cases made
      · cases made
      · split at made
        · cases made
          exact moved (Nat.le_refl _)
        · cases made
          exact moved (Nat.le_refl _)
        · obtain ⟨next, processStep, rfl⟩ := Option.map_eq_some_iff.mp made
          exact moved (acted processStep)
  | read outcome =>
      obtain ⟨⟨byteEnd, peer⟩, made, rfl⟩ := Option.map_eq_some_iff.mp stepped
      simp only [ByteSystem.read] at made
      split at made
      · obtain ⟨_, same⟩ := Option.ite_none_right_eq_some.mp made
        cases same
        dsimp only
        rcases ChannelMode.eq_or_eq_peer acting mode with rfl | rfl
        · rw [Function.update_of_ne (ChannelMode.peer_ne _).symm, Function.update_self]
        · rw [Function.update_self]
      · cases made
  | receive netpack =>
      obtain ⟨byteEnd, made, rfl⟩ := Option.map_eq_some_iff.mp stepped
      simp only [ByteSystem.receive] at made
      split at made
      · obtain ⟨next, processStep, rfl⟩ := Option.map_eq_some_iff.mp made
        exact moved (acted processStep)
      · cases made

/-- Nothing is on the way at the start of either. -/
theorem start_refines (ends : Ends RouterFunc) (recvasio : ChannelMode → Bytes)
    (netpack : ChannelMode → StreamNetDealer) :
    (ByteSystem.start ends recvasio netpack).Refines (System.start ends) where
  process _ := rfl
  sound mode := by
    refine ⟨?_, fun _ none => absurd none List.not_mem_nil⟩
    intro sending
    cases sending with
    | sender => exact .returned true
    | reply index => exact .returned true
  carries mode := ⟨fun _ none => absurd none List.not_mem_nil, [], .between fun _ => rfl, rfl⟩

/-! ## A call which has not returned -/

/-- A regular step of the bytes other than a new call is possible. -/
def CanStep (ends : Ends RouterFunc) (bytes : ByteSystem RouterFunc) : Prop :=
  ∃ label after, ends.RegularBytes bytes label ∧
    (∀ sock req, label.2 ≠ .act (.reqrep sock req)) ∧ bytes.step ends label = some after

/-- A step which is possible and regular, and no new call, is one that can be made. -/
theorem canStep_of_isSome (label : ChannelMode × ByteAction) (regular : ends.RegularBytes bytes label)
    (old : ∀ sock req, label.2 ≠ .act (.reqrep sock req))
    (possible : (bytes.step ends label).isSome = true) : bytes.CanStep ends := by
  obtain ⟨after, stepped⟩ := Option.isSome_iff_exists.mp possible
  exact ⟨label, after, regular, old, stepped⟩

/-- Every message in a call of `sendPack` has a frame. -/
def Short (bytes : ByteSystem RouterFunc) : Prop :=
  ∀ mode sending call, (bytes mode).sends sending = .sending call →
    call.message.body.length < maxBody

/-- A process whose message was written can go on. -/
theorem returns_of_unsent (config : ProcessConfig RouterFunc) {process : Process RouterFunc}
    {sending : Sending} {msg : NMessage} (running : process.crashed = false)
    (unsent : process.unsent sending = [msg]) (flag : Bool) :
    ∃ next, process.step config (sending.action flag) = some next := by
  cases sending with
  | sender =>
      simp only [Process.unsent, Sending.action, Process.frame] at unsent
      split at unsent
      · rename_i sock msg stage
        simp [Process.step, running, Sending.action, Process.sendFrame, stage]
      · cases unsent
  | reply index =>
      rw [unsent_reply] at unsent
      cases found : process.replies[index]? with
      | none => simp [found] at unsent
      | some reply =>
          cases stage : reply.stage with
          | sending rep =>
              simp [Process.step, running, Sending.action, found, Process.replySent, stage]
          | _ => simp [found, stage, ReplyStage.unsent] at unsent

/-- A call of `sendPack` which may write next. -/
theorem Refines.exists_quiet (refines : bytes.Refines system) {sending : Sending} {call : SendPack}
    (suspended : (bytes mode).sends sending = .sending call) :
    ∃ busy call, (bytes mode).sends busy = .sending call ∧
      ∀ other, other ≠ busy → ((bytes mode).sends other).midFrame = false := by
  obtain ⟨part, begun, _⟩ := (refines.carries mode).bytes
  cases begun with
  | between quiet => exact ⟨sending, call, suspended, fun other _ => quiet other⟩
  | head busy msg status logged short others => exact ⟨busy, _, status, others⟩

/-- Where a call is sending, the system can go on. -/
theorem Refines.canStep_of_sending (refines : bytes.Refines system) (short : bytes.Short)
    (running : (bytes mode).process.crashed = false) {sending : Sending} {call : SendPack}
    (suspended : (bytes mode).sends sending = .sending call) : bytes.CanStep ends := by
  obtain ⟨busy, call, suspended, quiet⟩ := refines.exists_quiet suspended
  have possible : ∃ byteEnd, ByteSystem.write (ends.config mode) (bytes mode) busy
      (.sent call.buffer.length) = some byteEnd := by
    simp only [ByteSystem.write, suspended]
    split
    · exact ⟨_, rfl⟩
    · exact ⟨_, rfl⟩
    · rename_i flag resumed
      have stands := (refines.sound mode).sends busy
      rw [suspended] at stands
      obtain ⟨next, returned⟩ := returns_of_unsent (ends.config mode) running
        stands.write.1 flag
      exact ⟨_, Option.map_eq_some_iff.mpr ⟨next, returned, rfl⟩⟩
  obtain ⟨byteEnd, moved⟩ := possible
  refine ⟨(mode, .write busy (.sent call.buffer.length)), _, ?_, by simp,
    Option.map_eq_some_iff.mpr ⟨byteEnd, moved, rfl⟩⟩
  intro other same
  cases suspended.symm.trans same
  exact ⟨rfl, short mode busy call suspended, quiet⟩

/-- A frame on the wire can be received, or a byte of it read. -/
theorem Refines.canStep_of_wire (refines : bytes.Refines system)
    (running : (bytes mode).process.crashed = false) (waiting : system.wire mode.peer ≠ []) :
    bytes.CanStep ends := by
  obtain ⟨front, rest, frames⟩ := List.exists_cons_of_ne_nil waiting
  have back := refines.carries mode.peer
  rw [ChannelMode.peer_peer, frames] at back
  obtain ⟨part, begun, same⟩ := back.bytes
  have valid := back.short front List.mem_cons_self
  rw [Framing.encodeAll_cons, List.append_assoc] at same
  cases result : recvPack (bytes mode).netpack (bytes mode).channel (bytes mode).reads with
  | returned msg channel reads =>
      apply canStep_of_isSome (mode, .receive (bytes mode).netpack) trivial (by simp)
      simp [ByteSystem.step, ByteSystem.receive, result, Process.step, running]
  | thrown next left =>
      -- The stream begins like the frame, whose length is small.
      obtain ⟨whole, large⟩ := large_of_thrown (refines.sound mode).progress result
      have head := congrArg (List.take 4) same
      rw [ByteEnd.unread, List.take_append_of_le_length (by omega)] at head
      have first : ((streamFraming.encode front) ++ (streamFraming.encodeAll rest ++ part)).take 4 =
          htonl (UInt32.ofNat front.body.length) := by
        simp [streamFraming, encodeMessage, StreamNetDealer.pack, packuint32]
      have small : front.body.length < maxBody := valid
      rw [head, first, ntohl_htonl, UInt32.toNat_ofNat'] at large
      exact absurd (Nat.lt_of_le_of_lt (Nat.mod_le _ _) small) (Nat.not_lt.mpr large)
  | suspended =>
      have spec := recvPack_spec (bytes mode).netpack (bytes mode).channel
        (refines.sound mode).progress
      rw [result] at spec
      cases spec with
      | suspended stuck =>
          cases socket : (bytes mode.peer).socket with
          | nil =>
              rw [ByteEnd.unread, socket, List.append_nil] at same
              rw [same] at stuck
              exact absurd ((nextMessage_encode valid _).symm.trans stuck) (by simp)
          | cons byte later =>
              have progress : (ReadOutcome.bytes [byte] (by simp)).Progress := List.cons_ne_nil _ _
              apply canStep_of_isSome (mode, .read (.bytes [byte] (by simp))) progress
                (by simp)
              simp [ByteSystem.step, ByteSystem.read, result, ReadOutcome.data, socket]

/-- While a call has not returned, a step other than a new call is possible. -/
theorem Refines.progress (refines : bytes.Refines system) (short : bytes.Short)
    (correlated : System.Correlated ends system) {call : ReqCall}
    (member : call ∈ (bytes mode).process.calls) (waiting : call.stage.isReturned = false) :
    bytes.CanStep ends := by
  have running : ∀ mode, (bytes mode).process.crashed = false := fun mode =>
    refines.process mode ▸ correlated.running mode
  rw [← refines.process mode] at member
  obtain ⟨⟨mode, action⟩, upper, regular, old, stepped⟩ := correlated.progress member waiting
  obtain ⟨next, processStep, moved⟩ := Option.bind_eq_some_iff.mp stepped
  obtain ⟨wire, wired, _⟩ := Option.map_eq_some_iff.mp moved
  rw [refines.process mode] at processStep
  have returning (sending : Sending) (msg : NMessage)
      (unsent : (bytes mode).process.unsent sending = [msg]) : bytes.CanStep ends := by
    have stands := (refines.sound mode).sends sending
    rw [unsent] at stands
    obtain ⟨call, status⟩ := stands.sending_of_singleton
    exact refines.canStep_of_sending short (running mode) status
  cases inner : action.isInner with
  | true =>
      apply canStep_of_isSome (mode, .act action) regular
      · rintro sock req same
        exact old sock req (ByteAction.act.inj same)
      · simp [ByteSystem.step, ByteSystem.act, inner, processStep]
  | false =>
      cases action with
      | sendFrame flag =>
          cases (Process.stepped_of_step processStep).2 with
          | sendFrame sending => exact returning .sender _ (unsent_sender sending)
      | replySent index flag =>
          cases (Process.stepped_of_step processStep).2 with
          | replySent found stage =>
              apply returning (.reply index)
              rw [unsent_reply, found]
              simp only [Option.map_some, stage]
              rfl
      | recv sock msg =>
          apply refines.canStep_of_wire (running mode)
          intro empty
          simp [System.wires, empty] at wired
      | _ => cases inner

end ByteSystem

/-- Where no call writes in the middle of another's frame, the two ends with the bytes between
them, however these are cut into reads, are the processes with whole frames. So calls return what
the other end has replied to them, and while one has not returned, a step is possible. -/
theorem bytes_refine {RouterFunc : Type} (ends : Ends RouterFunc) (recvasio : ChannelMode → Bytes)
    (netpack : ChannelMode → StreamNetDealer) (labels : List (ChannelMode × ByteAction))
    (bytes : ByteSystem RouterFunc)
    (ran : Machine.run (ByteSystem.step ends) (ByteSystem.start ends recvasio netpack) labels =
      some bytes)
    (regular : Machine.Every (ByteSystem.step ends) ends.RegularBytes
      (ByteSystem.start ends recvasio netpack) labels)
    (few : ∀ mode, (bytes mode).process.calls.length < 0x7fffffff) :
    (∃ upper system, (∀ label ∈ upper, ends.Regular label) ∧
      Machine.run (System.step ends) (System.start ends) upper = some system ∧
      ∀ mode, system.process mode = (bytes mode).process ∧
        system.wire mode = streamFraming.frames ((bytes mode).unread (bytes mode.peer))) ∧
    (∀ mode, ∀ call ∈ (bytes mode).process.calls, ∀ ret, call.stage = .returned ret →
      ∃ strrep, ret = some strrep ∧
        ⟨ends.sock mode.peer, ⟨call.no, call.req⟩, strrep⟩ ∈ (bytes mode.peer).process.handled ∧
        (ends.config mode.peer).RepliesTo (ends.mainc mode.peer) call.req strrep) ∧
    (bytes.Short → ∀ mode, ∀ call ∈ (bytes mode).process.calls, call.stage.isReturned = false →
      bytes.CanStep ends) := by
  -- Only states with few calls are matched, and an end never forgets a call.
  let Related (bytes : ByteSystem RouterFunc) (system : System RouterFunc) : Prop :=
    (∀ mode, (bytes mode).process.calls.length < 0x7fffffff) →
      bytes.Refines system ∧ System.Correlated ends system
  have simulated : ∀ bytes label next system, Related bytes system →
      ends.RegularBytes bytes label → ByteSystem.step ends bytes label = some next →
      ∃ labels after, (∀ label ∈ labels, ends.Regular label) ∧
        Machine.run (System.step ends) system labels = some after ∧ Related next after := by
    intro bytes label next system related regular stepped
    by_cases later : ∀ mode, (next mode).process.calls.length < 0x7fffffff
    · have earlier : ∀ mode, (bytes mode).process.calls.length < 0x7fffffff := fun mode =>
        Nat.lt_of_le_of_lt (ByteSystem.step_calls_length_le stepped mode) (later mode)
      obtain ⟨refines, correlated⟩ := related earlier
      obtain ⟨labels, after, allowed, ran, both⟩ :=
        refines.step correlated earlier regular stepped
      exact ⟨labels, after, allowed, ran, fun _ => both⟩
    · exact ⟨[], system, fun _ none => absurd none List.not_mem_nil, rfl,
        fun few => absurd few later⟩
  have started : Related (ByteSystem.start ends recvasio netpack) (System.start ends) := fun _ =>
    ⟨ByteSystem.start_refines ends recvasio netpack, System.start_correlated ends⟩
  obtain ⟨upper, system, allowed, upperRan, related⟩ := Machine.exists_run_of_simulates
    Related ends.RegularBytes ends.Regular (simulated _ _ _ _) started ran regular
  obtain ⟨refines, correlated⟩ := related few
  refine ⟨⟨upper, system, allowed, upperRan, ?_⟩, ?_, ?_⟩
  · intro mode
    exact ⟨refines.process mode, (refines.carries mode).frames.symm⟩
  · intro mode call member ret stage
    rw [← refines.process mode] at member
    rw [← refines.process mode.peer]
    exact correlated.returned member stage
  · intro short mode call member waiting
    exact refines.progress short correlated member waiting

/-- A call whose head is written and not all read. -/
def headRead : List (ChannelMode × ByteAction) :=
  [(.initiative, .act (.reqrep 3 [0, 0, 0, 1, 0, 0, 0, 2, 5])), (.initiative, .act (.queueApp 0)),
    (.initiative, .act .takeApp), (.initiative, .write .sender (.sent 8)),
    (.passive, .read (.bytes [0, 0, 0] (by decide)))]

/-- The run with a head which is read alone is regular. -/
theorem headRead_regular :
    Machine.Every (ByteSystem.step oneChannel) oneChannel.RegularBytes
      (ByteSystem.start oneChannel (fun _ => []) fun _ => ⟨0, 0⟩) headRead := by
  refine ⟨⟨rfl, hasHandler_single⟩, ?_⟩
  rintro _ ⟨⟩
  refine ⟨trivial, ?_⟩
  rintro _ ⟨⟩
  refine ⟨trivial, ?_⟩
  rintro _ ⟨⟩
  constructor
  · rintro call ⟨⟩
    refine ⟨rfl, by decide, ?_⟩
    rintro (_ | index) different
    · exact absurd rfl different
    · rfl
  · rintro _ ⟨⟩
    exact ⟨List.cons_ne_nil _ _, fun _ _ => trivial⟩

/-- A head which is read before its body comes. -/
theorem bytes_refine_headRead :
    ∃ bytes, Machine.run (ByteSystem.step oneChannel)
        (ByteSystem.start oneChannel (fun _ => []) fun _ => ⟨0, 0⟩) headRead = some bytes ∧
      (bytes .initiative).unread (bytes .passive) = [0, 0, 0, 9, 0, 0, 0, 1] ∧
      ∃ upper system, (∀ label ∈ upper, oneChannel.Regular label) ∧
        Machine.run (System.step oneChannel) (System.start oneChannel) upper = some system ∧
        ∀ mode, system.process mode = (bytes mode).process ∧
          system.wire mode = streamFraming.frames ((bytes mode).unread (bytes mode.peer)) := by
  refine ⟨_, rfl, by decide, (bytes_refine oneChannel (fun _ => []) (fun _ => ⟨0, 0⟩) headRead _ rfl
    headRead_regular ?_).1⟩
  intro mode
  cases mode <;> decide

end SM.Network
