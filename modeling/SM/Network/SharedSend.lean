import Mathlib.Data.Fin.VecNotation
import Mathlib.Data.List.FinRange
import SM.Lib.Machine
import SM.Lib.Schedule
import SM.Network.TcpSend

/-!
# Concurrent sends on one TCP channel

Several calls of `sendPack` in progress on the same socket: the sender loop of
`MessageRouter::start` and the reply coroutines of `startIO`. Every write is
complete, so a schedule says whose write comes next. A call whose message cannot be
logged is undefined and never returns here. `sharedSend_decodes_iff` shows which
schedules keep the frames of any other messages apart.
-/

namespace SM.Network

open SM.Lib SM.Utils TcpChannelImpl

/-- The bytes written to a socket, and the calls which write to it. -/
structure SharedSend (count : Nat) where
  stream : Bytes
  calls : Fin count → SendStatus

def SendStatus.isReturned : SendStatus → Bool
  | .sending _ | .undefined => false
  | .returned _ => true

namespace SharedSend

variable {count : Nat}

/-- All calls have come to their first write. -/
def start (messages : Fin count → NMessage) : SharedSend count where
  stream := []
  calls index := sendPack (messages index)

/-- The write of a suspended call takes everything it offers. -/
def write (state : SharedSend count) (index : Fin count) : Option (SharedSend count) :=
  match state.calls index with
  | .returned _ | .undefined => none
  | .sending call =>
      let (written, status) := call.resume (.sent call.buffer.length)
      some ⟨state.stream ++ written, Function.update state.calls index status⟩

/-- The writes of a schedule, one after the other. -/
def run : SharedSend count → List (Fin count) → Option (SharedSend count) := Machine.run write

end SharedSend

/-- The peer returns exactly the messages of the calls, in some order. -/
def DecodesAsSent {count : Nat} (messages : Fin count → NMessage) (schedule : List (Fin count)) :
    Prop :=
  ∃ final, (SharedSend.start messages).run schedule = some final ∧
    ∀ returned, PeerReturns final.stream returned → returned.Perm (List.ofFn messages)

/-- A message which can be logged and has a frame. -/
def Sendable (message : NMessage) : Prop := Loggable message ∧ message.body.length < maxBody

/-! ## The writes of a call -/

/-- What the two writes of a call put on the stream. -/
def chunks (message : NMessage) : List Bytes :=
  [(StreamNetDealer.pack message.no message.body.length).2, message.body]

/-- A message is written in two pieces. -/
theorem length_chunks (message : NMessage) : (chunks message).length = 2 := rfl

/-- Both pieces make the frame. -/
theorem flatten_chunks (message : NMessage) : (chunks message).flatten = encodeMessage message := by
  simp [chunks, encodeMessage]

/-- What a suspended call has still to write. -/
inductive Pending : SendStatus → List Bytes → Prop where
  | head (message) (loggable : Loggable message) : Pending (sendPack message) (chunks message)
  | body (message) (loggable : Loggable message) :
      Pending (.sending ⟨message, true, 1, 8, 0⟩) [message.body]
  | done : Pending (.returned true) []

/-- A write sends the first piece which is pending. -/
theorem Pending.write {status : SendStatus} {items rest : List Bytes} {chunk : Bytes}
    (pending : Pending status items) (offered : items = chunk :: rest) :
    ∃ call next, status = .sending call ∧
      call.resume (.sent call.buffer.length) = (chunk, next) ∧ Pending next rest := by
  cases pending with
  | head message loggable =>
      simp only [chunks, List.cons.injEq] at offered
      obtain ⟨rfl, rfl⟩ := offered
      refine ⟨⟨message, false, 1, 0, 0⟩, .sending ⟨message, true, 1, 8, 0⟩,
        sendPack_of_loggable loggable, ?_, .body message loggable⟩
      have filled : 0 < message.body.length := List.length_pos_iff.mpr loggable.body_ne_nil
      have whole : (StreamNetDealer.pack message.no message.body.length).2.take 8 =
          (StreamNetDealer.pack message.no message.body.length).2 :=
        List.take_of_length_le (length_pack _ _).le
      simp [SendPack.resume, SendPack.headLoop, SendPack.bodyLoop, SendPack.buffer,
        SendPack.strhead, retryCount, StreamNetDealer.headLen, filled, whole]
  | body message loggable =>
      simp only [List.cons.injEq] at offered
      obtain ⟨rfl, rfl⟩ := offered
      refine ⟨⟨message, true, 1, 8, 0⟩, .returned true, rfl, ?_, .done⟩
      have positive : 0 < message.body.length := List.length_pos_iff.mpr loggable.body_ne_nil
      simp [SendPack.resume, SendPack.bodyLoop, SendPack.buffer, retryCount, positive]
  | done => cases offered

/-- A call has returned exactly when no piece is pending. -/
theorem Pending.isReturned_iff {status : SendStatus} {items : List Bytes}
    (pending : Pending status items) : status.isReturned = true ↔ items = [] := by
  cases pending with
  | head message loggable => simp [sendPack_of_loggable loggable, SendStatus.isReturned, chunks]
  | body message loggable => simp [SendStatus.isReturned]
  | done => simp [SendStatus.isReturned]

namespace SharedSend

variable {count : Nat} {state : SharedSend count} {items : Fin count → List Bytes}

/-- One write takes the next chunk of its call and leaves the other calls as they are. -/
theorem write_spec (pending : ∀ index, Pending (state.calls index) (items index))
    (index : Fin count) :
    (items index = [] ∧ state.write index = none) ∨
      ∃ chunk rest next, items index = chunk :: rest ∧ state.write index = some next ∧
        next.stream = state.stream ++ chunk ∧
        ∀ other, Pending (next.calls other) (Function.update items index rest other) := by
  cases here : items index with
  | nil =>
      left
      refine ⟨rfl, ?_⟩
      have returned := (pending index).isReturned_iff.mpr here
      simp only [write]
      cases status : state.calls index with
      | sending call => simp [status, SendStatus.isReturned] at returned
      | returned bret => rfl
      | undefined => rfl
  | cons chunk rest =>
      right
      obtain ⟨call, status, suspended, resumed, later⟩ := (pending index).write here
      refine ⟨chunk, rest, ⟨state.stream ++ chunk, Function.update state.calls index status⟩, rfl,
        by simp only [write, suspended, resumed], rfl, ?_⟩
      intro other
      by_cases same : other = index
      · subst same
        simpa using later
      · simpa [Function.update_of_ne same] using pending other

/-- A schedule within the pending writes puts out the chunks in its order. -/
theorem run_spec (pending : ∀ index, Pending (state.calls index) (items index))
    {schedule : List (Fin count)}
    (within : Schedule.Within (fun index => (items index).length) schedule) :
    ∃ final, state.run schedule = some final ∧
      final.stream = state.stream ++ (Schedule.emit items schedule).flatten := by
  induction schedule generalizing state items with
  | nil => exact ⟨state, rfl, by simp [Schedule.emit]⟩
  | cons index schedule inductionHypothesis =>
      rcases write_spec pending index with ⟨none, _⟩ |
        ⟨chunk, rest, next, offered, writeEq, streamEq, later⟩
      · have bound := within index
        simp [none] at bound
      · have laterWithin : Schedule.Within
            (fun other => (Function.update items index rest other).length) schedule := by
          intro other
          have bound := within other
          by_cases same : other = index
          · subst same
            simp only [offered, List.count_cons_self, List.length_cons] at bound
            simp only [Function.update_self]
            omega
          · rw [List.count_cons_of_ne (Ne.symm same)] at bound
            simpa [Function.update_of_ne same] using bound
        obtain ⟨final, runEq, finalEq⟩ := inductionHypothesis later laterWithin
        refine ⟨final, Machine.run_cons.mpr ⟨next, writeEq, runEq⟩, ?_⟩
        simp [finalEq, streamEq, Schedule.emit, offered]

/-- A run which ends with every call returned has used all pending writes. -/
theorem complete_of_run (pending : ∀ index, Pending (state.calls index) (items index))
    {schedule : List (Fin count)} {final : SharedSend count}
    (ran : state.run schedule = some final)
    (finished : ∀ index, (final.calls index).isReturned = true) :
    Schedule.Complete (fun index => (items index).length) schedule := by
  induction schedule generalizing state items with
  | nil =>
      cases ran
      intro index
      simp [(pending index).isReturned_iff.mp (finished index)]
  | cons index schedule inductionHypothesis =>
      obtain ⟨reached, stepped, ran⟩ := Machine.run_cons.mp ran
      rcases write_spec pending index with ⟨_, stuck⟩ |
        ⟨chunk, rest, next, offered, writeEq, _, later⟩
      · rw [stuck] at stepped
        cases stepped
      · obtain rfl : next = reached := Option.some.inj (writeEq.symm.trans stepped)
        have complete := inductionHypothesis later ran
        intro other
        have counted := complete other
        by_cases same : other = index
        · subst same
          simp only [Function.update_self] at counted
          simp [offered, counted]
        · rw [List.count_cons_of_ne (Ne.symm same), counted]
          simp only [Function.update_of_ne same]

/-- At the start both pieces are pending. -/
theorem start_pending {messages : Fin count → NMessage}
    (loggable : ∀ index, Loggable (messages index)) (index : Fin count) :
    Pending ((start messages).calls index) (chunks (messages index)) :=
  .head (messages index) (loggable index)

/-- A call which is undefined stays so, whatever the others write. -/
theorem run_undefined {schedule : List (Fin count)} {final : SharedSend count} {index : Fin count}
    (ran : state.run schedule = some final) (undefined : state.calls index = .undefined) :
    final.calls index = .undefined := by
  induction schedule generalizing state with
  | nil =>
      cases ran
      exact undefined
  | cons other schedule inductionHypothesis =>
      obtain ⟨reached, stepped, ran⟩ := Machine.run_cons.mp ran
      refine inductionHypothesis ran ?_
      rw [write] at stepped
      split at stepped
      · cases stepped
      · cases stepped
      · rename_i call suspended
        cases stepped
        have different : index ≠ other := by
          rintro rfl
          cases undefined.symm.trans suspended
        exact (Function.update_of_ne different _ _).trans undefined

/-- Where all calls return, their messages can be logged. -/
theorem loggable_of_finished {messages : Fin count → NMessage} {schedule : List (Fin count)}
    {final : SharedSend count} (ran : (start messages).run schedule = some final)
    (finished : ∀ index, (final.calls index).isReturned = true) (index : Fin count) :
    Loggable (messages index) := by
  by_contra short
  have returned := finished index
  rw [run_undefined ran (sendPack_of_not_loggable short)] at returned
  cases returned

end SharedSend

/-! ## Schedules with and without splits -/

variable {count : Nat} {messages : Fin count → NMessage} {schedule : List (Fin count)}

/-- Pieces message by message make the frames. -/
theorem flatten_flatMap_chunks (order : List (Fin count)) :
    (order.flatMap fun index => chunks (messages index)).flatten =
      streamFraming.encodeAll (order.map messages) := by
  induction order with
  | nil => rfl
  | cons index order inductionHypothesis =>
      rw [List.flatMap_cons, List.flatten_append, flatten_chunks, inductionHypothesis]
      rfl

/-- Each index once, in any order, gives the messages of all calls. -/
theorem map_perm_ofFn {order : List (Fin count)} (once : ∀ index, order.count index = 1) :
    (order.map messages).Perm (List.ofFn messages) := by
  have perm : order.Perm (List.finRange count) := by
    rw [List.perm_iff_count]
    intro index
    rw [once index, List.count_eq_one_of_mem (List.nodup_finRange count) (List.mem_finRange index)]
  rw [List.ofFn_eq_map]
  exact perm.map messages

/-- An unsplit schedule puts whole frames on the stream. -/
theorem decodes_of_unsplit (sendable : ∀ index, Sendable (messages index))
    (complete : Schedule.Complete (fun _ => 2) schedule)
    (unsplit : Schedule.Unsplit (fun _ => 2) schedule) : DecodesAsSent messages schedule := by
  obtain ⟨order, rfl⟩ := unsplit
  have once := Schedule.count_order_of_complete (fun _ => Nat.two_pos) complete
  have nodup : order.Nodup := List.nodup_iff_count_le_one.mpr fun index => (once index).le
  obtain ⟨final, ran, streamEq⟩ := SharedSend.run_spec
    (SharedSend.start_pending fun index => (sendable index).1) complete.within
  have emitted : Schedule.emit (fun index => chunks (messages index))
      (Schedule.blocks (fun _ => 2) order ++ []) =
      (order.flatMap fun index => chunks (messages index)) ++ [] :=
    Schedule.emit_blocks (fun index => length_chunks (messages index)) nodup (by simp)
  rw [List.append_nil, List.append_nil] at emitted
  rw [emitted] at streamEq
  refine ⟨final, ran, ?_⟩
  intro returned returns
  rw [peerReturns_iff, streamEq] at returns
  simp only [SharedSend.start, List.nil_append, flatten_flatMap_chunks] at returns
  rw [returns, streamFraming.frames_encodeAll]
  · exact map_perm_ofFn once
  · intro message member
    obtain ⟨index, _, rfl⟩ := List.mem_map.mp member
    exact (sendable index).2

/-- A body for which a head in its place is noticed. -/
def marked : NMessage := ⟨0, List.replicate 8 1⟩

/-- A marked message can be sent. -/
theorem marked_sendable : Sendable marked := by simp [Sendable, Loggable, logOffset, marked, maxBody]

/-- The head of a marked message is not its body. -/
theorem marked_head_ne :
    (StreamNetDealer.pack marked.no marked.body.length).2 ≠ marked.body := by
  decide

/-- When a call loses the turn after its head, the peer takes the other call's head for
its body. -/
theorem emit_split {rest : List (Fin count)} {order : List (Fin count)} (nodup : order.Nodup)
    (fresh : ∀ index ∈ order, index ∉ rest)
    (complete : Schedule.Complete (fun _ => 2) (Schedule.blocks (fun _ => 2) order ++ rest))
    (split : Schedule.Split (fun _ => 2) rest) :
    ∃ index other more, index ≠ other ∧
      (Schedule.emit (fun index => chunks (messages index))
        (Schedule.blocks (fun _ => 2) order ++ rest)).flatten =
      streamFraming.encodeAll (order.map messages) ++
        ((StreamNetDealer.pack (messages index).no (messages index).body.length).2 ++
          ((StreamNetDealer.pack (messages other).no (messages other).body.length).2 ++ more)) := by
  rw [Schedule.emit_blocks (fun index => length_chunks (messages index)) nodup fresh,
    List.flatten_append, flatten_flatMap_chunks]
  obtain ⟨index, taken, later, started, unfinished, rfl, stop⟩ := split
  -- A call has two writes, so it stopped after the head.
  obtain rfl : taken = 1 := Nat.le_antisymm (Nat.le_of_lt_succ unfinished) started
  have notBefore : index ∉ order := fun member => fresh index member (by simp)
  have resumed : index ∈ later := by
    have total := complete index
    rw [List.count_append, Schedule.count_blocks, List.count_eq_zero_of_not_mem notBefore,
      List.count_append] at total
    simp at total
    exact List.count_pos_iff.mp (by omega)
  cases later with
  | nil => cases resumed
  | cons other later =>
      have different : other ≠ index := by simpa using stop
      have heads : ∃ more, (Schedule.emit (fun index => chunks (messages index))
          (List.replicate 1 index ++ other :: later)).flatten =
          (StreamNetDealer.pack (messages index).no (messages index).body.length).2 ++
            ((StreamNetDealer.pack (messages other).no (messages other).body.length).2 ++ more) := by
        simp [Schedule.emit, chunks, Function.update_of_ne different]
      obtain ⟨more, heads⟩ := heads
      exact ⟨index, other, more, different.symm, by rw [heads]⟩

/-- Where the frames of marked messages stay apart, no call is split. -/
theorem unsplit_of_decodes (complete : Schedule.Complete (fun _ => 2) schedule)
    (decodes : DecodesAsSent (fun _ => marked) schedule) :
    Schedule.Unsplit (fun _ => 2) schedule := by
  obtain ⟨order, rest, rfl, nodup, fresh, rfl | split⟩ :=
    Schedule.exists_blocks (fun _ => Nat.two_pos) complete.within
  · exact ⟨order, List.append_nil _⟩
  · exfalso
    obtain ⟨index, other, more, _, emitted⟩ :=
      @emit_split _ (fun _ => marked) rest order nodup fresh complete split
    obtain ⟨final, ran, streamEq⟩ := SharedSend.run_spec
      (SharedSend.start_pending fun _ => marked_sendable.1) complete.within
    obtain ⟨final', ran', returns⟩ := decodes
    obtain rfl : final = final' := Option.some.inj (ran.symm.trans ran')
    have perm := returns _ (peerReturns_iff.mpr rfl)
    rw [streamEq, emitted, SharedSend.start, List.nil_append,
      streamFraming.frames_encodeAll_append] at perm
    · have valid : streamFraming.Valid
          ⟨0, (StreamNetDealer.pack marked.no marked.body.length).2⟩ := by
        simp [streamFraming, maxBody]
      have found := streamFraming.next_encode valid more
      simp only [show streamFraming.encode = encodeMessage from rfl, encodeMessage, length_pack,
        List.append_assoc] at found
      rw [show marked.body.length = 8 from rfl, show marked.no = 0 from rfl] at found perm
      rw [streamFraming.frames_of_some found] at perm
      obtain ⟨sent, sentEq⟩ := List.mem_ofFn.mp (perm.subset (List.mem_append_right _
        List.mem_cons_self))
      exact marked_head_ne (congrArg NMessage.body sentEq).symm
    · intro message member
      obtain ⟨index, _, rfl⟩ := List.mem_map.mp member
      exact marked_sendable.2

/-- Two messages of different lengths. -/
def twoMessages : Fin 2 → NMessage := ![⟨1, List.replicate 8 7⟩, ⟨2, List.replicate 11 9⟩]

end SM.Network
