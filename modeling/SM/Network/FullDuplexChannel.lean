import Mathlib.Data.List.FinRange
import SM.Lib.Machine
import SM.Lib.Schedule
import SM.Network.StreamNetDealer

/-!
# Full duplex channel

One direction of a `FullDuplexChannel` pair. A call of `sendPack` puts its head
and then its body into a bounded queue, and `recvPack` takes two items for every
message it returns. `fullDuplex_pairs_iff` shows which schedules of concurrent
calls keep a number with its body.
-/

namespace SM.Network

open SM.Lib SM.Utils

/-- Where a call of `sendPack` stands: at the send of its head, at the send of its body, or
at its end. -/
inductive FullDuplexSend where
  | head (message : NMessage)
  | body (message : NMessage)
  | returned

/-- The item which a call sends next, and the call after it. -/
def FullDuplexSend.offer : FullDuplexSend → Option (Bytes × FullDuplexSend)
  | .head message =>
      some ((StreamNetDealer.pack message.no message.body.length).2, .body message)
  | .body message => some (message.body, .returned)
  | .returned => none

/-- The queue of one direction, the calls at its sending end, and the loop of `recvPack` at the
other one. -/
structure FullDuplexChannel (count : Nat) where
  queue : List Bytes
  calls : Fin count → FullDuplexSend
  /-- The local `head` of a `recvPack` which waits for the body. -/
  head : Option Bytes
  returned : List NMessage
  /-- `assert(bret)` failed. -/
  aborted : Bool

/-- The buffer size which `createPair` gives to a `concurrent_channel`. -/
def capacity : Nat := 16

/-- One step of a call, or of the receiving loop. The members of `_netpack` are those left by
the last `pack` or `unpack` at the receiving end. -/
inductive DuplexStep (count : Nat) where
  | put (index : Fin count)
  | take (netpack : StreamNetDealer)

namespace FullDuplexChannel

variable {count : Nat}

def start (messages : Fin count → NMessage) : FullDuplexChannel count where
  queue := []
  calls index := .head (messages index)
  head := none
  returned := []
  aborted := false

/-- The end of `recvPack`. Without assertions a failed `unpack` leaves the old number. -/
def finishRecv (assertions : Bool) (channel : FullDuplexChannel count) (netpack : StreamNetDealer)
    (head body : Bytes) : FullDuplexChannel count :=
  match netpack.unpack head with
  | (bret, netpack) =>
      if assertions && !bret then { channel with head := none, aborted := true }
      else { channel with
        head := none, returned := channel.returned ++ [⟨netpack.getNo, body⟩] }

def step (assertions : Bool) (channel : FullDuplexChannel count) :
    DuplexStep count → Option (FullDuplexChannel count)
  | .put index =>
      if channel.aborted ∨ capacity ≤ channel.queue.length then none
      else
        (channel.calls index).offer.map fun (item, call) =>
          { channel with
            queue := channel.queue ++ [item], calls := Function.update channel.calls index call }
  | .take netpack =>
      match channel.aborted, channel.queue, channel.head with
      | true, _, _ => none
      | false, [], _ => none
      | false, item :: queue, none => some { channel with queue := queue, head := some item }
      | false, item :: queue, some head =>
          some (finishRecv assertions { channel with queue := queue } netpack head item)

def run (assertions : Bool) :
    FullDuplexChannel count → List (DuplexStep count) → Option (FullDuplexChannel count) :=
  Machine.run (step assertions)

end FullDuplexChannel

/-- The calls which put an item, in order. -/
def puts {count : Nat} (schedule : List (DuplexStep count)) : List (Fin count) :=
  schedule.filterMap fun
    | .put index => some index
    | .take _ => none

/-- How many items were taken. -/
def takes {count : Nat} (schedule : List (DuplexStep count)) : Nat :=
  schedule.countP fun
    | .put _ => false
    | .take _ => true

/-- Each of the first `pairs` pairs of items comes from one call. -/
def Paired {count : Nat} (pairs : Nat) (schedule : List (Fin count)) : Prop :=
  ∃ order rest, order.length = pairs ∧ schedule = Schedule.blocks (fun _ => 2) order ++ rest

/-- Every pair returned by `recvPack` was passed to a call, and is returned at most once. -/
def KeepsPairs {count : Nat} (assertions : Bool) (messages : Fin count → NMessage)
    (schedule : List (DuplexStep count)) : Prop :=
  ∀ final, (FullDuplexChannel.start messages).run assertions schedule = some final →
    final.returned.Subperm (List.ofFn messages)

/-! ## Items -/

/-- What a call has still to send. -/
def FullDuplexSend.items : FullDuplexSend → List Bytes
  | .head message => [(StreamNetDealer.pack message.no message.body.length).2, message.body]
  | .body message => [message.body]
  | .returned => []

/-- An offer gives the first item and leaves the others. -/
theorem FullDuplexSend.items_of_offer {call next : FullDuplexSend} {item : Bytes}
    (offered : call.offer = some (item, next)) : call.items = item :: next.items := by
  cases call with
  | head message =>
      cases offered
      rfl
  | body message =>
      cases offered
      rfl
  | returned => cases offered

/-- The messages formed by the first `pairs` pairs of items. -/
def pairItems : Nat → List Bytes → List NMessage
  | pairs + 1, head :: body :: rest =>
      ⟨ntohl ((head.drop 4).take 4), body⟩ :: pairItems pairs rest
  | _, _ => []

/-- The first item of each of these pairs can be unpacked. -/
def HeadsWhole : Nat → List Bytes → Prop
  | pairs + 1, head :: _ :: rest => 8 ≤ head.length ∧ HeadsWhole pairs rest
  | _, _ => True

namespace FullDuplexChannel

variable {count : Nat} {assertions : Bool} {channel next final : FullDuplexChannel count}
  {schedule : List (DuplexStep count)}

/-- What one step does. -/
inductive StepSpec (assertions : Bool) (channel : FullDuplexChannel count) :
    DuplexStep count → FullDuplexChannel count → Prop where
  | put {index item call} (live : channel.aborted = false)
      (room : channel.queue.length < capacity)
      (offered : (channel.calls index).offer = some (item, call)) :
      StepSpec assertions channel (.put index) { channel with
        queue := channel.queue ++ [item], calls := Function.update channel.calls index call }
  | takeHead {netpack item queue} (live : channel.aborted = false)
      (arrived : channel.queue = item :: queue) (waiting : channel.head = none) :
      StepSpec assertions channel (.take netpack)
        { channel with queue := queue, head := some item }
  | takeBody {netpack item queue head} (live : channel.aborted = false)
      (arrived : channel.queue = item :: queue) (waiting : channel.head = some head) :
      StepSpec assertions channel (.take netpack)
        (finishRecv assertions { channel with queue := queue } netpack head item)

/-- What each step does and when it is enabled. -/
theorem step_eq_some_iff {action : DuplexStep count} :
    channel.step assertions action = some next ↔ StepSpec assertions channel action next := by
  constructor
  · intro stepped
    cases action with
    | put index =>
        simp only [step] at stepped
        split at stepped
        · cases stepped
        · rename_i free
          rw [not_or, Bool.not_eq_true] at free
          obtain ⟨⟨item, call⟩, offered, rfl⟩ := Option.map_eq_some_iff.mp stepped
          exact .put free.1 (by omega) offered
    | take netpack =>
        simp only [step] at stepped
        split at stepped
        · cases stepped
        · cases stepped
        · cases stepped
          exact .takeHead ‹_› ‹_› ‹_›
        · cases stepped
          exact .takeBody ‹_› ‹_› ‹_›
  · intro spec
    cases spec with
    | put live room offered =>
        simp [step, live, offered, Nat.not_le.mpr room]
    | takeHead live arrived waiting => simp [step, live, arrived, waiting]
    | takeBody live arrived waiting => simp [step, live, arrived, waiting]

/-- A run starts with its first step. -/
theorem run_cons {action : DuplexStep count} :
    channel.run assertions (action :: schedule) = some final ↔
      ∃ next, StepSpec assertions channel action next ∧
        next.run assertions schedule = some final := by
  simp only [run, Machine.run_cons, step_eq_some_iff]

/-- A head of at least eight bytes is unpacked, and the pair is returned. -/
theorem finishRecv_of_whole {head : Bytes} (whole : 8 ≤ head.length) (netpack : StreamNetDealer)
    (body : Bytes) :
    finishRecv assertions channel netpack head body = { channel with
      head := none
      returned := channel.returned ++ [⟨ntohl ((head.drop 4).take 4), body⟩] } := by
  simp [finishRecv, unpack_of_length netpack whole, StreamNetDealer.getNo]

/-- The end of a receive leaves the calls and the queue. -/
theorem finishRecv_kept (assertions : Bool) (channel : FullDuplexChannel count)
    (netpack : StreamNetDealer) (head body : Bytes) :
    (finishRecv assertions channel netpack head body).calls = channel.calls ∧
      (finishRecv assertions channel netpack head body).queue = channel.queue ∧
      (finishRecv assertions channel netpack head body).head = none := by
  simp only [finishRecv]
  split <;> exact ⟨rfl, rfl, rfl⟩

/-- No call puts more items than it has left. -/
theorem run_within (ran : channel.run assertions schedule = some final) :
    Schedule.Within (fun index => (channel.calls index).items.length) (puts schedule) := by
  induction schedule generalizing channel with
  | nil => intro index; simp [puts]
  | cons action schedule inductionHypothesis =>
      obtain ⟨next, spec, ran⟩ := run_cons.mp ran
      have within := inductionHypothesis ran
      cases spec with
      | @put index item call live room offered =>
          intro other
          have bound := within other
          simp only [puts, List.filterMap_cons] at bound ⊢
          by_cases same : other = index
          · subst same
            simp only [Function.update_self] at bound
            rw [List.count_cons_self, FullDuplexSend.items_of_offer offered, List.length_cons]
            omega
          · simp only [Function.update_of_ne same] at bound
            rwa [List.count_cons_of_ne (Ne.symm same)]
      | takeHead live arrived waiting => exact within
      | takeBody live arrived waiting =>
          intro other
          have bound := within other
          rwa [(finishRecv_kept _ _ _ _ _).1] at bound

/-- No more items are taken than were put. -/
theorem takes_le (ran : channel.run assertions schedule = some final) :
    takes schedule ≤ channel.queue.length + (puts schedule).length := by
  induction schedule generalizing channel with
  | nil => simp [takes]
  | cons action schedule inductionHypothesis =>
      obtain ⟨next, spec, ran⟩ := run_cons.mp ran
      have bound := inductionHypothesis ran
      cases spec with
      | put live room offered =>
          simp [takes, puts] at bound ⊢
          omega
      | takeHead live arrived waiting =>
          simp [takes, puts, arrived] at bound ⊢
          omega
      | takeBody live arrived waiting =>
          simp [takes, puts, arrived, (finishRecv_kept _ _ _ _ _).2.1] at bound ⊢
          omega

/-- The items which the calls put along a schedule. -/
def sent (channel : FullDuplexChannel count) (schedule : List (DuplexStep count)) : List Bytes :=
  Schedule.emit (fun index => (channel.calls index).items) (puts schedule)

/-- All items which the receiving end sees, from the head it has already taken on. -/
def items (channel : FullDuplexChannel count) (schedule : List (DuplexStep count)) : List Bytes :=
  channel.head.toList ++ channel.queue ++ channel.sent schedule

/-- How many pairs the receiving end completes. -/
def pairs (channel : FullDuplexChannel count) (schedule : List (DuplexStep count)) : Nat :=
  (channel.head.toList.length + takes schedule) / 2

/-- A put sends the item which its call offers. -/
theorem sent_put (next : FullDuplexChannel count) {index : Fin count} {item : Bytes}
    {call : FullDuplexSend} (offered : (channel.calls index).offer = some (item, call))
    (same : next.calls = Function.update channel.calls index call) :
    channel.sent (.put index :: schedule) = item :: next.sent schedule := by
  simp only [sent, puts, List.filterMap_cons, Schedule.emit,
    FullDuplexSend.items_of_offer offered, List.cons.injEq, true_and]
  apply Schedule.emit_congr
  intro other _
  rw [same]
  by_cases equal : other = index
  · subst equal
    simp
  · simp [Function.update_of_ne equal]

/-- A step keeps the items, or takes the first two of them as a pair. -/
theorem items_step {action : DuplexStep count}
    (spec : StepSpec assertions channel action next) (schedule : List (DuplexStep count)) :
    (channel.items (action :: schedule) = next.items schedule ∧
      channel.pairs (action :: schedule) = next.pairs schedule ∧
      next.returned = channel.returned) ∨
    ∃ head body, channel.items (action :: schedule) = head :: body :: next.items schedule ∧
      channel.pairs (action :: schedule) = next.pairs schedule + 1 ∧
      (8 ≤ head.length →
        next.returned = channel.returned ++ [⟨ntohl ((head.drop 4).take 4), body⟩]) := by
  cases spec with
  | @put index item call live room offered =>
      left
      refine ⟨?_, by simp [pairs, takes], rfl⟩
      simp only [items]
      rw [sent_put { channel with
        queue := channel.queue ++ [item], calls := Function.update channel.calls index call }
        offered rfl]
      simp
  | takeHead live arrived waiting =>
      left
      refine ⟨?_, ?_, rfl⟩
      · simp [items, sent, puts, arrived, waiting]
      · simp [pairs, takes, waiting]
        omega
  | @takeBody netpack item queue head live arrived waiting =>
      right
      refine ⟨head, item, ?_, ?_, ?_⟩
      · simp [items, sent, puts, arrived, waiting, finishRecv_kept]
      · simp [pairs, takes, waiting, finishRecv_kept]
        omega
      · intro whole
        rw [finishRecv_of_whole whole]

/-- The items taken are paired in their order, as long as the heads among them are whole. -/
theorem run_returned (ran : channel.run assertions schedule = some final)
    (whole : HeadsWhole (channel.pairs schedule) (channel.items schedule)) :
    final.returned =
      channel.returned ++ pairItems (channel.pairs schedule) (channel.items schedule) := by
  induction schedule generalizing channel with
  | nil =>
      cases ran
      have none : final.pairs [] = 0 := by
        simp only [pairs, takes]
        cases final.head <;> simp
      simp [none, pairItems]
  | cons action schedule inductionHypothesis =>
      obtain ⟨next, spec, ran⟩ := run_cons.mp ran
      rcases items_step spec schedule with ⟨itemsEq, pairsEq, returnedEq⟩ |
        ⟨head, body, itemsEq, pairsEq, returnedEq⟩
      · rw [itemsEq, pairsEq] at whole ⊢
        rw [inductionHypothesis ran whole, returnedEq]
      · rw [itemsEq, pairsEq] at whole ⊢
        rw [inductionHypothesis ran whole.2, returnedEq whole.1, pairItems, List.append_assoc]
        rfl

end FullDuplexChannel

/-! ## Schedules which keep pairs together -/

variable {count : Nat} {assertions : Bool} {messages : Fin count → NMessage}
  {schedule : List (DuplexStep count)} {final : FullDuplexChannel count}

/-- The two items of a call. -/
def duplexItems (message : NMessage) : List Bytes :=
  [(StreamNetDealer.pack message.no message.body.length).2, message.body]

/-- At the start every call has its head and its body to put. -/
theorem items_start (messages : Fin count → NMessage) (schedule : List (DuplexStep count)) :
    (FullDuplexChannel.start messages).items schedule =
      Schedule.emit (fun index => duplexItems (messages index)) (puts schedule) := rfl

/-- Every two takes make a pair. -/
theorem pairs_start (messages : Fin count → NMessage) (schedule : List (DuplexStep count)) :
    (FullDuplexChannel.start messages).pairs schedule = takes schedule / 2 := by
  simp [FullDuplexChannel.pairs, FullDuplexChannel.start]

/-- A packed head has its number. -/
@[simp] theorem ntohl_pack (no : UInt32) (len : Nat) :
    ntohl (((StreamNetDealer.pack no len).2.drop 4).take 4) = no := by
  simp [StreamNetDealer.pack, packuint32, List.take_of_length_le]

/-- Heads and bodies in pairs are the messages. -/
theorem pairItems_messages (order : List (Fin count)) (more : Nat) (rest : List Bytes) :
    pairItems (order.length + more)
        ((order.flatMap fun index => duplexItems (messages index)) ++ rest) =
      order.map messages ++ pairItems more rest := by
  induction order with
  | nil => simp
  | cons index order inductionHypothesis =>
      rw [List.length_cons, Nat.add_right_comm]
      simp only [List.flatMap_cons, duplexItems, List.cons_append, List.nil_append, pairItems,
        ntohl_pack, List.map_cons, List.cons.injEq, true_and]
      exact inductionHypothesis

/-- Heads and bodies in pairs leave the heads whole. -/
theorem headsWhole_messages (order : List (Fin count)) (more : Nat) {rest : List Bytes}
    (whole : HeadsWhole more rest) :
    HeadsWhole (order.length + more)
      ((order.flatMap fun index => duplexItems (messages index)) ++ rest) := by
  induction order with
  | nil => simpa using whole
  | cons index order inductionHypothesis =>
      rw [List.length_cons, Nat.add_right_comm]
      exact ⟨by simp, inductionHypothesis⟩

/-- Where head and body are put in pairs, every message comes out as it went in. -/
theorem keepsPairs_of_paired (paired : Paired (takes schedule / 2) (puts schedule)) :
    KeepsPairs assertions messages schedule := by
  intro final ran
  obtain ⟨order, rest, size, split⟩ := paired
  have within : Schedule.Within (fun _ => 2) (puts schedule) :=
    FullDuplexChannel.run_within ran
  rw [split] at within
  obtain ⟨nodup, fresh⟩ := Schedule.nodup_of_within (by simp) within
  have items : (FullDuplexChannel.start messages).items schedule =
      (order.flatMap fun index => duplexItems (messages index)) ++
        Schedule.emit (fun index => duplexItems (messages index)) rest := by
    rw [items_start, split]
    exact Schedule.emit_blocks (by simp [duplexItems]) nodup fresh
  have pairs : (FullDuplexChannel.start messages).pairs schedule = order.length + 0 := by
    rw [pairs_start, ← size, Nat.add_zero]
  have returned := FullDuplexChannel.run_returned ran (by
    rw [items, pairs]
    exact headsWhole_messages order 0 trivial)
  rw [items, pairs, pairItems_messages] at returned
  have calls : order.Subperm (List.finRange count) :=
    List.subperm_of_subset nodup fun index _ => List.mem_finRange index
  obtain ⟨chosen, perm, sublist⟩ := calls
  rw [returned, List.ofFn_eq_map]
  exact ⟨chosen.map messages, by simpa [FullDuplexChannel.start, pairItems] using perm.map messages,
    sublist.map messages⟩

/-- Messages whose body cannot be taken for a head. -/
def markedMessage : Fin count → NMessage := fun _ => ⟨0, List.replicate 8 1⟩

/-- Two runs which stand at the same place with different contents, where the second never
fails to unpack. -/
structure Alike (channel other : FullDuplexChannel count) : Prop where
  calls : ∀ index, (channel.calls index).items.length = (other.calls index).items.length
  queue : channel.queue.length = other.queue.length
  head : channel.head.isSome = other.head.isSome
  live : other.aborted = false
  queueWhole : ∀ item ∈ other.queue, 8 ≤ item.length
  headWhole : ∀ item ∈ other.head, 8 ≤ item.length
  callsWhole : ∀ index, ∀ item ∈ (other.calls index).items, 8 ≤ item.length

/-- A call that offers an item in one run has one to offer in the other. -/
theorem Alike.exists_offer {channel other : FullDuplexChannel count} {index : Fin count}
    {item : Bytes} {call : FullDuplexSend} (alike : Alike channel other)
    (offered : (channel.calls index).offer = some (item, call)) :
    ∃ item' call', (other.calls index).offer = some (item', call') ∧
      call.items.length = call'.items.length := by
  have size := alike.calls index
  rw [FullDuplexSend.items_of_offer offered, List.length_cons] at size
  obtain ⟨item', call', offered'⟩ : ∃ item' call', (other.calls index).offer =
      some (item', call') := by
    cases here : other.calls index <;> simp_all [FullDuplexSend.offer, FullDuplexSend.items]
  rw [FullDuplexSend.items_of_offer offered', List.length_cons] at size
  exact ⟨item', call', offered', Nat.succ.inj size⟩

/-- Channels which are alike have items to take together. -/
theorem Alike.exists_arrived {channel other : FullDuplexChannel count} {item : Bytes}
    {queue : List Bytes} (alike : Alike channel other) (arrived : channel.queue = item :: queue) :
    ∃ item' queue', other.queue = item' :: queue' := by
  apply List.exists_cons_of_length_pos
  rw [← alike.queue, arrived]
  exact Nat.succ_pos _

/-- A put keeps channels alike. -/
theorem Alike.put {channel other : FullDuplexChannel count} {index : Fin count}
    {item item' : Bytes} {call call' : FullDuplexSend} (alike : Alike channel other)
    (offered' : (other.calls index).offer = some (item', call'))
    (size : call.items.length = call'.items.length) :
    Alike
      { channel with
        queue := channel.queue ++ [item], calls := Function.update channel.calls index call }
      { other with
        queue := other.queue ++ [item'], calls := Function.update other.calls index call' } := by
  have items' := FullDuplexSend.items_of_offer offered'
  constructor
  · intro target
    by_cases same : target = index
    · subst same
      simpa using size
    · simpa [Function.update_of_ne same] using alike.calls target
  · simpa using alike.queue
  · exact alike.head
  · exact alike.live
  · intro entry member
    rcases List.mem_append.mp member with member | member
    · exact alike.queueWhole entry member
    · rw [List.mem_singleton.mp member]
      exact alike.callsWhole index _ (by simp [items'])
  · exact alike.headWhole
  · intro target entry member
    by_cases same : target = index
    · subst same
      simp only [Function.update_self] at member
      exact alike.callsWhole target entry (by simp [items', member])
    · simp only [Function.update_of_ne same] at member
      exact alike.callsWhole target entry member

/-- Every step keeps channels alike. -/
theorem Alike.step {channel other next : FullDuplexChannel count} {action : DuplexStep count}
    (alike : Alike channel other)
    (spec : FullDuplexChannel.StepSpec assertions channel action next) :
    ∃ next', FullDuplexChannel.StepSpec assertions other action next' ∧ Alike next next' := by
  cases spec with
  | put live room offered =>
      obtain ⟨item', call', offered', size⟩ := alike.exists_offer offered
      exact ⟨_, .put alike.live (by rw [← alike.queue]; exact room) offered',
        alike.put offered' size⟩
  | @takeHead netpack item queue live arrived waiting =>
      obtain ⟨item', queue', arrived'⟩ := alike.exists_arrived arrived
      have waiting' : other.head = none := by simpa [waiting] using alike.head.symm
      refine ⟨_, .takeHead alike.live arrived' waiting', ?_⟩
      exact {
        calls := alike.calls
        queue := by simpa [arrived, arrived'] using alike.queue
        head := rfl
        live := alike.live
        queueWhole := fun entry member => alike.queueWhole entry (by simp [arrived', member])
        headWhole := by simpa using alike.queueWhole item' (by simp [arrived'])
        callsWhole := alike.callsWhole }
  | @takeBody netpack item queue head live arrived waiting =>
      obtain ⟨item', queue', arrived'⟩ := alike.exists_arrived arrived
      obtain ⟨head', waiting'⟩ : ∃ head', other.head = some head' := by
        refine Option.isSome_iff_exists.mp ?_
        rw [← alike.head, waiting]
        rfl
      have whole := alike.headWhole head' waiting'
      refine ⟨_, .takeBody alike.live arrived' waiting', ?_⟩
      rw [FullDuplexChannel.finishRecv_of_whole whole]
      obtain ⟨callsEq, queueEq, headEq⟩ :=
        FullDuplexChannel.finishRecv_kept assertions { channel with queue := queue } netpack head item
      exact {
        calls := by simpa [callsEq] using alike.calls
        queue := by simpa [queueEq, arrived, arrived'] using alike.queue
        head := by rw [headEq]
        live := alike.live
        queueWhole := fun entry member => alike.queueWhole entry (by simp [arrived', member])
        headWhole := by simp
        callsWhole := alike.callsWhole }

/-- Channels which are alike have the same runs. -/
theorem Alike.run {channel other : FullDuplexChannel count} (alike : Alike channel other)
    (ran : channel.run assertions schedule = some final) :
    ∃ final', other.run assertions schedule = some final' := by
  induction schedule generalizing channel other with
  | nil => exact ⟨other, rfl⟩
  | cons action schedule inductionHypothesis =>
      obtain ⟨next, spec, ran⟩ := FullDuplexChannel.run_cons.mp ran
      obtain ⟨next', spec', alike⟩ := alike.step spec
      obtain ⟨final', ran'⟩ := inductionHypothesis alike ran
      exact ⟨final', FullDuplexChannel.run_cons.mpr ⟨next', spec', ran'⟩⟩

/-- Calls with other messages are alike at the start. -/
theorem start_alike (messages : Fin count → NMessage) :
    Alike (FullDuplexChannel.start messages) (FullDuplexChannel.start markedMessage) := by
  constructor <;> simp [FullDuplexChannel.start, FullDuplexSend.items, markedMessage]

/-- Where every item is as long as a head, the heads are whole. -/
theorem headsWhole_of_all {pairs : Nat} {items : List Bytes}
    (whole : ∀ item ∈ items, 8 ≤ item.length) : HeadsWhole pairs items := by
  fun_induction HeadsWhole pairs items with
  | case1 pairs head body rest inductionHypothesis =>
      exact ⟨whole head (by simp),
        inductionHypothesis fun item member => whole item (by simp [member])⟩
  | case2 => trivial

/-- Every item of a marked message is as long as a head. -/
theorem emitted_whole (schedule : List (Fin count)) :
    ∀ item ∈ Schedule.emit (fun index => duplexItems (markedMessage index)) schedule,
      8 ≤ item.length := by
  intro item member
  obtain ⟨index, member⟩ := Schedule.mem_of_mem_emit member
  simp only [duplexItems, List.mem_cons, List.not_mem_nil, or_false] at member
  rcases member with rfl | rfl
  · simp
  · simp [markedMessage]

/-- The two items of the first pair from two calls are both heads. -/
theorem emit_of_split (messages : Fin count → NMessage) {rest : List (Fin count)}
    (two : 2 ≤ rest.length)
    (split : Schedule.Split (fun _ => 2) rest) :
    ∃ index other more, Schedule.emit (fun index => duplexItems (messages index)) rest =
      (StreamNetDealer.pack (messages index).no (messages index).body.length).2 ::
        (StreamNetDealer.pack (messages other).no (messages other).body.length).2 :: more := by
  obtain ⟨index, taken, later, started, unfinished, rfl, stop⟩ := split
  obtain rfl : taken = 1 := Nat.le_antisymm (Nat.le_of_lt_succ unfinished) started
  cases later with
  | nil => simp at two
  | cons other later =>
      have different : other ≠ index := by simpa using stop
      exact ⟨index, other, _, by
        simp [Schedule.emit, duplexItems, Function.update_of_ne different]; rfl⟩

/-- Where marked messages come out whole, head and body were put in pairs. -/
theorem paired_of_subperm
    (ran : (FullDuplexChannel.start markedMessage).run assertions schedule = some final)
    (keeps : final.returned.Subperm (List.ofFn (markedMessage : Fin count → NMessage))) :
    Paired (takes schedule / 2) (puts schedule) := by
  have bound := FullDuplexChannel.takes_le ran
  have within : Schedule.Within (fun _ => 2) (puts schedule) := FullDuplexChannel.run_within ran
  obtain ⟨order, rest, split, nodup, fresh, ending⟩ := Schedule.exists_blocks (by simp) within
  have size := congrArg List.length split
  rw [List.length_append, Schedule.length_blocks] at size
  simp only [FullDuplexChannel.start, List.length_nil, Nat.zero_add] at bound
  by_cases enough : takes schedule / 2 ≤ order.length
  · refine ⟨order.take (takes schedule / 2),
      Schedule.blocks (fun _ => 2) (order.drop (takes schedule / 2)) ++ rest, by simp [enough], ?_⟩
    rw [← List.append_assoc, ← Schedule.blocks_append, List.take_append_drop, split]
  · exfalso
    have two : 2 ≤ rest.length := by omega
    have splits : Schedule.Split (fun _ => 2) rest := by
      rcases ending with rfl | splits
      · simp at two
      · exact splits
    obtain ⟨index, other, more, heads⟩ := emit_of_split markedMessage two splits
    have items : (FullDuplexChannel.start markedMessage).items schedule =
        (order.flatMap fun index => duplexItems (markedMessage index)) ++
          Schedule.emit (fun index => duplexItems (markedMessage index)) rest := by
      rw [items_start, split]
      exact Schedule.emit_blocks (by simp [duplexItems]) nodup fresh
    have pairs : (FullDuplexChannel.start (markedMessage : Fin count → NMessage)).pairs schedule =
        order.length + (takes schedule / 2 - order.length - 1 + 1) := by
      rw [pairs_start]
      omega
    have returned := FullDuplexChannel.run_returned ran (by
      rw [items_start]
      exact headsWhole_of_all (emitted_whole _))
    rw [items, pairs, heads, pairItems_messages, pairItems] at returned
    obtain ⟨sent, sentEq⟩ := List.mem_ofFn.mp (keeps.subset (by
      rw [returned]
      exact List.mem_append_right _ (List.mem_append_right _ List.mem_cons_self)))
    have bodies := congrArg NMessage.body sentEq
    revert bodies
    simp only [markedMessage]
    decide

/-- Every returned pair was sent, and is returned once, whatever the messages are, if and only
if the two items of each pair taken were put by one call. -/
theorem fullDuplex_pairs_iff {count : Nat} (assertions : Bool) (messages : Fin count → NMessage)
    (schedule : List (DuplexStep count)) (final : FullDuplexChannel count)
    (ran : (FullDuplexChannel.start messages).run assertions schedule = some final) :
    (∀ others : Fin count → NMessage, KeepsPairs assertions others schedule) ↔
      Paired (takes schedule / 2) (puts schedule) := by
  constructor
  · intro keeps
    obtain ⟨marked, ranMarked⟩ := (start_alike messages).run ran
    exact paired_of_subperm ranMarked (keeps markedMessage marked ranMarked)
  · intro paired others
    exact keepsPairs_of_paired paired

/-- Two calls, of which the second starts while the receiver takes the items of the first. -/
def overlapping : List (DuplexStep 2) :=
  [.put 0, .put 0, .take ⟨0, 0⟩, .put 1, .take ⟨0, 0⟩, .put 1, .take ⟨0, 0⟩]

def twoCalls (index : Fin 2) : NMessage := ⟨index.val.toUInt32, List.replicate 8 7⟩

/-- Two calls which overlap. -/
theorem fullDuplex_pairs_iff_two :
    ∃ final, (FullDuplexChannel.start twoCalls).run true overlapping = some final ∧
      ((∀ others : Fin 2 → NMessage, KeepsPairs true others overlapping) ↔
        Paired (takes overlapping / 2) (puts overlapping)) :=
  ⟨_, rfl, fullDuplex_pairs_iff true twoCalls overlapping _ rfl⟩

/-- Two calls which put their heads before their bodies: `recvPack` returns the number of the
first with the head of the second. -/
theorem fullDuplex_swapped :
    ¬ KeepsPairs true twoCalls
      [.put 0, .put 1, .put 0, .put 1, .take ⟨0, 0⟩, .take ⟨0, 0⟩] := by
  intro keeps
  have returned := (keeps _ rfl).subset List.mem_cons_self
  revert returned
  decide

end SM.Network
