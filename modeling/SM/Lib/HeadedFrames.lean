import Mathlib.Data.List.Induction

/-!
# Frames behind a head of fixed width

A `Format` says how heads are written and read, and which heads a splitter keeps between its calls.
A splitter takes one message from what has arrived; it loses a head that it read without the body
and does not keep. `prompt_iff` says for which cuttings of a list of frames every message comes
out with its last byte.
-/

namespace SM.Lib.HeadedFrames

variable {Head Byte : Type}

/-- What has arrived and was not taken, and the head that was read last. -/
structure Pending (Head Byte : Type) where
  buffer : List Byte
  head : Head
deriving DecidableEq

/-- A head and a body. -/
abbrev Message (Head Byte : Type) := Head × List Byte

/-- One call of a splitter, which may take a message. -/
abbrev Call (Head Byte : Type) :=
  Pending Head Byte → Option (Message Head Byte) × Pending Head Byte

/-! ## Calling a splitter -/

/-- The calls until one takes nothing. After each message the head is set to `initial`. -/
def drain (call : Call Head Byte) (initial : Head) :
    Nat → Pending Head Byte → List (Message Head Byte) × Pending Head Byte
  | 0, pending => ([], pending)
  | fuel + 1, pending =>
      match call pending with
      | (none, after) => ([], after)
      | (some message, after) =>
          let rest := drain call initial fuel ⟨after.buffer, initial⟩
          (message :: rest.1, rest.2)

/-- The messages which were taken so far, and what is pending. -/
structure Reception (Head Byte : Type) where
  delivered : List (Message Head Byte)
  pending : Pending Head Byte

/-- A chunk arrives. -/
def receive (call : Call Head Byte) (initial : Head) (reception : Reception Head Byte)
    (chunk : List Byte) : Reception Head Byte :=
  let buffer := reception.pending.buffer ++ chunk
  let drained := drain call initial (buffer.length + 2) ⟨buffer, reception.pending.head⟩
  ⟨reception.delivered ++ drained.1, drained.2⟩

def receiveAll (call : Call Head Byte) (initial : Head) (chunks : List (List Byte)) :
    Reception Head Byte :=
  chunks.foldl (receive call initial) ⟨[], [], initial⟩

/-- The last chunk comes upon what was received before. -/
theorem receiveAll_concat (call : Call Head Byte) (initial : Head) (chunks : List (List Byte))
    (chunk : List Byte) :
    receiveAll call initial (chunks ++ [chunk]) =
      receive call initial (receiveAll call initial chunks) chunk := by
  simp [receiveAll]

/-! ## Formats -/

/-- Heads of one width which declare the length of a body. -/
structure Format (Head Byte : Type) where
  width : Nat
  encode : Head → List Byte
  parse : List Byte → Head
  len : Head → Nat
  initial : Head
  /-- A head which the next call takes for one that was read. -/
  kept : Head → Bool
  width_pos : 0 < width
  kept_initial : kept initial = false

namespace Format

variable (format : Format Head Byte)

/-- A head that reads back, and the body that it declares. -/
structure Proper (message : Message Head Byte) : Prop where
  width : (format.encode message.1).length = format.width
  parse : format.parse (format.encode message.1) = message.1
  len : format.len message.1 = message.2.length

def frame (message : Message Head Byte) : List Byte :=
  format.encode message.1 ++ message.2

def frameLength (message : Message Head Byte) : Nat :=
  format.width + message.2.length

def frames (messages : List (Message Head Byte)) : List Byte :=
  messages.flatMap format.frame

/-- Takes the body behind a head that was read. Nothing is taken from an empty buffer. -/
def takeBody (pending : Pending Head Byte) :
    Option (Message Head Byte) × Pending Head Byte :=
  let length := format.len pending.head
  if pending.buffer ≠ [] ∧ length ≤ pending.buffer.length then
    (some (pending.head, pending.buffer.take length), ⟨pending.buffer.drop length, pending.head⟩)
  else (none, pending)

/-- One call of the splitter of a format. -/
def split (pending : Pending Head Byte) : Option (Message Head Byte) × Pending Head Byte :=
  if format.kept pending.head then format.takeBody pending
  else if pending.buffer.length < format.width then (none, pending)
  else
    format.takeBody
      ⟨pending.buffer.drop format.width, format.parse (pending.buffer.take format.width)⟩

/-! ## What should be delivered -/

/-- The messages of which all bytes are among the first `count`. -/
def arrived : List (Message Head Byte) → Nat → List (Message Head Byte)
  | [], _ => []
  | message :: messages, count =>
      if format.frameLength message ≤ count then
        message :: arrived messages (count - format.frameLength message)
      else []

/-- Every message was delivered when its last byte came. -/
def Prompt (call : Call Head Byte) (messages : List (Message Head Byte))
    (chunks : List (List Byte)) : Prop :=
  ∀ taken, taken <+: chunks →
    (receiveAll call format.initial taken).delivered =
      format.arrived messages taken.flatten.length

/-- A chunk that ends after `count` bytes ends where the splitter fails: behind the head of an empty
message, or inside of a body whose head is not kept. -/
def Stalls : List (Message Head Byte) → Nat → Prop
  | [], _ => False
  | message :: messages, count =>
      message.2 = [] ∧ count = format.width ∨
        format.kept message.1 = false ∧ format.width ≤ count ∧
          count < format.frameLength message ∨
        format.frameLength message ≤ count ∧
          Stalls messages (count - format.frameLength message)

/-! ## Bytes -/

/-- The bytes which stand for what is pending. -/
def size (pending : Pending Head Byte) : Nat :=
  (if format.kept pending.head then format.width else 0) + pending.buffer.length

def cost : List (Message Head Byte) → Nat
  | [] => 0
  | message :: messages => format.frameLength message + cost messages

variable {format} {message : Message Head Byte} {messages delivered : List (Message Head Byte)}
  {pending after : Pending Head Byte} {fuel count : Nat} {chunks : List (List Byte)}

/-- With the initial head only the buffer counts. -/
@[simp] theorem size_initial (buffer : List Byte) :
    format.size ⟨buffer, format.initial⟩ = buffer.length := by
  simp [size, format.kept_initial]

@[simp] theorem cost_nil : format.cost [] = 0 :=
  rfl

@[simp] theorem cost_cons : format.cost (message :: messages) =
    format.frameLength message + format.cost messages :=
  rfl

@[simp] theorem cost_append : format.cost (delivered ++ messages) =
    format.cost delivered + format.cost messages := by
  induction delivered with
  | nil => rw [List.nil_append, cost_nil, Nat.zero_add]
  | cons message delivered inductionHypothesis =>
      rw [List.cons_append, cost_cons, cost_cons, inductionHypothesis, Nat.add_assoc]

/-- A message that is taken is all that goes. -/
theorem takeBody_some (taken : format.takeBody pending = (some message, after)) :
    message.2.length + after.buffer.length = pending.buffer.length := by
  unfold takeBody at taken
  by_cases enough : pending.buffer ≠ [] ∧ format.len pending.head ≤ pending.buffer.length
  · rw [if_pos enough] at taken
    cases taken
    simp only [List.length_take, List.length_drop]
    omega
  · rw [if_neg enough] at taken
    cases taken

/-- Where no body is taken everything stays. -/
theorem takeBody_none (refused : format.takeBody pending = (none, after)) : after = pending := by
  unfold takeBody at refused
  by_cases enough : pending.buffer ≠ [] ∧ format.len pending.head ≤ pending.buffer.length
  · rw [if_pos enough] at refused
    cases refused
  · rw [if_neg enough] at refused
    cases refused
    rfl

/-- A message and its head account for all bytes that go. -/
theorem split_some (taken : format.split pending = (some message, after)) :
    format.frameLength message + after.buffer.length = format.size pending := by
  unfold split at taken
  rw [frameLength, size]
  by_cases kept : format.kept pending.head = true
  · rw [if_pos kept] at taken ⊢
    rw [Nat.add_assoc, takeBody_some taken]
  · rw [if_neg kept] at taken ⊢
    by_cases short : pending.buffer.length < format.width
    · rw [if_pos short] at taken
      cases taken
    · rw [if_neg short] at taken
      have body := takeBody_some taken
      rw [List.length_drop] at body
      omega

/-- A call which takes nothing makes nothing longer. -/
theorem split_none (refused : format.split pending = (none, after)) :
    format.size after ≤ format.size pending := by
  unfold split at refused
  by_cases kept : format.kept pending.head = true
  · rw [if_pos kept] at refused
    exact Nat.le_of_eq (congrArg format.size (takeBody_none refused))
  · rw [if_neg kept] at refused
    by_cases short : pending.buffer.length < format.width
    · rw [if_pos short] at refused
      cases refused
      exact Nat.le_refl _
    · rw [if_neg short] at refused
      rw [takeBody_none refused, size, size, if_neg kept, List.length_drop]
      split <;> omega

/-- The calls take no more bytes than there are. -/
theorem drain_cost : format.cost (drain format.split format.initial fuel pending).1 +
    format.size (drain format.split format.initial fuel pending).2 ≤ format.size pending := by
  induction fuel generalizing pending with
  | zero => simp [drain]
  | succ fuel inductionHypothesis =>
      rw [drain]
      split
      · next refused =>
          rw [cost_nil, Nat.zero_add]
          exact split_none refused
      · next message after taken =>
          have rest := @inductionHypothesis ⟨after.buffer, format.initial⟩
          have bytes := split_some taken
          rw [size_initial] at rest
          dsimp only
          rw [cost_cons]
          omega

/-- From the initial head more calls than bytes make no difference. -/
theorem drain_initial_stable {more : Nat} {buffer : List Byte} (enough : buffer.length < fuel)
    (enoughMore : buffer.length < more) :
    drain format.split format.initial fuel ⟨buffer, format.initial⟩ =
      drain format.split format.initial more ⟨buffer, format.initial⟩ := by
  induction fuel generalizing more buffer with
  | zero => cases enough
  | succ fuel inductionHypothesis =>
      cases more with
      | zero => cases enoughMore
      | succ more =>
          rw [drain, drain]
          split
          · rfl
          · next message after taken =>
              have bytes := split_some taken
              have positive := format.width_pos
              rw [size_initial, frameLength] at bytes
              rw [@inductionHypothesis more after.buffer (by omega) (by omega)]

/-- The calls end before the fuel does, so that more fuel changes nothing. -/
theorem drain_stable {more : Nat} (enough : pending.buffer.length + 2 ≤ fuel)
    (enoughMore : pending.buffer.length + 2 ≤ more) :
    drain format.split format.initial fuel pending =
      drain format.split format.initial more pending := by
  obtain ⟨fuel, rfl⟩ := Nat.exists_eq_add_of_le' enough
  obtain ⟨more, rfl⟩ := Nat.exists_eq_add_of_le' enoughMore
  rw [← Nat.add_assoc, ← Nat.add_assoc, Nat.add_succ, Nat.add_succ, drain, drain]
  split
  · rfl
  · next message after taken =>
      -- A head that is kept may have an empty body, but then the next call reads one.
      have bytes := split_some taken
      have bound : format.size pending ≤ format.width + pending.buffer.length := by
        rw [size]
        split <;> omega
      rw [frameLength] at bytes
      have same : drain format.split format.initial (fuel + pending.buffer.length + 1)
            ⟨after.buffer, format.initial⟩ =
          drain format.split format.initial (more + pending.buffer.length + 1)
            ⟨after.buffer, format.initial⟩ := drain_initial_stable (by omega) (by omega)
      rw [same]

/-- No more bytes are delivered than have arrived. -/
theorem receiveAll_cost (chunks rest : List (List Byte)) :
    format.cost (receiveAll format.split format.initial (chunks ++ rest)).delivered +
        format.size (receiveAll format.split format.initial (chunks ++ rest)).pending ≤
      format.cost (receiveAll format.split format.initial chunks).delivered +
        format.size (receiveAll format.split format.initial chunks).pending +
        rest.flatten.length := by
  induction rest using List.reverseRecOn with
  | nil => simp
  | append_singleton rest chunk inductionHypothesis =>
      rw [← List.append_assoc, receiveAll_concat, receive]
      have bytes := @drain_cost _ _ format
        ⟨(receiveAll format.split format.initial (chunks ++ rest)).pending.buffer ++ chunk,
          (receiveAll format.split format.initial (chunks ++ rest)).pending.head⟩
        (((receiveAll format.split format.initial (chunks ++ rest)).pending.buffer ++
          chunk).length + 2)
      simp only [size, List.length_append] at bytes inductionHypothesis
      simp only [cost_append, List.flatten_append, List.length_append, List.flatten_singleton,
        size] at bytes ⊢
      omega

/-! ## A buffer which starts with a head -/

@[simp] theorem frames_cons : format.frames (message :: messages) =
    format.encode message.1 ++ (message.2 ++ format.frames messages) := by
  simp [frames, frame]

/-- The first bytes of a list, once the head is there. -/
theorem take_frames (proper : format.Proper message) (headed : format.width ≤ count) :
    (format.frames (message :: messages)).take count = format.encode message.1 ++
      (message.2 ++ format.frames messages).take (count - format.width) := by
  rw [frames_cons, List.take_append, proper.width,
    List.take_of_length_le (by rw [proper.width]; exact headed)]

/-- The first bytes of a list, once its first message is there. -/
theorem take_frames_of_le (proper : format.Proper message)
    (whole : format.frameLength message ≤ count) :
    (format.frames (message :: messages)).take count = format.encode message.1 ++
      (message.2 ++ (format.frames messages).take (count - format.frameLength message)) := by
  rw [frameLength] at whole ⊢
  have body : count - format.width - message.2.length =
      count - (format.width + message.2.length) := Nat.sub_sub ..
  rw [take_frames proper (by omega), List.take_append, List.take_of_length_le (by omega), body]

@[simp] theorem frames_append : format.frames (delivered ++ messages) =
    format.frames delivered ++ format.frames messages :=
  List.flatMap_append

/-- The frames are as long as their messages cost. -/
theorem length_frames (proper : ∀ message ∈ messages, format.Proper message) :
    (format.frames messages).length = format.cost messages := by
  induction messages with
  | nil => rfl
  | cons message messages inductionHypothesis =>
      obtain ⟨first, others⟩ := List.forall_mem_cons.mp proper
      rw [frames_cons, List.length_append, List.length_append, first.width,
        inductionHypothesis others, cost_cons, frameLength, Nat.add_assoc]

/-- Nothing is taken from less than a head. -/
theorem drain_short {buffer : List Byte} (short : buffer.length < format.width) :
    drain format.split format.initial (fuel + 1) ⟨buffer, format.initial⟩ =
      ([], ⟨buffer, format.initial⟩) := by
  simp [drain, split, format.kept_initial, short]

/-- Behind a head of a message, its body is taken. -/
theorem split_head {rest : List Byte} (proper : format.Proper message)
    (headed : format.width ≤ count) (enough : count ≤ format.width + rest.length) :
    format.split ⟨(format.encode message.1 ++ rest).take count, format.initial⟩ =
      format.takeBody ⟨rest.take (count - format.width), message.1⟩ := by
  have long : ¬((format.encode message.1 ++ rest).take count).length < format.width := by
    rw [List.length_take, List.length_append, proper.width]
    omega
  have head : ((format.encode message.1 ++ rest).take count).take format.width =
      format.encode message.1 := by
    rw [List.take_take, Nat.min_eq_left headed, List.take_left' proper.width]
  have body : ((format.encode message.1 ++ rest).take count).drop format.width =
      rest.take (count - format.width) := by
    rw [List.drop_take, List.drop_left' proper.width]
  simp only [split, format.kept_initial, long, head, body, proper.parse, Bool.false_eq_true,
    if_false]

/-- A body that is not all there stays, and so does an empty one at the end of the buffer. -/
theorem drain_waiting (proper : ∀ other ∈ message :: messages, format.Proper other)
    (headed : format.width ≤ count) (total : count ≤ format.cost (message :: messages))
    (waiting : count < format.frameLength message ∨ message.2 = [] ∧ count = format.width) :
    drain format.split format.initial (fuel + 1)
        ⟨(format.frames (message :: messages)).take count, format.initial⟩ =
      ([], ⟨(message.2 ++ format.frames messages).take (count - format.width), message.1⟩) := by
  obtain ⟨first, others⟩ := List.forall_mem_cons.mp proper
  rw [cost_cons, frameLength] at total
  have enough : count ≤ format.width + (message.2 ++ format.frames messages).length := by
    rw [List.length_append, length_frames others]
    omega
  have refused : ¬((message.2 ++ format.frames messages).take (count - format.width) ≠ [] ∧
      format.len message.1 ≤
        ((message.2 ++ format.frames messages).take (count - format.width)).length) := by
    rw [first.len, List.length_take]
    rcases waiting with short | ⟨empty, ended⟩
    · rw [frameLength] at short
      omega
    · simp [ended]
  rw [drain, frames_cons, split_head first headed enough, takeBody, if_neg refused]

/-- A whole message is taken by the first call. -/
theorem drain_message (proper : ∀ other ∈ message :: messages, format.Proper other)
    (total : count ≤ format.cost (message :: messages))
    (whole : format.frameLength message ≤ count)
    (followed : ¬(message.2 = [] ∧ count = format.width)) :
    drain format.split format.initial (fuel + 1)
        ⟨(format.frames (message :: messages)).take count, format.initial⟩ =
      let rest := drain format.split format.initial fuel
        ⟨(format.frames messages).take (count - format.frameLength message), format.initial⟩
      (message :: rest.1, rest.2) := by
  obtain ⟨first, others⟩ := List.forall_mem_cons.mp proper
  rw [cost_cons] at total
  rw [frameLength] at total whole
  have headed : format.width ≤ count := by omega
  have enough : count ≤ format.width + (message.2 ++ format.frames messages).length := by
    rw [List.length_append, length_frames others]
    omega
  have length : ((message.2 ++ format.frames messages).take (count - format.width)).length =
      count - format.width := by
    rw [List.length_take]
    omega
  have nonempty : 0 < count - format.width := by
    by_contra ended
    have empty : message.2.length = 0 := by omega
    exact followed ⟨List.length_eq_zero_iff.mp empty, by omega⟩
  have accepted : (message.2 ++ format.frames messages).take (count - format.width) ≠ [] ∧
      format.len message.1 ≤
        ((message.2 ++ format.frames messages).take (count - format.width)).length := by
    rw [← List.length_pos_iff, length, first.len]
    exact ⟨nonempty, by omega⟩
  have body : ((message.2 ++ format.frames messages).take (count - format.width)).take
      message.2.length = message.2 := by
    rw [List.take_take, Nat.min_eq_left (by omega), List.take_left]
  have rest : ((message.2 ++ format.frames messages).take (count - format.width)).drop
      message.2.length = (format.frames messages).take (count - format.frameLength message) := by
    rw [List.drop_take, List.drop_left, frameLength, Nat.sub_sub]
  rw [drain, frames_cons, split_head first headed enough, takeBody, if_pos accepted]
  simp only [first.len, body, rest]

/-! ## Positions -/

/-- Nothing has arrived before the first message is whole. -/
theorem arrived_of_lt (short : count < format.frameLength message) :
    format.arrived (message :: messages) count = [] := by
  rw [arrived, if_neg (Nat.not_le_of_lt short)]

/-- A whole message has arrived, and the others after it. -/
theorem arrived_of_le (whole : format.frameLength message ≤ count) :
    format.arrived (message :: messages) count =
      message :: format.arrived messages (count - format.frameLength message) := by
  rw [arrived, if_pos whole]

/-- What has arrived has no more bytes than came. -/
theorem cost_arrived : format.cost (format.arrived messages count) ≤ count := by
  induction messages generalizing count with
  | nil => exact Nat.zero_le _
  | cons message messages inductionHypothesis =>
      rw [arrived]
      split
      · have rest := @inductionHypothesis (count - format.frameLength message)
        rw [cost_cons]
        omega
      · exact Nat.zero_le _

variable (format) in
/-- What has arrived comes first. -/
theorem exists_arrived_append (messages : List (Message Head Byte)) (count : Nat) :
    ∃ rest, messages = format.arrived messages count ++ rest := by
  induction messages generalizing count with
  | nil => exact ⟨[], rfl⟩
  | cons message messages inductionHypothesis =>
      rw [arrived]
      split
      · obtain ⟨rest, same⟩ := inductionHypothesis (count - format.frameLength message)
        exact ⟨rest, by rw [List.cons_append, ← same]⟩
      · exact ⟨message :: messages, rfl⟩

variable (format) in
/-- Messages which were delivered have arrived in front of the others. -/
theorem arrived_append (delivered messages : List (Message Head Byte)) (count : Nat) :
    format.arrived (delivered ++ messages) (format.cost delivered + count) =
      delivered ++ format.arrived messages count := by
  induction delivered with
  | nil => rw [List.nil_append, cost_nil, Nat.zero_add, List.nil_append]
  | cons message delivered inductionHypothesis =>
      rw [cost_cons, Nat.add_assoc, List.cons_append, arrived_of_le (Nat.le_add_right _ _),
        Nat.add_sub_cancel_left, inductionHypothesis, List.cons_append]

/-- A list of messages has more bytes than messages. -/
theorem length_add_width_le (nonempty : messages ≠ []) :
    messages.length + format.width ≤ format.cost messages + 1 := by
  have positive := format.width_pos
  induction messages with
  | nil => exact absurd rfl nonempty
  | cons message messages inductionHypothesis =>
      rw [List.length_cons, cost_cons, frameLength]
      by_cases last : messages = []
      · rw [last, List.length_nil]
        omega
      · have rest := inductionHypothesis last
        omega

/-- A chunk which ends in the wrong place does so behind other messages, too. -/
theorem stalls_append (stalls : format.Stalls messages count) :
    format.Stalls (delivered ++ messages) (format.cost delivered + count) := by
  induction delivered with
  | nil => rwa [List.nil_append, cost_nil, Nat.zero_add]
  | cons message delivered inductionHypothesis =>
      refine .inr (.inr ⟨by rw [cost_cons]; omega, ?_⟩)
      rwa [cost_cons, Nat.add_assoc, Nat.add_sub_cancel_left]

/-- A chunk which ends in the wrong place behind some messages does so for the rest. -/
theorem stalls_of_append (more : 0 < count)
    (stalls : format.Stalls (delivered ++ messages) (format.cost delivered + count)) :
    format.Stalls messages count := by
  induction delivered with
  | nil => rwa [List.nil_append, cost_nil, Nat.zero_add] at stalls
  | cons message delivered inductionHypothesis =>
      rw [cost_cons, Nat.add_assoc] at stalls
      rcases stalls with ⟨_, ended⟩ | ⟨_, _, short⟩ | ⟨_, rest⟩
      · rw [frameLength] at ended
        omega
      · omega
      · rw [Nat.add_sub_cancel_left] at rest
        exact inductionHypothesis rest

/-- Before the first byte nothing is wrong. -/
theorem not_stalls_zero : ¬format.Stalls messages 0 := by
  have positive := format.width_pos
  cases messages with
  | nil => exact id
  | cons message messages =>
      rintro (⟨_, ended⟩ | ⟨_, headed, _⟩ | ⟨whole, _⟩)
      · omega
      · omega
      · rw [frameLength] at whole
        omega

/-! ## One chunk -/

variable (format) in
/-- The bytes behind the last message, with the head that was read. -/
def unread (pending : Pending Head Byte) : List Byte :=
  if format.kept pending.head then format.encode pending.head ++ pending.buffer
  else pending.buffer

variable (format) in
/-- A head that was read is kept. -/
structure Resumable (head : Head) : Prop where
  fresh : format.kept head = false → head = format.initial
  width : format.kept head = true → (format.encode head).length = format.width
  parse : format.kept head = true → format.parse (format.encode head) = head

/-- The initial head can be resumed. -/
theorem resumable_initial : format.Resumable format.initial where
  fresh _ := rfl
  width kept := by rw [format.kept_initial] at kept; cases kept
  parse kept := by rw [format.kept_initial] at kept; cases kept

/-- What counts as unread is at most a head longer than the buffer. -/
theorem length_unread_le (resumable : format.Resumable pending.head) :
    (format.unread pending).length ≤ format.width + pending.buffer.length := by
  rw [unread]
  split
  · next kept =>
      have width := resumable.width kept
      rw [List.length_append]
      omega
  · omega

/-- A head that is kept might as well be read again. -/
theorem drain_unread (resumable : format.Resumable pending.head) (chunk : List Byte) :
    drain format.split format.initial (fuel + 1) ⟨pending.buffer ++ chunk, pending.head⟩ =
      drain format.split format.initial (fuel + 1)
        ⟨format.unread pending ++ chunk, format.initial⟩ := by
  rw [unread]
  split
  · next kept =>
      have width := resumable.width kept
      have long : ¬(format.encode pending.head ++ (pending.buffer ++ chunk)).length <
          format.width := by
        rw [List.length_append, width]
        omega
      have same : format.split ⟨pending.buffer ++ chunk, pending.head⟩ =
          format.split ⟨format.encode pending.head ++ pending.buffer ++ chunk,
            format.initial⟩ := by
        simp only [split, kept, format.kept_initial, List.append_assoc, long,
          List.take_left' width, List.drop_left' width, resumable.parse kept, if_true,
          Bool.false_eq_true, if_false]
      rw [drain, drain, same]
  · next unkept =>
      rw [Bool.not_eq_true] at unkept
      rw [resumable.fresh unkept]

/-- A head that is kept can be resumed. -/
theorem Proper.resumable (proper : format.Proper message)
    (kept : format.kept message.1 = true) : format.Resumable message.1 where
  fresh lost := by rw [kept] at lost; cases lost
  width _ := proper.width
  parse _ := proper.parse

/-- A head that is kept waits for its body, and no byte is lost. -/
theorem drain_kept (proper : ∀ other ∈ message :: messages, format.Proper other)
    (headed : format.width ≤ count) (total : count ≤ format.cost (message :: messages))
    (short : count < format.frameLength message) (kept : format.kept message.1 = true) :
    ∃ after, drain format.split format.initial (fuel + 1)
        ⟨(format.frames (message :: messages)).take count, format.initial⟩ = ([], after) ∧
      format.Resumable after.head ∧
      format.unread after = (format.frames (message :: messages)).take count := by
  have first : format.Proper message := proper message List.mem_cons_self
  refine ⟨_, drain_waiting proper headed total (.inl short), first.resumable kept, ?_⟩
  rw [unread, if_pos kept, take_frames first headed]

/-- Where a chunk does not stall, what is whole is delivered and the rest is not lost. -/
theorem drain_frames (proper : ∀ message ∈ messages, format.Proper message)
    (total : count ≤ format.cost messages) (smooth : ¬format.Stalls messages count)
    (fueled : (format.arrived messages count).length < fuel) :
    ∃ after, drain format.split format.initial fuel
        ⟨(format.frames messages).take count, format.initial⟩ =
          (format.arrived messages count, after) ∧
      format.Resumable after.head ∧
      format.frames (format.arrived messages count) ++ format.unread after =
        (format.frames messages).take count := by
  induction messages generalizing count fuel with
  | nil =>
      obtain ⟨fuel, rfl⟩ := Nat.exists_eq_add_of_lt fueled
      refine ⟨⟨[], format.initial⟩, ?_, resumable_initial, ?_⟩
      · rw [show format.frames [] = [] from rfl, List.take_nil]
        exact drain_short format.width_pos
      · simp [frames, arrived, unread, format.kept_initial]
  | cons message messages inductionHypothesis =>
      obtain ⟨first, others⟩ := List.forall_mem_cons.mp proper
      cases fuel with
      | zero => cases fueled
      | succ fuel =>
          by_cases headed : format.width ≤ count
          · by_cases whole : format.frameLength message ≤ count
            · have followed : ¬(message.2 = [] ∧ count = format.width) :=
                fun ended => smooth (.inl ended)
              have rest : ¬format.Stalls messages (count - format.frameLength message) :=
                fun stalls => smooth (.inr (.inr ⟨whole, stalls⟩))
              rw [arrived_of_le whole, List.length_cons] at fueled
              rw [cost_cons] at total
              obtain ⟨after, drained, resumable, bytes⟩ :=
                inductionHypothesis others (by omega) rest (Nat.lt_of_succ_lt_succ fueled)
              refine ⟨after, ?_, resumable, ?_⟩
              · rw [drain_message proper (by rw [cost_cons]; omega) whole followed, drained,
                  arrived_of_le whole]
              · rw [arrived_of_le whole, frames_cons, take_frames_of_le first whole,
                  List.append_assoc, List.append_assoc, bytes]
            · -- The head is there and is kept.
              have short : count < format.frameLength message := Nat.lt_of_not_le whole
              have kept : format.kept message.1 = true := by
                rw [← Bool.not_eq_false]
                exact fun lost => smooth (.inr (.inl ⟨lost, headed, short⟩))
              obtain ⟨after, drained, resumable, bytes⟩ :=
                @drain_kept _ _ _ _ _ fuel _ proper headed total short kept
              rw [arrived_of_lt short]
              exact ⟨after, drained, resumable, bytes⟩
          · have short : count < format.frameLength message := by
              rw [frameLength]
              omega
            refine ⟨⟨(format.frames (message :: messages)).take count, format.initial⟩, ?_,
              resumable_initial, ?_⟩
            · rw [arrived_of_lt short, drain_short]
              rw [List.length_take]
              omega
            · simp [arrived_of_lt short, unread, format.kept_initial, frames]

/-- Where a chunk stalls, a message is late or the bytes of a head are lost. -/
theorem drain_stalled (proper : ∀ message ∈ messages, format.Proper message)
    (total : count ≤ format.cost messages) (stalls : format.Stalls messages count)
    (fueled : (format.arrived messages count).length < fuel)
    (delivers : (drain format.split format.initial fuel
      ⟨(format.frames messages).take count, format.initial⟩).1 = format.arrived messages count) :
    format.cost (format.arrived messages count) +
        format.size (drain format.split format.initial fuel
          ⟨(format.frames messages).take count, format.initial⟩).2 + format.width ≤ count := by
  induction messages generalizing count fuel with
  | nil => exact stalls.elim
  | cons message messages inductionHypothesis =>
      obtain ⟨first, others⟩ := List.forall_mem_cons.mp proper
      cases fuel with
      | zero => cases fueled
      | succ fuel =>
          rcases stalls with ⟨empty, ended⟩ | ⟨lost, headed, short⟩ | ⟨whole, rest⟩
          · -- The empty message is there but nothing is delivered.
            have whole : format.frameLength message ≤ count := by
              rw [frameLength, empty, ended]
              exact Nat.le_refl _
            rw [drain_waiting proper (Nat.le_of_eq ended.symm) total (.inr ⟨empty, ended⟩),
              arrived_of_le whole] at delivers
            cases delivers
          · rw [drain_waiting proper headed total (.inl short), arrived_of_lt short, cost_nil,
              size, if_neg (by rw [lost]; exact Bool.false_ne_true)]
            rw [List.length_take]
            omega
          · by_cases ended : message.2 = [] ∧ count = format.width
            · -- Nothing follows the empty message, so that nothing else can stall.
              have nothing : count - format.frameLength message = 0 := by
                rw [frameLength, ended.1, ended.2]
                exact Nat.sub_self _
              rw [nothing] at rest
              exact absurd rest not_stalls_zero
            · rw [arrived_of_le whole, List.length_cons] at fueled
              rw [cost_cons] at total
              rw [drain_message proper (by rw [cost_cons]; exact total) whole ended,
                arrived_of_le whole] at delivers ⊢
              have inner := inductionHypothesis others (by omega) rest
                (Nat.lt_of_succ_lt_succ fueled) (List.cons.inj delivers).2
              rw [cost_cons]
              dsimp only
              omega

/-! ## All chunks -/

variable (format) in
/-- After some chunks every message was delivered when its last byte came, and the bytes behind it
are not lost. -/
structure Aligned (messages : List (Message Head Byte)) (taken : List Byte)
    (reception : Reception Head Byte) : Prop where
  delivered : reception.delivered = format.arrived messages taken.length
  resumable : format.Resumable reception.pending.head
  bytes : format.frames reception.delivered ++ format.unread reception.pending = taken

variable (format) in
/-- What a chunk finds: the bytes of the messages which are left, and fuel to take them. -/
structure Finds (rest : List (Message Head Byte)) (pending : Pending Head Byte)
    (chunk : List Byte) : Prop where
  proper : ∀ message ∈ rest, format.Proper message
  total : (format.unread pending ++ chunk).length ≤ format.cost rest
  front : (format.frames rest).take (format.unread pending ++ chunk).length =
    format.unread pending ++ chunk
  fueled : (format.arrived rest (format.unread pending ++ chunk).length).length <
    (pending.buffer ++ chunk).length + 2

variable {taken chunk : List Byte} {reception : Reception Head Byte}
  {rest : List (Message Head Byte)}

/-- A chunk completes no more messages than there are calls. -/
theorem length_arrived_lt (resumable : format.Resumable pending.head) (chunk : List Byte) :
    (format.arrived rest (format.unread pending ++ chunk).length).length <
      (pending.buffer ++ chunk).length + 2 := by
  have unread := length_unread_le resumable
  have cost := @cost_arrived _ _ format rest (format.unread pending ++ chunk).length
  rw [List.length_append] at cost ⊢
  rw [List.length_append]
  by_cases none : format.arrived rest ((format.unread pending).length + chunk.length) = []
  · rw [none, List.length_nil]
    omega
  · have count := @length_add_width_le _ _ format _ none
    omega

/-- A reception which has delivered what arrived finds the rest. -/
theorem Aligned.finds (aligned : format.Aligned messages taken reception)
    (proper : ∀ message ∈ messages, format.Proper message)
    (front : taken ++ chunk <+: format.frames messages) :
    ∃ rest, messages = reception.delivered ++ rest ∧
      format.Finds rest reception.pending chunk := by
  obtain ⟨rest, divided⟩ := format.exists_arrived_append messages taken.length
  rw [← aligned.delivered] at divided
  have others : ∀ message ∈ rest, format.Proper message := by
    intro message member
    apply proper
    rw [divided]
    exact List.mem_append_right _ member
  have ahead : format.unread reception.pending ++ chunk <+: format.frames rest := by
    rw [← aligned.bytes, List.append_assoc] at front
    have divided := congrArg format.frames divided
    rw [frames_append] at divided
    rw [divided] at front
    exact (List.prefix_append_right_inj _).mp front
  refine ⟨rest, divided, others, ?_, ?_, length_arrived_lt aligned.resumable chunk⟩
  · rw [← length_frames others]
    exact ahead.length_le
  · exact (List.prefix_iff_eq_take.mp ahead).symm

/-- The bytes that have come are those of the messages that were delivered and the unread ones. -/
theorem Aligned.length (aligned : format.Aligned messages taken reception)
    (proper : ∀ message ∈ messages, format.Proper message) :
    taken.length = format.cost reception.delivered +
      (format.unread reception.pending).length := by
  have bytes := congrArg List.length aligned.bytes
  obtain ⟨rest, divided⟩ := format.exists_arrived_append messages taken.length
  rw [← aligned.delivered] at divided
  have delivered : ∀ message ∈ reception.delivered, format.Proper message := by
    intro message member
    apply proper
    rw [divided]
    exact List.mem_append_left _ member
  rw [List.length_append, length_frames delivered] at bytes
  exact bytes.symm

/-- A chunk is received as if the head were still to be read. -/
theorem receive_unread (resumable : format.Resumable reception.pending.head)
    (chunk : List Byte) :
    receive format.split format.initial reception chunk =
      let drained := drain format.split format.initial
        ((reception.pending.buffer ++ chunk).length + 2)
        ⟨format.unread reception.pending ++ chunk, format.initial⟩
      ⟨reception.delivered ++ drained.1, drained.2⟩ := by
  rw [receive]
  dsimp only
  rw [drain_unread resumable chunk]

/-- The number of bytes after a chunk, from the start of the messages which are left. -/
theorem Aligned.length_append (aligned : format.Aligned messages taken reception)
    (proper : ∀ message ∈ messages, format.Proper message) (chunk : List Byte) :
    (taken ++ chunk).length = format.cost reception.delivered +
      (format.unread reception.pending ++ chunk).length := by
  rw [List.length_append, aligned.length proper, List.length_append, Nat.add_assoc]

/-- A chunk that does not stall keeps the alignment. -/
theorem Aligned.receive (aligned : format.Aligned messages taken reception)
    (proper : ∀ message ∈ messages, format.Proper message)
    (front : taken ++ chunk <+: format.frames messages)
    (smooth : ¬format.Stalls messages (taken ++ chunk).length) :
    format.Aligned messages (taken ++ chunk)
      (receive format.split format.initial reception chunk) := by
  obtain ⟨rest, divided, finds⟩ := aligned.finds proper front
  have position := aligned.length_append proper chunk
  have restSmooth : ¬format.Stalls rest (format.unread reception.pending ++ chunk).length := by
    intro stalls
    rw [position, divided] at smooth
    exact smooth (stalls_append stalls)
  obtain ⟨after, drained, resumable, bytes⟩ :=
    drain_frames finds.proper finds.total restSmooth finds.fueled
  rw [finds.front] at drained bytes
  rw [receive_unread aligned.resumable, drained]
  refine ⟨?_, resumable, ?_⟩
  · rw [position, divided, arrived_append]
  · rw [frames_append, List.append_assoc, bytes, ← List.append_assoc, aligned.bytes]

/-- A chunk that stalls makes a message late or loses the bytes of a head. -/
theorem Aligned.stalled (aligned : format.Aligned messages taken reception)
    (proper : ∀ message ∈ messages, format.Proper message)
    (front : taken ++ chunk <+: format.frames messages)
    (smooth : ¬format.Stalls messages taken.length)
    (stalls : format.Stalls messages (taken ++ chunk).length)
    (prompt : (HeadedFrames.receive format.split format.initial reception chunk).delivered =
      format.arrived messages (taken ++ chunk).length) :
    format.cost (HeadedFrames.receive format.split format.initial reception chunk).delivered +
        format.size (HeadedFrames.receive format.split format.initial reception chunk).pending +
        format.width ≤ (taken ++ chunk).length := by
  obtain ⟨rest, divided, finds⟩ := aligned.finds proper front
  have position := aligned.length_append proper chunk
  have grown : 0 < (format.unread reception.pending ++ chunk).length := by
    apply Nat.pos_of_ne_zero
    intro nothing
    have same : (taken ++ chunk).length = taken.length := by
      rw [aligned.length proper, position, nothing]
      rw [List.length_append] at nothing
      omega
    rw [same] at stalls
    exact smooth stalls
  have restStalls : format.Stalls rest (format.unread reception.pending ++ chunk).length := by
    rw [position, divided] at stalls
    exact stalls_of_append grown stalls
  rw [receive_unread aligned.resumable] at prompt ⊢
  have delivers := prompt
  rw [position, divided, arrived_append, List.append_cancel_left_eq] at delivers
  have lost := drain_stalled finds.proper finds.total restStalls finds.fueled
    (by rw [finds.front]; exact delivers)
  rw [finds.front] at lost
  dsimp only
  rw [position, cost_append, delivers]
  omega

variable (format) in
/-- Before the first chunk everything is delivered that arrived. -/
theorem aligned_start (messages : List (Message Head Byte)) :
    format.Aligned messages [] ⟨[], [], format.initial⟩ := by
  refine ⟨?_, resumable_initial, ?_⟩
  · cases messages with
    | nil => rfl
    | cons message messages =>
        rw [arrived_of_lt]
        have positive := format.width_pos
        rw [frameLength, List.length_nil]
        omega
  · simp [frames, unread, format.kept_initial]

/-- As long as no chunk stalls, the messages come out in time. -/
theorem aligned_receiveAll (proper : ∀ message ∈ messages, format.Proper message)
    (front : chunks.flatten <+: format.frames messages)
    (smooth : ∀ taken, taken <+: chunks → ¬format.Stalls messages taken.flatten.length) :
    format.Aligned messages chunks.flatten
      (receiveAll format.split format.initial chunks) := by
  induction chunks using List.reverseRecOn with
  | nil => exact format.aligned_start messages
  | append_singleton chunks chunk inductionHypothesis =>
      have earlier : ∀ taken, taken <+: chunks → ¬format.Stalls messages taken.flatten.length :=
        fun taken before => smooth taken (before.trans (List.prefix_append _ _))
      have last := smooth _ List.prefix_rfl
      rw [List.flatten_concat] at front last ⊢
      rw [receiveAll_concat]
      have aligned := inductionHypothesis ((List.prefix_append _ _).trans front) earlier
      exact aligned.receive proper front last

/-- If the messages come out in time, no chunk stalls: what was lost would be missing in the
end. -/
theorem Prompt.smooth (prompt : format.Prompt format.split messages chunks)
    (proper : ∀ message ∈ messages, format.Proper message)
    (cut : chunks.flatten = format.frames messages) {taken : List (List Byte)}
    (before : taken <+: chunks) :
    ∀ earlier, earlier <+: taken → ¬format.Stalls messages earlier.flatten.length := by
  induction taken using List.reverseRecOn with
  | nil =>
      intro earlier inside
      rw [List.prefix_nil.mp inside]
      exact not_stalls_zero
  | append_singleton taken chunk inductionHypothesis =>
      have first : taken <+: chunks := (List.prefix_append _ _).trans before
      have smooth := inductionHypothesis first
      intro earlier inside
      rcases List.prefix_concat_iff.mp inside with rfl | inside
      · intro stalls
        obtain ⟨rest, rfl⟩ := before
        have front : taken.flatten ++ chunk <+: format.frames messages := by
          rw [← cut, List.flatten_append, List.flatten_concat]
          exact List.prefix_append _ _
        have aligned := aligned_receiveAll proper ((List.prefix_append _ _).trans front) smooth
        have now := prompt _ (List.prefix_append _ rest)
        rw [List.flatten_concat] at stalls now
        rw [receiveAll_concat] at now
        have lost := aligned.stalled proper front (smooth taken List.prefix_rfl) stalls now
        rw [← receiveAll_concat] at lost
        have bytes := @receiveAll_cost _ _ format (taken ++ [chunk]) rest
        have final := prompt _ List.prefix_rfl
        have total : (taken ++ [chunk] ++ rest).flatten.length = format.cost messages := by
          rw [cut, length_frames proper]
        have all : format.arrived messages (format.cost messages) = messages := by
          have whole := format.arrived_append messages [] 0
          rwa [List.append_nil, Nat.add_zero, arrived, List.append_nil] at whole
        rw [final, total, all] at bytes
        rw [List.flatten_append, List.flatten_concat, List.length_append] at total
        have positive := format.width_pos
        omega
      · exact smooth earlier inside

/-- All messages come out in time if and only if no chunk ends where the splitter stalls. -/
theorem prompt_iff (proper : ∀ message ∈ messages, format.Proper message)
    (cut : chunks.flatten = format.frames messages) :
    format.Prompt format.split messages chunks ↔
      ∀ taken, taken <+: chunks → ¬format.Stalls messages taken.flatten.length := by
  constructor
  · intro prompt taken before
    exact prompt.smooth proper cut List.prefix_rfl taken before
  · intro smooth taken before
    obtain ⟨rest, rfl⟩ := before
    have front : taken.flatten <+: format.frames messages := by
      rw [← cut, List.flatten_append]
      exact List.prefix_append _ _
    exact (aligned_receiveAll proper front fun earlier inside =>
      smooth earlier (inside.trans (List.prefix_append _ _))).delivered

end Format

end SM.Lib.HeadedFrames
