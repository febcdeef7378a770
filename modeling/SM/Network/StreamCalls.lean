import SM.Network.TcpStreamHandler

/-!
# Calls of `recvPack` on a framed stream

The calls of `recvPack` on one `TcpStreamHandler`, each with a retry count of its own, share the
buffer and the reads. A call that gives up with the length of a message in `_curpacklen` leaves the
body in the buffer, where the next call takes its first bytes for a length.
-/

namespace SM.Network

open SM.Lib SM.Utils

/-- A handler, the reads still to come, and the messages which its calls returned. -/
structure StreamCalls where
  handler : TcpStreamHandler
  reads : List Bytes
  returned : List Bytes
deriving DecidableEq

namespace StreamCalls

/-- One call of `recvPack`. -/
def step (assertions : Bool) (calls : StreamCalls) (retrycount : UInt16) : Option StreamCalls :=
  (TcpStreamHandler.recvPack assertions retrycount calls.handler calls.reads).map
    fun (bsplit, handler, reads) =>
      ⟨handler, reads, if bsplit then calls.returned ++ [handler.recvmsg] else calls.returned⟩

/-- A new handler of a stream of framed messages, which arrives in the given reads. -/
def start (reads : List Bytes) : StreamCalls :=
  ⟨{ nethead := .fixPackLenPlaceHolder }, reads, []⟩

variable {assertions : Bool} {messages : List Bytes} {calls next : StreamCalls}
  {retrycount : UInt16}

/-- The first messages were returned, and the frames of all others are still to be split off:
none was skipped, merged or made up. -/
def Aligned (messages : List Bytes) (calls : StreamCalls) : Prop :=
  ∃ rest, messages = calls.returned ++ rest ∧
    calls.handler.stream calls.reads = rest.flatMap TcpStreamHandler.frame

/-- If a call has the length of the next message within its reads, it has a body there, too. -/
def Admitted (messages : List Bytes) (calls : StreamCalls) (retrycount : UInt16) : Prop :=
  ∀ body, messages[calls.returned.length]? = some body →
    let bytes := calls.handler.window (TcpStreamHandler.maxRetry retrycount) calls.reads
    TcpStreamHandler.maxRetry retrycount = 0 ∨ bytes.length < 4 ∨
      body ≠ [] ∧ 4 + body.length ≤ bytes.length

/-- The reads cut the stream into pieces that are not empty. -/
structure Cut (calls : StreamCalls) : Prop where
  fix : calls.handler.nethead = .fixPackLenPlaceHolder
  nonempty : ∀ read ∈ calls.reads, read ≠ []

/-- What a call does. -/
theorem step_eq_some (stepped : calls.step assertions retrycount = some next) :
    ∃ bsplit, TcpStreamHandler.recvLoop assertions (TcpStreamHandler.maxRetry retrycount)
        calls.handler.reset calls.reads =
          some (bsplit, next.handler, next.reads) ∧
      next.returned =
        if bsplit then calls.returned ++ [next.handler.recvmsg] else calls.returned := by
  obtain ⟨⟨bsplit, handler, reads⟩, returned, rfl⟩ := Option.map_eq_some_iff.mp stepped
  exact ⟨bsplit, returned, rfl⟩

/-- A handler which is reset keeps its kind of head. -/
theorem Cut.reset (cut : calls.Cut) :
    calls.handler.reset.nethead = .fixPackLenPlaceHolder :=
  cut.fix

/-- Every call keeps the pieces of the stream. -/
theorem Cut.step (cut : calls.Cut) (stepped : calls.step assertions retrycount = some next) :
    next.Cut := by
  obtain ⟨bsplit, returned, _⟩ := step_eq_some stepped
  obtain ⟨fix, suffix, _⟩ := TcpStreamHandler.recvLoop_kept cut.reset cut.nonempty returned
  exact ⟨fix, fun read member => cut.nonempty read (suffix.subset member)⟩

/-- Nothing is split off a stream without bytes. -/
theorem aligned_step_nil (cut : calls.Cut) (empty : calls.handler.stream calls.reads = [])
    (stepped : calls.step assertions retrycount = some next) :
    next.returned = calls.returned ∧ next.handler.stream next.reads = [] := by
  obtain ⟨bsplit, returned, shown⟩ := step_eq_some stepped
  obtain ⟨_, _, fewer, _⟩ := TcpStreamHandler.recvLoop_kept cut.reset cut.nonempty returned
  have left : next.handler.stream next.reads = [] := by
    have sameLength : (calls.handler.reset.stream calls.reads).length = 0 :=
      congrArg List.length empty
    exact List.eq_nil_of_length_eq_zero (Nat.le_zero.mp (sameLength ▸ fewer))
  have exhausted : calls.reads = [] := by
    rw [List.eq_nil_iff_forall_not_mem]
    intro read member
    exact cut.nonempty read member
      (List.flatten_eq_nil_iff.mp (List.append_eq_nil_iff.mp empty).2 read member)
  have unsplit : bsplit = false := by
    rw [exhausted] at returned
    cases turns : TcpStreamHandler.maxRetry retrycount with
    | zero =>
        rw [turns] at returned
        exact (congrArg Prod.fst (Option.some.inj returned)).symm
    | succ more =>
        rw [turns] at returned
        cases returned
  refine ⟨?_, left⟩
  rw [shown, unsplit, if_neg Bool.false_ne_true]

/-- A call leaves the messages aligned exactly when it is admitted. -/
theorem aligned_step (short : ∀ body ∈ messages, body.length < 0x100000000) (cut : calls.Cut)
    (aligned : Aligned messages calls) (stepped : calls.step assertions retrycount = some next) :
    Aligned messages next ↔ Admitted messages calls retrycount := by
  obtain ⟨rest, rfl, remaining⟩ := aligned
  cases rest with
  | nil =>
      obtain ⟨same, left⟩ := aligned_step_nil cut remaining stepped
      refine iff_of_true ⟨[], by rw [same], left⟩ ?_
      intro body found
      simp at found
  | cons body later =>
      have found : (calls.returned ++ body :: later)[calls.returned.length]? = some body := by
        simp
      obtain ⟨bsplit, returned, shown⟩ := step_eq_some stepped
      have bound := short body (List.mem_append_right _ List.mem_cons_self)
      have outcome := TcpStreamHandler.recvLoop_outcome cut.reset rfl cut.nonempty bound remaining
        returned
      cases outcome with
      | waits early kept =>
          refine iff_of_true ⟨body :: later, ?_, kept.trans remaining⟩ ?_
          · rw [shown, if_neg Bool.false_ne_true]
          · intro _ _
            exact early.imp_right .inl
      | whole tried filled fits message kept =>
          refine iff_of_true ⟨later, ?_, kept⟩ ?_
          · rw [shown, if_pos rfl, message, List.append_assoc, List.singleton_append]
          · intro other same
            cases found.symm.trans same
            exact .inr (.inr ⟨filled, fits⟩)
      | lost tried head unfit fewer invented =>
          refine iff_of_false ?_ ?_
          · rintro ⟨rest, split, kept⟩
            rw [shown] at split
            split at split
            · next flagged =>
                rw [List.append_assoc, List.append_cancel_left_eq, List.singleton_append,
                  List.cons_eq_cons] at split
                obtain ⟨empty, filled⟩ := invented flagged
                exact filled (split.1 ▸ empty)
            · rw [List.append_cancel_left_eq] at split
              rw [kept, ← split] at fewer
              exact Nat.ne_of_lt fewer (congrArg List.length remaining.symm)
          · intro admitted
            rcases admitted body found with none | partly | ⟨filled, fits⟩
            · exact tried none
            · exact Nat.not_lt.mpr head partly
            · rcases unfit with empty | unfit
              · exact filled empty
              · exact Nat.not_lt.mpr fits unfit

/-- The calls return the messages in order, with none lost, if and only if none of them reaches an
empty message or gives up between the length and the end of a body. -/
theorem aligned_throughout_iff (assertions : Bool) (messages reads : List Bytes)
    (short : ∀ body ∈ messages, body.length < 0x100000000)
    (nonempty : ∀ read ∈ reads, read ≠ [])
    (cut : reads.flatten = messages.flatMap TcpStreamHandler.frame) (retrycounts : List UInt16)
    (final : StreamCalls)
    (ran : Machine.run (step assertions) (start reads) retrycounts = some final) :
    Machine.Throughout (step assertions) (Aligned messages) (start reads) retrycounts ↔
      Machine.Every (step assertions) (Admitted messages) (start reads) retrycounts := by
  refine Machine.throughout_iff_every Cut (Aligned messages) (Admitted messages)
    (fun cut _ => cut.step) (aligned_step short) ?_ ?_ ran
  · exact ⟨rfl, nonempty⟩
  · exact ⟨messages, rfl, cut⟩

/-- Two messages, of which the first one comes with the beginning of the second one. -/
theorem aligned_throughout_iff_two :
    Machine.Throughout (step true) (Aligned [[7], [8, 9]])
        (start [[0, 0], [0, 1, 7, 0, 0], [0, 2, 8, 9]]) [60, 1] ↔
      Machine.Every (step true) (Admitted [[7], [8, 9]])
        (start [[0, 0], [0, 1, 7, 0, 0], [0, 2, 8, 9]]) [60, 1] :=
  aligned_throughout_iff true [[7], [8, 9]] [[0, 0], [0, 1, 7, 0, 0], [0, 2, 8, 9]] (by decide)
    (by decide) (by decide) [60, 1]
    ⟨⟨.fixPackLenPlaceHolder, 0, [], [8, 9]⟩, [], [[7], [8, 9]]⟩ (by decide)

/-- A call that gives up makes the next one return the body's last byte as a message; an empty
message is skipped. -/
theorem aligned_fails :
    (Machine.run (step true) (start [[0, 0, 0, 5], [0, 0, 0, 1, 9]]) [1, 1] =
        some ⟨⟨.fixPackLenPlaceHolder, 0, [], [9]⟩, [], [[9]]⟩ ∧
      ([0, 0, 0, 5, 0, 0, 0, 1, 9] : Bytes) =
        [[0, 0, 0, 1, 9]].flatMap TcpStreamHandler.frame) ∧
    Machine.run (step true) (start [[0, 0, 0, 0], [0, 0, 0, 1, 7]]) [2] =
        some ⟨⟨.fixPackLenPlaceHolder, 0, [], [7]⟩, [], [[7]]⟩ ∧
      ([0, 0, 0, 0, 0, 0, 0, 1, 7] : Bytes) = [[], [7]].flatMap TcpStreamHandler.frame := by
  decide

end StreamCalls

end SM.Network
