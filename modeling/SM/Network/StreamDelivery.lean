import SM.Network.StreamCalls

/-!
# Messages that were received and not returned

Every turn of `recvPack` reads before it looks at `_recvbuf`. A message that came whole with the one
before it stays there until the peer sends more. `served_throughout_iff` says on which reads this
does not happen.
-/

namespace SM.Network

open SM.Lib SM.Utils

namespace TcpStreamHandler

variable {assertions bsplit : Bool} {handler next : TcpStreamHandler} {retries count : Nat}
  {reads unread : List Bytes}

/-- A frame has four bytes more than its message. -/
@[simp] theorem length_frame (body : Bytes) : (frame body).length = 4 + body.length := by
  simp [frame, packuint32String]

/-- A call takes the first of its reads. -/
theorem recvLoop_drop
    (returned : recvLoop assertions retries handler reads = some (bsplit, next, unread)) :
    ∃ count ≤ retries, unread = reads.drop count := by
  induction retries generalizing handler reads with
  | zero =>
      cases returned
      exact ⟨0, Nat.le_refl 0, rfl⟩
  | succ retries inductionHypothesis =>
      obtain ⟨read, later, flag, turned, rfl, _, ended⟩ := recvLoop_succ returned
      rcases ended with ⟨_, _, rfl⟩ | ⟨_, returned⟩
      · exact ⟨1, Nat.succ_le_succ (Nat.zero_le _), rfl⟩
      · obtain ⟨count, bound, rfl⟩ := inductionHypothesis returned
        exact ⟨count + 1, Nat.succ_le_succ bound, rfl⟩

/-- A call that returns a message would not have returned it one read earlier. -/
theorem recvLoop_last
    (returned : recvLoop assertions retries handler reads = some (true, next, unread)) :
    ∃ count < retries, unread = reads.drop (count + 1) ∧
      ∃ before, recvLoop assertions count handler reads =
        some (false, before, reads.drop count) := by
  induction retries generalizing handler reads with
  | zero => cases returned
  | succ retries inductionHypothesis =>
      obtain ⟨read, later, flag, turned, rfl, stepped, ended⟩ := recvLoop_succ returned
      rcases ended with ⟨_, _, rfl⟩ | ⟨rfl, returned⟩
      · exact ⟨0, Nat.succ_pos _, rfl, handler, rfl⟩
      · obtain ⟨count, bound, rfl, before, earlier⟩ := inductionHypothesis returned
        refine ⟨count + 1, Nat.succ_lt_succ bound, rfl, before, ?_⟩
        simp only [recvLoop, stepped, earlier, List.drop_succ_cons]

/-- What a handler holds after a call are the bytes of its reads that it has not returned. -/
theorem window_eq_of_stream {front : Bytes} (count : Nat)
    (kept : handler.stream reads = front ++ next.stream (reads.drop count)) :
    handler.window count reads = front ++ next.recvbuf := by
  have whole : handler.window count reads ++ (reads.drop count).flatten =
      handler.stream reads := by
    rw [window, stream, stream, List.append_assoc, ← List.flatten_append,
      List.take_append_drop]
  rw [kept, stream, ← List.append_assoc] at whole
  exact List.append_cancel_right whole

/-- More retries see no less of the stream. -/
theorem window_length_mono {earlier later : Nat} (before : earlier ≤ later) :
    (handler.window earlier reads).length ≤ (handler.window later reads).length := by
  have front : reads.take earlier <+: reads.take later :=
    List.take_prefix_take_left before
  obtain ⟨more, same⟩ := front
  rw [window, window, stream, stream, ← same, List.flatten_append, ← List.append_assoc]
  exact (List.prefix_append _ _).length_le

/-- The read which brings the last byte of a number of bytes is the only one that does. -/
theorem window_unique {size first second : Nat}
    (firstShort : (handler.window first reads).length < size)
    (firstWhole : size ≤ (handler.window (first + 1) reads).length)
    (secondShort : (handler.window second reads).length < size)
    (secondWhole : size ≤ (handler.window (second + 1) reads).length) : first = second := by
  rcases Nat.lt_trichotomy first second with before | same | behind
  · have more := @window_length_mono handler reads (first + 1) second before
    omega
  · exact same
  · have more := @window_length_mono handler reads (second + 1) first behind
    omega

/-- A call that did not see the length of a message has not seen all of it after any read. -/
theorem window_early {retries index size : Nat}
    (early : retries = 0 ∨ (handler.window retries reads).length < 4)
    (unfinished : handler.recvbuf.length < 4 + size) (inside : index ≤ retries) :
    (handler.window index reads).length < 4 + size := by
  rcases early with none | early
  · have start : index = 0 := by omega
    rw [start]
    simpa [window, stream] using unfinished
  · have more := @window_length_mono handler reads index retries inside
    omega

end TcpStreamHandler

namespace StreamCalls

/-- The bytes which were read of a stream of messages. -/
def bytesRead (messages : List Bytes) (calls : StreamCalls) : Nat :=
  (messages.flatMap TcpStreamHandler.frame).length - calls.reads.flatten.length

/-- The messages whose frames were read are returned by further calls without another read. -/
def Served (assertions : Bool) (messages : List Bytes) (calls : StreamCalls) : Prop :=
  ∀ count, ((messages.take count).flatMap TcpStreamHandler.frame).length ≤
      bytesRead messages calls →
    ∃ retrycounts final,
      Machine.run (step assertions) { calls with reads := [] } retrycounts = some final ∧
        messages.take count <+: final.returned

/-- The read that completes the next message does not complete the one behind it. -/
def Single (messages : List Bytes) (calls : StreamCalls) (retrycount : UInt16) : Prop :=
  ∀ body second, messages[calls.returned.length]? = some body →
    messages[calls.returned.length + 1]? = some second →
    ∀ count < TcpStreamHandler.maxRetry retrycount,
      (calls.handler.window count calls.reads).length < 4 + body.length →
      4 + body.length ≤ (calls.handler.window (count + 1) calls.reads).length →
      (calls.handler.window (count + 1) calls.reads).length <
        4 + body.length + (4 + second.length)

variable {assertions : Bool} {messages : List Bytes} {calls next : StreamCalls}
  {retrycount : UInt16} {retrycounts : List UInt16}

/-- Without reads nothing is returned. -/
theorem step_without_reads (waiting : calls.reads = [])
    (stepped : calls.step assertions retrycount = some next) :
    next.returned = calls.returned ∧ next.reads = [] := by
  obtain ⟨bsplit, returned, shown⟩ := step_eq_some stepped
  rw [waiting] at returned
  cases turns : TcpStreamHandler.maxRetry retrycount with
  | zero =>
      rw [turns] at returned
      have values := Option.some.inj returned
      have unsplit : false = bsplit := congrArg Prod.fst values
      have none : [] = next.reads := congrArg (fun value => value.2.2) values
      rw [← unsplit, if_neg Bool.false_ne_true] at shown
      exact ⟨shown, none.symm⟩
  | succ more =>
      rw [turns] at returned
      cases returned

/-- Where nothing comes nothing is returned. -/
theorem run_without_reads {final : StreamCalls} (waiting : calls.reads = [])
    (ran : Machine.run (step assertions) calls retrycounts = some final) :
    final.returned = calls.returned := by
  induction retrycounts generalizing calls with
  | nil =>
      cases ran
      rfl
  | cons retrycount retrycounts inductionHypothesis =>
      obtain ⟨next, stepped, ran⟩ := Machine.run_cons.mp ran
      obtain ⟨same, none⟩ := step_without_reads waiting stepped
      rw [inductionHypothesis none ran, same]

/-- The messages that were read are returned if and only if the next frame is not whole in the
buffer. -/
theorem served_iff (aligned : Aligned messages calls) :
    Served assertions messages calls ↔
      ∀ body, messages[calls.returned.length]? = some body →
        calls.handler.recvbuf.length < 4 + body.length := by
  obtain ⟨rest, rfl, remaining⟩ := aligned
  have read : bytesRead (calls.returned ++ rest) calls =
      (calls.returned.flatMap TcpStreamHandler.frame).length + calls.handler.recvbuf.length := by
    rw [bytesRead, List.flatMap_append, ← remaining, TcpStreamHandler.stream, List.length_append,
      List.length_append, ← Nat.add_assoc, Nat.add_sub_cancel]
  constructor
  · intro served body found
    cases rest with
    | nil => simp at found
    | cons first later =>
        have same : first = body := by simpa using found
        subst same
        by_cases whole : calls.handler.recvbuf.length < 4 + first.length
        · exact whole
        · -- Then the frame was read, but no call without reads returns its message.
          have taken : (calls.returned ++ first :: later).take (calls.returned.length + 1) =
              calls.returned ++ [first] := by
            rw [List.take_append, List.take_of_length_le (Nat.le_succ _), Nat.add_sub_cancel_left]
            rfl
          obtain ⟨retrycounts, final, ran, front⟩ := served (calls.returned.length + 1) (by
            rw [read, taken, List.flatMap_append, List.flatMap_singleton, List.length_append,
              TcpStreamHandler.length_frame]
            omega)
          rw [taken, run_without_reads rfl ran] at front
          have longer := front.length_le
          rw [List.length_append, List.length_singleton] at longer
          exact absurd longer (Nat.not_succ_le_self _)
  · intro unfinished count arrived
    refine ⟨[], _, rfl, ?_⟩
    by_cases before : count ≤ calls.returned.length
    · rw [List.take_append_of_le_length before]
      exact List.take_prefix _ _
    · cases rest with
      | nil =>
          rw [List.append_nil]
          exact List.take_prefix _ _
      | cons body later =>
          have short := unfinished body (by simp)
          have front : calls.returned ++ [body] <+:
              (calls.returned ++ body :: later).take count := by
            rw [List.take_append, List.take_of_length_le (by omega)]
            obtain ⟨more, some⟩ := Nat.exists_eq_add_of_lt (Nat.lt_of_not_le before)
            have positive : count - calls.returned.length = more + 1 := by omega
            rw [positive, List.take_succ_cons]
            exact ⟨later.take more, by simp⟩
          obtain ⟨more, split⟩ := front
          rw [← split, read, List.flatMap_append, List.flatMap_append, List.flatMap_singleton,
            List.length_append, List.length_append, TcpStreamHandler.length_frame] at arrived
          omega

/-- The bytes that a call leaves in the buffer, once it has returned a message. -/
theorem window_of_whole {body more : Bytes} (cut : calls.Cut) (filled : body ≠ [])
    (short : body.length < 0x100000000)
    (unfinished : calls.handler.recvbuf.length < 4 + body.length)
    (starts : calls.handler.stream calls.reads = TcpStreamHandler.frame body ++ more)
    (kept : next.handler.stream next.reads = more)
    (returned : TcpStreamHandler.recvLoop assertions (TcpStreamHandler.maxRetry retrycount)
      calls.handler.reset calls.reads = some (true, next.handler, next.reads)) :
    ∃ count < TcpStreamHandler.maxRetry retrycount,
      (calls.handler.window count calls.reads).length < 4 + body.length ∧
        calls.handler.window (count + 1) calls.reads =
          TcpStreamHandler.frame body ++ next.handler.recvbuf := by
  obtain ⟨count, bound, unread, before, earlier⟩ := TcpStreamHandler.recvLoop_last returned
  refine ⟨count, bound, ?_, ?_⟩
  · have outcome := TcpStreamHandler.recvLoop_outcome cut.reset rfl cut.nonempty short starts
      earlier
    cases outcome with
    | waits early _ => exact TcpStreamHandler.window_early early unfinished (Nat.le_refl count)
    | lost _ _ unfit _ _ => exact unfit.resolve_left filled
  · apply TcpStreamHandler.window_eq_of_stream
    rw [← unread, kept]
    exact starts

/-- What an admitted call leaves in the buffer is short of a frame exactly if no read of the call
completes a second message. -/
theorem served_step (short : ∀ body ∈ messages, body.length < 0x100000000)
    (filled : ∀ body ∈ messages, body ≠ []) (cut : calls.Cut) (aligned : Aligned messages calls)
    (served : Served assertions messages calls) (admitted : Admitted messages calls retrycount)
    (stepped : calls.step assertions retrycount = some next) :
    Served assertions messages next ↔ Single messages calls retrycount := by
  have alignedNext := (aligned_step short cut aligned stepped).mpr admitted
  rw [served_iff aligned] at served
  rw [served_iff alignedNext]
  obtain ⟨rest, rfl, remaining⟩ := aligned
  cases rest with
  | nil =>
      obtain ⟨same, _⟩ := aligned_step_nil cut remaining stepped
      refine iff_of_true ?_ ?_
      · intro body found
        simp [same] at found
      · intro body second found
        simp at found
  | cons body later =>
      have found : (calls.returned ++ body :: later)[calls.returned.length]? = some body := by
        simp
      have member : body ∈ calls.returned ++ body :: later :=
        List.mem_append_right _ List.mem_cons_self
      have unfinished := served body found
      obtain ⟨bsplit, returned, shown⟩ := step_eq_some stepped
      have outcome := TcpStreamHandler.recvLoop_outcome cut.reset rfl cut.nonempty
        (short body member) remaining returned
      cases outcome with
      | waits early kept =>
          rw [if_neg Bool.false_ne_true] at shown
          obtain ⟨count, bound, unread⟩ := TcpStreamHandler.recvLoop_drop returned
          have held : calls.handler.window count calls.reads = [] ++ next.handler.recvbuf := by
            apply TcpStreamHandler.window_eq_of_stream
            rw [← unread]
            exact kept.symm
          refine iff_of_true ?_ ?_
          · intro other same
            rw [shown, found] at same
            cases same
            rw [← List.nil_append next.handler.recvbuf, ← held]
            exact TcpStreamHandler.window_early early unfinished bound
          · intro first second same _ index inside _ whole
            cases found.symm.trans same
            have unseen : (calls.handler.window (index + 1) calls.reads).length < 4 + body.length :=
              TcpStreamHandler.window_early early unfinished inside
            omega
      | whole tried nonempty fits message kept =>
          rw [if_pos rfl, message] at shown
          obtain ⟨count, bound, before, behind⟩ := window_of_whole cut nonempty
            (short body member) unfinished remaining kept returned
          have length : (calls.handler.window (count + 1) calls.reads).length =
              4 + body.length + next.handler.recvbuf.length := by
            rw [behind, List.length_append, TcpStreamHandler.length_frame]
          have position : next.returned.length = calls.returned.length + 1 := by
            rw [shown, List.length_append, List.length_singleton]
          rw [position]
          constructor
          · intro unfinished first second same follows index inside short whole
            cases found.symm.trans same
            have crossing := TcpStreamHandler.window_unique short whole before (by omega)
            rw [crossing, length]
            exact Nat.add_lt_add_left (unfinished second follows) _
          · intro single second follows
            have fewer := single body second found follows count bound before (by omega)
            omega
      | lost tried head unfit _ _ =>
          exfalso
          rcases admitted body found with none | partly | ⟨_, fits⟩
          · exact tried none
          · exact Nat.not_lt.mpr head partly
          · exact Nat.not_lt.mpr fits (unfit.resolve_left (filled body member))

/-- Over calls that none gives up between the length and the end of a body, everything that was
received is returned without another read, if and only if no read completes two messages. -/
theorem served_throughout_iff (assertions : Bool) (messages reads : List Bytes)
    (short : ∀ body ∈ messages, body.length < 0x100000000)
    (filled : ∀ body ∈ messages, body ≠ []) (nonempty : ∀ read ∈ reads, read ≠ [])
    (cut : reads.flatten = messages.flatMap TcpStreamHandler.frame) (retrycounts : List UInt16)
    (final : StreamCalls)
    (ran : Machine.run (step assertions) (start reads) retrycounts = some final)
    (admitted : Machine.Every (step assertions) (Admitted messages) (start reads) retrycounts) :
    Machine.Throughout (step assertions) (Served assertions messages) (start reads)
        retrycounts ↔
      Machine.Every (step assertions) (Single messages) (start reads) retrycounts := by
  have aligned : Aligned messages (start reads) := ⟨messages, rfl, cut⟩
  refine Machine.throughout_iff_every_of_admitted
    (fun calls => calls.Cut ∧ Aligned messages calls) (Served assertions messages)
    (Admitted messages) (Single messages) ?_ ?_ ?_ ?_ ran admitted
  · rintro calls retrycount next ⟨cut, aligned⟩ _ admitted stepped
    exact ⟨cut.step stepped, (aligned_step short cut aligned stepped).mpr admitted⟩
  · rintro calls retrycount next ⟨cut, aligned⟩ served admitted stepped
    exact served_step short filled cut aligned served admitted stepped
  · exact ⟨⟨rfl, nonempty⟩, aligned⟩
  · rw [served_iff aligned]
    intro body _
    exact Nat.lt_of_lt_of_le (by decide : 0 < 4) (Nat.le_add_right _ _)

/-- Two messages, of which the first one comes with the beginning of the second one. -/
theorem served_throughout_iff_two :
    Machine.Throughout (step true) (Served true [[7], [8, 9]])
        (start [[0, 0], [0, 1, 7, 0, 0], [0, 2, 8, 9]]) [60, 1] ↔
      Machine.Every (step true) (Single [[7], [8, 9]])
        (start [[0, 0], [0, 1, 7, 0, 0], [0, 2, 8, 9]]) [60, 1] := by
  refine served_throughout_iff true [[7], [8, 9]] [[0, 0], [0, 1, 7, 0, 0], [0, 2, 8, 9]]
    (by decide) (by decide) (by decide) (by decide) [60, 1]
    ⟨⟨.fixPackLenPlaceHolder, 0, [], [8, 9]⟩, [], [[7], [8, 9]]⟩ (by decide) ?_
  refine ⟨?_, ?_⟩
  · rintro _ ⟨⟩
    exact .inr (.inr ⟨by decide, by decide⟩)
  · rintro _ ⟨⟩
    refine ⟨?_, fun _ _ => trivial⟩
    rintro _ ⟨⟩
    exact .inr (.inr ⟨by decide, by decide⟩)

/-- Two messages come in one read, and the second one is not returned without another read. -/
theorem served_fails :
    Machine.run (step true) (start [[0, 0, 0, 1, 7, 0, 0, 0, 1, 8]]) [60] =
        some ⟨⟨.fixPackLenPlaceHolder, 0, [0, 0, 0, 1, 8], [7]⟩, [], [[7]]⟩ ∧
      ¬Served true [[7], [8]] ⟨⟨.fixPackLenPlaceHolder, 0, [0, 0, 0, 1, 8], [7]⟩, [], [[7]]⟩ := by
  refine ⟨by decide, ?_⟩
  intro served
  obtain ⟨retrycounts, final, ran, front⟩ := served 2 (by decide)
  rw [run_without_reads rfl ran] at front
  exact absurd front (by decide)

end StreamCalls

end SM.Network
