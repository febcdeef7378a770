import SM.Lib.Machine
import SM.Utils.CommandHead

/-!
# Messages of a TCP stream handler

`TcpStreamHandler.recvPack` reads until it has split one message off `_recvbuf`, or has read
`retrycount` times. The length of the message is erased from `_recvbuf` as soon as its four bytes
are there, and kept in `_curpacklen`, which the next call resets.
-/

namespace SM.Network

open SM.Lib SM.Utils

inductive NetHeadType where
  | noPlaceHolderFixLen
  | fixPackLenPlaceHolder
  | noPlaceHolderVarLen
deriving DecidableEq

structure TcpStreamHandler where
  nethead : NetHeadType
  curpacklen : UInt32 := 0
  recvbuf : Bytes := []
  recvmsg : Bytes := []
deriving DecidableEq

namespace TcpStreamHandler

/-- `_packnethead` for a message, and the message. -/
def frame (msg : Bytes) : Bytes := packuint32String [] (UInt32.ofNat msg.length) ++ msg

/-- A length of zero stands for no length. -/
def readHead (handler : TcpStreamHandler) : TcpStreamHandler :=
  if handler.curpacklen = 0 ∧ handler.recvbuf ≠ [] then
    let (_, recvbuf, curpacklen) := unpackuint32String handler.recvbuf handler.curpacklen
    { handler with recvmsg := [], recvbuf, curpacklen }
  else handler

def takeBody (handler : TcpStreamHandler) : Bool × TcpStreamHandler :=
  let len := handler.curpacklen.toNat
  if 0 < len ∧ len ≤ handler.recvbuf.length then
    (true, { handler with
      recvmsg := handler.recvbuf.take len
      recvbuf := handler.recvbuf.drop len
      curpacklen := 0 })
  else (false, handler)

/-- The `switch` of `recvPack`: whether a message was split off. `none` is a failed assertion. -/
def split (assertions : Bool) (handler : TcpStreamHandler) : Option (Bool × TcpStreamHandler) :=
  match handler.nethead with
  | .fixPackLenPlaceHolder => some handler.readHead.takeBody
  | .noPlaceHolderFixLen =>
      let len := handler.curpacklen.toNat
      if assertions ∧ len = 0 then none
      else if len ≤ handler.recvbuf.length then
        some (true, { handler with
          recvmsg := handler.recvbuf.take len
          recvbuf := handler.recvbuf.drop len })
      else some (false, handler)
  | .noPlaceHolderVarLen =>
      some (true, { handler with recvmsg := handler.recvbuf, recvbuf := [] })

/-- One turn of the loop, with the bytes that its read got: none of them when the read failed.
The flag is there when the turn is the last one. -/
def turn (assertions : Bool) (handler : TcpStreamHandler) (read : Bytes) :
    Option (Option Bool × TcpStreamHandler) :=
  let handler := { handler with recvbuf := handler.recvbuf ++ read }
  if handler.recvbuf = [] then some (some false, handler)
  else (handler.split assertions).map fun (bsplit, handler) =>
    (if bsplit then some true else none, handler)

/-- The loop with as many turns left, over the reads to come: its flag, and the reads it leaves.
There is no result while it waits for a read. -/
def recvLoop (assertions : Bool) :
    Nat → TcpStreamHandler → List Bytes → Option (Bool × TcpStreamHandler × List Bytes)
  | 0, handler, reads => some (false, handler, reads)
  | _ + 1, _, [] => none
  | retries + 1, handler, read :: reads =>
      match handler.turn assertions read with
      | none => none
      | some (some bsplit, handler) => some (bsplit, handler, reads)
      | some (none, handler) => recvLoop assertions retries handler reads

def reset (handler : TcpStreamHandler) : TcpStreamHandler := { handler with curpacklen := 0 }

/-- The turns of a call. -/
def maxRetry (retrycount : UInt16) : Nat := min retrycount.toNat 100

def recvPack (assertions : Bool) (retrycount : UInt16) (handler : TcpStreamHandler)
    (reads : List Bytes) : Option (Bool × TcpStreamHandler × List Bytes) :=
  recvLoop assertions (maxRetry retrycount) handler.reset reads

/-! ## One turn over fixed length fields -/

variable {assertions : Bool} {handler next : TcpStreamHandler} {read : Bytes}

/-- A turn which reads something reads the head and takes the body. -/
theorem turn_fix (fix : handler.nethead = .fixPackLenPlaceHolder)
    (filled : handler.recvbuf ++ read ≠ []) :
    handler.turn assertions read =
      let (bsplit, next) := { handler with recvbuf := handler.recvbuf ++ read }.readHead.takeBody
      some (if bsplit then some true else none, next) := by
  simp [turn, filled, split, fix]

/-- The body is there. -/
theorem turn_body (fix : handler.nethead = .fixPackLenPlaceHolder)
    (filled : handler.recvbuf ++ read ≠ [])
    (known : handler.curpacklen ≠ 0)
    (enough : handler.curpacklen.toNat ≤ (handler.recvbuf ++ read).length) :
    handler.turn assertions read = some (some true, { handler with
      recvmsg := (handler.recvbuf ++ read).take handler.curpacklen.toNat
      recvbuf := (handler.recvbuf ++ read).drop handler.curpacklen.toNat
      curpacklen := 0 }) := by
  have positive : 0 < handler.curpacklen.toNat := by
    rw [Nat.pos_iff_ne_zero, ← UInt32.toNat_zero]
    exact fun same => known (UInt32.toNat_inj.mp same)
  rw [turn_fix fix filled]
  simp only [readHead, known, false_and, if_false, takeBody, positive, enough, and_self, if_true]

/-- The length is known, the body not yet there. -/
theorem turn_waits (fix : handler.nethead = .fixPackLenPlaceHolder)
    (filled : handler.recvbuf ++ read ≠ [])
    (known : handler.curpacklen ≠ 0)
    (short : (handler.recvbuf ++ read).length < handler.curpacklen.toNat) :
    handler.turn assertions read =
      some (none, { handler with recvbuf := handler.recvbuf ++ read }) := by
  rw [turn_fix fix filled]
  simp only [readHead, known, false_and, if_false, takeBody, Nat.not_le.mpr short, and_false,
    Bool.false_eq_true]

/-- The length is not yet there. -/
theorem turn_unknown (fix : handler.nethead = .fixPackLenPlaceHolder)
    (filled : handler.recvbuf ++ read ≠ [])
    (unknown : handler.curpacklen = 0) (short : (handler.recvbuf ++ read).length < 4) :
    handler.turn assertions read =
      some (none, { handler with recvbuf := handler.recvbuf ++ read, recvmsg := [] }) := by
  rw [turn_fix fix filled]
  simp only [readHead, unknown, filled, ne_eq, not_false_iff, and_self, if_true,
    unpackuint32String, short, takeBody, UInt32.toNat_zero, Nat.lt_irrefl, false_and, if_false,
    Bool.false_eq_true]

/-- A handler that has just taken the length out of its buffer. -/
def headed (handler : TcpStreamHandler) (len : UInt32) (rest : Bytes) : TcpStreamHandler :=
  { handler with recvbuf := rest, recvmsg := [], curpacklen := len }

/-- The length is there. -/
theorem turn_head (fix : handler.nethead = .fixPackLenPlaceHolder)
    (filled : handler.recvbuf ++ read ≠ [])
    (unknown : handler.curpacklen = 0) {len : UInt32} {rest : Bytes}
    (head : handler.recvbuf ++ read = htonl len ++ rest) :
    handler.turn assertions read =
      let (bsplit, next) := (handler.headed len rest).takeBody
      some (if bsplit then some true else none, next) := by
  have started : htonl len ++ rest ≠ [] := head ▸ filled
  rw [turn_fix fix filled, head]
  simp only [readHead, unknown, started, ne_eq, not_false_iff, and_self, if_true,
    unpackuint32String_htonl]
  rfl

/-! ## One call -/

variable {retries : Nat} {reads unread : List Bytes} {bsplit : Bool}

/-- The bytes a handler holds once all reads are done. -/
def stream (handler : TcpStreamHandler) (reads : List Bytes) : Bytes :=
  handler.recvbuf ++ reads.flatten

/-- The bytes a handler holds after as many reads. -/
def window (handler : TcpStreamHandler) (retries : Nat) (reads : List Bytes) : Bytes :=
  handler.stream (reads.take retries)

/-- The stream starts with what was kept and the first read. -/
theorem stream_cons :
    handler.stream (read :: reads) = (handler.recvbuf ++ read) ++ reads.flatten := by
  rw [stream, List.flatten_cons, List.append_assoc]

/-- One retry more sees one read more. -/
theorem window_succ : handler.window (retries + 1) (read :: reads) =
    (handler.recvbuf ++ read) ++ (reads.take retries).flatten := by
  rw [window, List.take_succ_cons, stream_cons]

/-- What is left of a turn that does not end the loop, or of a loop without turns. -/
theorem recvLoop_succ (returned : recvLoop assertions (retries + 1) handler reads =
      some (bsplit, next, unread)) :
    ∃ read later flag turned, reads = read :: later ∧
      handler.turn assertions read = some (flag, turned) ∧
      ((flag = some bsplit ∧ turned = next ∧ later = unread) ∨
        flag = none ∧
          recvLoop assertions retries turned later = some (bsplit, next, unread)) := by
  cases reads with
  | nil => cases returned
  | cons read later =>
      rw [recvLoop] at returned
      split at returned
      · cases returned
      · next turned =>
          cases returned
          exact ⟨read, unread, _, _, rfl, turned, .inl ⟨rfl, rfl, rfl⟩⟩
      · next turned => exact ⟨read, later, _, _, rfl, turned, .inr ⟨rfl, returned⟩⟩

/-- A call that has the length returns the body when its reads bring it, and nothing before. -/
theorem recvLoop_partial (fix : handler.nethead = .fixPackLenPlaceHolder)
    (known : handler.curpacklen ≠ 0)
    (short : handler.recvbuf.length < handler.curpacklen.toNat)
    (cut : ∀ read ∈ reads, read ≠ [])
    (returned : recvLoop assertions retries handler reads = some (bsplit, next, unread)) :
    (handler.curpacklen.toNat ≤ (handler.window retries reads).length ∧ bsplit = true ∧
        next.recvmsg = (handler.stream reads).take handler.curpacklen.toNat ∧
        next.stream unread = (handler.stream reads).drop handler.curpacklen.toNat) ∨
      ((handler.window retries reads).length < handler.curpacklen.toNat ∧ bsplit = false ∧
        next.stream unread = handler.stream reads) := by
  induction retries generalizing handler reads with
  | zero =>
      cases returned
      exact .inr ⟨by simpa [window, stream] using short, rfl, rfl⟩
  | succ retries inductionHypothesis =>
      obtain ⟨read, later, flag, turned, rfl, stepped, ended⟩ := recvLoop_succ returned
      have filled : handler.recvbuf ++ read ≠ [] :=
        List.append_ne_nil_of_right_ne_nil _ (cut read List.mem_cons_self)
      rw [window_succ, stream_cons]
      by_cases enough : handler.curpacklen.toNat ≤ (handler.recvbuf ++ read).length
      · rw [turn_body fix filled known enough] at stepped
        cases stepped
        rcases ended with ⟨flagged, rfl, rfl⟩ | ⟨flagged, _⟩
        · cases flagged
          refine .inl ⟨?_, rfl, ?_, ?_⟩
          · rw [List.length_append]
            exact Nat.le_add_right_of_le enough
          · exact (List.take_append_of_le_length enough).symm
          · exact (List.drop_append_of_le_length enough).symm
        · cases flagged
      · have partly := Nat.not_le.mp enough
        rw [turn_waits fix filled known partly] at stepped
        cases stepped
        rcases ended with ⟨flagged, _⟩ | ⟨_, returned⟩
        · cases flagged
        · exact @inductionHypothesis { handler with recvbuf := handler.recvbuf ++ read } later fix
            known partly (fun other member => cut other (List.mem_cons_of_mem _ member)) returned

/-! ### What every turn keeps -/

/-- Reading the head keeps its kind, and makes the buffer no longer. -/
theorem readHead_kept (handler : TcpStreamHandler) :
    handler.readHead.nethead = handler.nethead ∧
      handler.readHead.recvbuf.length ≤ handler.recvbuf.length := by
  rw [readHead]
  split
  · refine ⟨rfl, ?_⟩
    simp only [unpackuint32String]
    split <;> simp
  · exact ⟨rfl, Nat.le_refl _⟩

/-- Taking the body keeps the kind of head, and makes the buffer no longer. -/
theorem takeBody_kept (handler : TcpStreamHandler) :
    handler.takeBody.2.nethead = handler.nethead ∧
      handler.takeBody.2.recvbuf.length ≤ handler.recvbuf.length ∧
      (handler.takeBody.1 = true → handler.takeBody.2.recvmsg ≠ []) := by
  rw [takeBody]
  split
  · next enough =>
      refine ⟨rfl, ?_, ?_⟩
      · rw [List.length_drop]
        exact Nat.sub_le ..
      · intro _ empty
        have none := congrArg List.length empty
        rw [List.length_take, Nat.min_eq_left enough.2] at none
        exact absurd none (Nat.ne_of_gt enough.1)
  · exact ⟨rfl, Nat.le_refl _, Bool.noConfusion⟩

/-- A turn makes no bytes up, and splits off no empty message. -/
theorem turn_kept (fix : handler.nethead = .fixPackLenPlaceHolder)
    (filled : handler.recvbuf ++ read ≠ [])
    {flag : Option Bool} (turned : handler.turn assertions read = some (flag, next)) :
    next.nethead = .fixPackLenPlaceHolder ∧
      next.recvbuf.length ≤ (handler.recvbuf ++ read).length ∧
      (flag = some true → next.recvmsg ≠ []) := by
  rw [turn_fix fix filled] at turned
  obtain ⟨sameHead, fewerHead⟩ :=
    readHead_kept { handler with recvbuf := handler.recvbuf ++ read }
  obtain ⟨sameBody, fewerBody, nonempty⟩ :=
    takeBody_kept { handler with recvbuf := handler.recvbuf ++ read }.readHead
  cases turned
  refine ⟨sameBody.trans (sameHead.trans fix), Nat.le_trans fewerBody fewerHead, ?_⟩
  intro flagged
  refine nonempty ?_
  split at flagged
  · assumption
  · cases flagged

/-- A call keeps its kind of head and reads from the front of the stream. -/
theorem recvLoop_kept (fix : handler.nethead = .fixPackLenPlaceHolder)
    (cut : ∀ read ∈ reads, read ≠ [])
    (returned : recvLoop assertions retries handler reads = some (bsplit, next, unread)) :
    next.nethead = .fixPackLenPlaceHolder ∧ unread <:+ reads ∧
      (next.stream unread).length ≤ (handler.stream reads).length ∧
      (bsplit = true → next.recvmsg ≠ []) := by
  induction retries generalizing handler reads with
  | zero =>
      cases returned
      exact ⟨fix, List.suffix_refl _, Nat.le_refl _, Bool.noConfusion⟩
  | succ retries inductionHypothesis =>
      obtain ⟨read, later, flag, turned, rfl, stepped, ended⟩ := recvLoop_succ returned
      obtain ⟨same, fewer, filled⟩ := turn_kept fix
        (List.append_ne_nil_of_right_ne_nil _ (cut read List.mem_cons_self)) stepped
      have shrunk : (turned.stream later).length ≤ (handler.stream (read :: later)).length := by
        simp only [stream, List.length_append, List.flatten_cons] at fewer ⊢
        omega
      rcases ended with ⟨rfl, rfl, rfl⟩ | ⟨rfl, returned⟩
      · exact ⟨same, List.suffix_cons _ _, shrunk, fun split => filled (congrArg some split)⟩
      · obtain ⟨kept, suffix, less, nonempty⟩ := inductionHypothesis same
          (fun other member => cut other (List.mem_cons_of_mem _ member)) returned
        exact ⟨kept, suffix.trans (List.suffix_cons _ _), Nat.le_trans less shrunk, nonempty⟩

/-! ### A call on a framed stream -/

variable {body more rest : Bytes}

/-- A whole body is taken. -/
theorem takeBody_enough (positive : 0 < handler.curpacklen.toNat)
    (enough : handler.curpacklen.toNat ≤ handler.recvbuf.length) :
    handler.takeBody = (true, { handler with
      recvmsg := handler.recvbuf.take handler.curpacklen.toNat
      recvbuf := handler.recvbuf.drop handler.curpacklen.toNat
      curpacklen := 0 }) :=
  if_pos ⟨positive, enough⟩

/-- A body which is not whole is left. -/
theorem takeBody_short (short : ¬ (0 < handler.curpacklen.toNat ∧
    handler.curpacklen.toNat ≤ handler.recvbuf.length)) : handler.takeBody = (false, handler) :=
  if_neg short

/-- What a call makes of a stream that starts with the frame of `body`. -/
inductive Outcome (handler : TcpStreamHandler) (retries : Nat) (reads : List Bytes)
    (body more : Bytes) : Bool → TcpStreamHandler → List Bytes → Prop where
  | waits {next : TcpStreamHandler} {unread : List Bytes}
      (early : retries = 0 ∨ (handler.window retries reads).length < 4)
      (kept : next.stream unread = handler.stream reads) :
      Outcome handler retries reads body more false next unread
  | whole {next : TcpStreamHandler} {unread : List Bytes} (tried : retries ≠ 0)
      (filled : body ≠ [])
      (fits : 4 + body.length ≤ (handler.window retries reads).length)
      (message : next.recvmsg = body) (kept : next.stream unread = more) :
      Outcome handler retries reads body more true next unread
  | lost {bsplit : Bool} {next : TcpStreamHandler} {unread : List Bytes} (tried : retries ≠ 0)
      (head : 4 ≤ (handler.window retries reads).length)
      (unfit : body = [] ∨ (handler.window retries reads).length < 4 + body.length)
      (fewer : (next.stream unread).length < (handler.stream reads).length)
      (invented : bsplit = true → body = [] ∧ next.recvmsg ≠ []) :
      Outcome handler retries reads body more bsplit next unread

/-- A call that has not found the length goes on as one with the bytes read so far. -/
theorem Outcome.read_on {bsplit : Bool}
    (outcome : Outcome { handler with recvbuf := handler.recvbuf ++ read, recvmsg := [] } retries
      reads body more bsplit next unread)
    (short : (handler.recvbuf ++ read).length < 4) :
    Outcome handler (retries + 1) (read :: reads) body more bsplit next unread := by
  cases outcome with
  | waits early kept =>
      refine .waits (.inr ?_) (kept.trans stream_cons.symm)
      rcases early with rfl | early
      · rw [window_succ]
        simpa using short
      · rwa [window_succ]
  | whole tried filled fits message kept =>
      exact .whole (Nat.succ_ne_zero _) filled (window_succ ▸ fits) message kept
  | lost tried head unfit fewer invented =>
      exact .lost (Nat.succ_ne_zero _) (window_succ ▸ head) (window_succ ▸ unfit)
        (stream_cons ▸ fewer) invented

/-- What a call can see behind a head. -/
theorem length_window_of_head {len : UInt32} (head : handler.recvbuf ++ read = htonl len ++ rest) :
    (handler.window (retries + 1) (read :: reads)).length =
      4 + (rest ++ (reads.take retries).flatten).length := by
  rw [window_succ, head, List.append_assoc, List.length_append, length_htonl]

/-- What the stream has behind a head. -/
theorem length_stream_of_head {len : UInt32} (head : handler.recvbuf ++ read = htonl len ++ rest) :
    (handler.stream (read :: reads)).length = 4 + (rest ++ reads.flatten).length := by
  rw [stream_cons, head, List.append_assoc, List.length_append, length_htonl]

/-- The length of an empty body is lost, and the next bytes are taken for a length. -/
theorem outcome_of_empty {len : UInt32} (fix : handler.nethead = .fixPackLenPlaceHolder)
    (cut : ∀ read ∈ reads, read ≠ []) (empty : body = [])
    (head : handler.recvbuf ++ read = htonl len ++ rest)
    (returned : recvLoop assertions retries (handler.headed len rest) reads =
      some (bsplit, next, unread)) :
    Outcome handler (retries + 1) (read :: reads) body more bsplit next unread := by
  have fixed : (handler.headed len rest).nethead = .fixPackLenPlaceHolder := fix
  obtain ⟨_, _, fewer, filled⟩ := recvLoop_kept fixed cut returned
  refine .lost (Nat.succ_ne_zero _) ?_ (.inl empty) ?_ ?_
  · rw [length_window_of_head head]
    exact Nat.le_add_right 4 _
  · rw [length_stream_of_head head]
    exact Nat.lt_of_le_of_lt fewer (Nat.lt_add_of_pos_left (by decide))
  · exact fun split => ⟨empty, filled split⟩

/-- The length is known, and the other turns bring the body or give up. -/
theorem outcome_of_partial (fix : handler.nethead = .fixPackLenPlaceHolder)
    (cut : ∀ read ∈ reads, read ≠ []) (short : body.length < 0x100000000)
    (filled : body ≠ []) (partly : rest.length < body.length)
    (head : handler.recvbuf ++ read = htonl (UInt32.ofNat body.length) ++ rest)
    (follows : rest ++ reads.flatten = body ++ more)
    (returned : recvLoop assertions retries (handler.headed (UInt32.ofNat body.length) rest)
      reads = some (bsplit, next, unread)) :
    Outcome handler (retries + 1) (read :: reads) body more bsplit next unread := by
  have fixed : (handler.headed (UInt32.ofNat body.length) rest).nethead =
      .fixPackLenPlaceHolder := fix
  have known : (handler.headed (UInt32.ofNat body.length) rest).curpacklen.toNat =
      body.length := UInt32.toNat_ofNat_of_lt' short
  have buffer : (handler.headed (UInt32.ofNat body.length) rest).recvbuf = rest := rfl
  have nonzero : (handler.headed (UInt32.ofNat body.length) rest).curpacklen ≠ 0 := by
    intro zero
    rw [zero] at known
    exact filled (List.eq_nil_of_length_eq_zero known.symm)
  have remaining : (handler.headed (UInt32.ofNat body.length) rest).stream reads =
      body ++ more := follows
  have windowLength := @length_window_of_head handler read retries reads rest _ head
  rcases recvLoop_partial fixed nonzero (by rw [known, buffer]; exact partly) cut returned with
    ⟨fits, rfl, message, kept⟩ | ⟨unfit, rfl, kept⟩
  · rw [known] at fits message kept
    rw [remaining, List.take_left] at message
    rw [remaining, List.drop_left] at kept
    refine .whole (Nat.succ_ne_zero _) filled ?_ message kept
    rw [windowLength]
    exact Nat.add_le_add_left fits 4
  · rw [known] at unfit
    refine .lost (Nat.succ_ne_zero _) (by omega) (.inr ?_) ?_ Bool.noConfusion
    · rw [windowLength]
      exact Nat.add_lt_add_left unfit 4
    · rw [kept, remaining, length_stream_of_head head, follows]
      exact Nat.lt_add_of_pos_left (by decide)

/-- The turn that finds the length, and what comes after it. -/
theorem outcome_of_head (fix : handler.nethead = .fixPackLenPlaceHolder)
    (unknown : handler.curpacklen = 0) (filled : handler.recvbuf ++ read ≠ [])
    (cut : ∀ read ∈ reads, read ≠ []) (short : body.length < 0x100000000)
    (head : handler.recvbuf ++ read = htonl (UInt32.ofNat body.length) ++ rest)
    (follows : rest ++ reads.flatten = body ++ more) {flag : Option Bool}
    {turned : TcpStreamHandler}
    (stepped : handler.turn assertions read = some (flag, turned))
    (ended : (flag = some bsplit ∧ turned = next ∧ reads = unread) ∨
      flag = none ∧ recvLoop assertions retries turned reads = some (bsplit, next, unread)) :
    Outcome handler (retries + 1) (read :: reads) body more bsplit next unread := by
  have known : (handler.headed (UInt32.ofNat body.length) rest).curpacklen.toNat =
      body.length := UInt32.toNat_ofNat_of_lt' short
  have buffer : (handler.headed (UInt32.ofNat body.length) rest).recvbuf = rest := rfl
  rw [turn_head fix filled unknown head] at stepped
  by_cases empty : body = []
  · rw [takeBody_short (by simp [headed, empty])] at stepped
    cases stepped
    rcases ended with ⟨flagged, _⟩ | ⟨_, returned⟩
    · cases flagged
    · exact outcome_of_empty fix cut empty head returned
  · have positive : 0 < body.length := List.length_pos_iff.mpr empty
    by_cases enough : body.length ≤ rest.length
    · rw [takeBody_enough (by rwa [known]) (by rwa [known])] at stepped
      cases stepped
      rcases ended with ⟨flagged, rfl, rfl⟩ | ⟨flagged, _⟩
      · cases flagged
        rw [known, buffer]
        refine .whole (Nat.succ_ne_zero _) empty ?_ ?_ ?_
        · rw [length_window_of_head head, List.length_append]
          omega
        · have taken := congrArg (List.take body.length) follows
          rwa [List.take_append_of_le_length enough, List.take_left] at taken
        · have dropped := congrArg (List.drop body.length) follows
          rwa [List.drop_append_of_le_length enough, List.drop_left] at dropped
      · cases flagged
    · rw [takeBody_short (by rw [known, buffer]; omega)] at stepped
      cases stepped
      rcases ended with ⟨flagged, _⟩ | ⟨_, returned⟩
      · cases flagged
      · exact outcome_of_partial fix cut short empty (Nat.lt_of_not_le enough) head follows
          returned

/-- A call returns its message exactly when it sees the whole of it. -/
theorem recvLoop_outcome (fix : handler.nethead = .fixPackLenPlaceHolder)
    (unknown : handler.curpacklen = 0) (cut : ∀ read ∈ reads, read ≠ [])
    (short : body.length < 0x100000000) (starts : handler.stream reads = frame body ++ more)
    (returned : recvLoop assertions retries handler reads = some (bsplit, next, unread)) :
    Outcome handler retries reads body more bsplit next unread := by
  induction retries generalizing handler reads with
  | zero =>
      cases returned
      exact .waits (.inl rfl) rfl
  | succ retries inductionHypothesis =>
      obtain ⟨read, later, flag, turned, rfl, stepped, ended⟩ := recvLoop_succ returned
      have filled : handler.recvbuf ++ read ≠ [] :=
        List.append_ne_nil_of_right_ne_nil _ (cut read List.mem_cons_self)
      have cutLater : ∀ read ∈ later, read ≠ [] :=
        fun other member => cut other (List.mem_cons_of_mem _ member)
      rw [stream_cons] at starts
      by_cases early : (handler.recvbuf ++ read).length < 4
      · rw [turn_unknown fix filled unknown early] at stepped
        cases stepped
        rcases ended with ⟨flagged, _⟩ | ⟨_, returned⟩
        · cases flagged
        · exact (@inductionHypothesis
            { handler with recvbuf := handler.recvbuf ++ read, recvmsg := [] } later fix unknown
            cutLater starts returned).read_on early
      · have headFirst : htonl (UInt32.ofNat body.length) <+: handler.recvbuf ++ read := by
          refine List.prefix_of_prefix_length_le ⟨body ++ more, ?_⟩ ⟨later.flatten, starts⟩ ?_
          · simp [frame, packuint32String]
          · rw [length_htonl]
            omega
        obtain ⟨rest, head⟩ := headFirst
        refine outcome_of_head fix unknown filled cutLater short head.symm ?_ stepped ended
        rw [← head, frame, packuint32String, List.nil_append, List.append_assoc,
          List.append_assoc] at starts
        exact List.append_cancel_left starts

end TcpStreamHandler

end SM.Network
