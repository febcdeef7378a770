import SM.Network.PackDealerMainSub
import SM.Network.TcpStreamHandler

/-!
# Requests on a TCP channel

`TcpChannel.clientEntry` sends a request under a new number, and takes the next message of the
stream for its answer. A call that gives up leaves its reply to the next call. The number of the
reply is compared with the one of the request, but a difference is only logged.
-/

namespace SM.Network

open SM.Lib SM.Utils

/-- A `TcpChannel` with the link to its server. -/
structure TcpChannel where
  handler : TcpStreamHandler
  dealer : PackDealerMainSub
  /-- The turns which are left to the `recvPack` of the call, if there is a call. -/
  retries : Option Nat := none
  /-- The numbers of the requests which the server may still answer. -/
  owed : List UInt32 := []
  /-- The bytes which the server sent, and no call has read. -/
  wire : Bytes := []
  /-- The bodies returned, each with the number of the request and the one of the reply. -/
  answers : List (UInt32 × UInt32 × Bytes) := []
deriving DecidableEq

namespace TcpChannel

inductive Event where
  /-- `clientEntry` up to its `recvPack`. -/
  | call (seq : UInt32)
  /-- A request is not delivered, or not answered. -/
  | lose (seq : UInt32)
  | reply (seq : UInt32) (mainc assc : Int) (body : Bytes)
  /-- The read of a turn; it fails when it gets nothing. -/
  | read (count : Nat)
deriving DecidableEq

/-- `_packnethead` and the message. -/
def packnet (nethead : NetHeadType) (msg : Bytes) : Bytes :=
  match nethead with
  | .fixPackLenPlaceHolder => TcpStreamHandler.frame msg
  | .noPlaceHolderFixLen | .noPlaceHolderVarLen => msg

/-- `clientEntry` after `recvPack` has returned true. There is no state after a failed assertion,
or when the pointer which `unpack` returns is null. -/
def finish (assertions : Bool) (channel : TcpChannel) (handler : TcpStreamHandler) :
    Option TcpChannel :=
  match channel.dealer.unpack assertions channel.dealer.seqnumrep handler.recvmsg with
  | some (some rep, seqnumrep, dealer) => some { channel with
      handler
      dealer := { dealer with seqnumrep }
      retries := none
      answers := channel.answers ++ [(channel.dealer.seqnumreq, seqnumrep, rep)] }
  | _ => none

/-- A turn of `recvPack`, with as many turns left after it. -/
def turn (assertions : Bool) (channel : TcpChannel) (retries count : Nat) : Option TcpChannel :=
  let wire := channel.wire.drop count
  match channel.handler.turn assertions (channel.wire.take count) with
  | none => none
  | some (some true, handler) => finish assertions { channel with wire } handler
  | some (some false, handler) => some { channel with wire, handler, retries := none }
  | some (none, handler) =>
      some { channel with wire, handler, retries := if retries = 0 then none else some retries }

def step (assertions : Bool) (channel : TcpChannel) : Event → Option TcpChannel
  | .call seq =>
      if channel.retries = none then some { channel with
        handler := channel.handler.reset
        dealer := { channel.dealer with seqnumreq := seq }
        retries := some (TcpStreamHandler.maxRetry 3)
        owed := channel.owed ++ [seq] }
      else none
  | .lose seq =>
      if seq ∈ channel.owed then some { channel with owed := channel.owed.erase seq } else none
  | .reply seq mainc assc body =>
      let msg := packmaincmd3Seq seq mainc assc [] body
      if seq ∈ channel.owed ∧ msg.length < 0x100000000 then some { channel with
        owed := channel.owed.erase seq
        wire := channel.wire ++ packnet channel.handler.nethead msg }
      else none
  | .read count =>
      match channel.retries with
      | some (retries + 1) =>
          if count ≤ 1024 ∧ count ≤ channel.wire.length then turn assertions channel retries count
          else none
      | _ => none

variable {assertions : Bool} {channel next : TcpChannel} {event : Event} {seq : UInt32}
  {handler after : TcpStreamHandler} {wire msg : Bytes} {flag : Option Bool} {count : Nat}

/-- Every body returned was unpacked from a reply with the number of its request. -/
def Paired (channel : TcpChannel) : Prop :=
  ∀ answer ∈ channel.answers, answer.1 = answer.2.1

/-- When a call starts, no reply to an earlier request is in the buffer, on the way, or to come. -/
def Admitted (channel : TcpChannel) : Event → Prop
  | .call _ => channel.owed = [] ∧ channel.wire = [] ∧ channel.handler.recvbuf = []
  | _ => True

/-- Nothing, or the rest of a reply with the given number, is still to be split off. -/
inductive Due (seq : UInt32) (handler : TcpStreamHandler) (wire : Bytes) : Prop where
  | nothing (empty : handler.recvbuf ++ wire = []) (unknown : handler.curpacklen = 0)
  | head (msg : Bytes) (fix : handler.nethead = .fixPackLenPlaceHolder)
      (carries : htonl seq <+: msg) (short : msg.length < 0x100000000)
      (unknown : handler.curpacklen = 0)
      (rest : handler.recvbuf ++ wire = TcpStreamHandler.frame msg)
  | body (msg : Bytes) (fix : handler.nethead = .fixPackLenPlaceHolder)
      (carries : htonl seq <+: msg) (known : handler.curpacklen.toNat = msg.length)
      (rest : handler.recvbuf ++ wire = msg)
  | plain (msg : Bytes) (bare : handler.nethead ≠ .fixPackLenPlaceHolder)
      (carries : htonl seq <+: msg) (unknown : handler.curpacklen = 0)
      (rest : handler.recvbuf ++ wire = msg)

/-- While a call waits, only its own reply is in the buffer, on the way or to come. -/
structure Own (channel : TcpChannel) : Prop where
  due : channel.retries ≠ none → Due channel.dealer.seqnumreq channel.handler channel.wire
  unanswered : channel.retries ≠ none → channel.owed ≠ [] →
    channel.owed = [channel.dealer.seqnumreq] ∧ channel.handler.recvbuf ++ channel.wire = [] ∧
      channel.handler.curpacklen = 0

/-- What a turn splits off is the beginning of the reply. -/
theorem split_plain (bare : handler.nethead ≠ .fixPackLenPlaceHolder)
    (unknown : handler.curpacklen = 0) {bsplit : Bool}
    (taken : handler.split assertions = some (bsplit, after)) :
    bsplit = true ∧ after.recvmsg <+: handler.recvbuf := by
  rw [TcpStreamHandler.split] at taken
  split at taken
  · exact absurd ‹_› bare
  · rw [unknown, UInt32.toNat_zero] at taken
    dsimp only at taken
    split at taken
    · cases taken
    · rw [if_pos (Nat.zero_le _)] at taken
      cases taken
      exact ⟨rfl, List.nil_prefix⟩
  · cases taken
    exact ⟨rfl, List.prefix_refl _⟩

/-- An empty read empties the buffer. -/
theorem turn_nothing (empty : handler.recvbuf ++ wire = []) :
    handler.turn assertions wire = some (some false, { handler with recvbuf := [] }) := by
  rw [TcpStreamHandler.turn, empty]
  rfl

/-- Without a head everything which came is the message. -/
theorem turn_plain (filled : handler.recvbuf ++ wire ≠ [])
    (bare : handler.nethead ≠ .fixPackLenPlaceHolder) (unknown : handler.curpacklen = 0)
    (turned : handler.turn assertions wire = some (flag, after)) :
    flag = some true ∧ after.recvmsg <+: handler.recvbuf ++ wire := by
  rw [TcpStreamHandler.turn, if_neg filled] at turned
  obtain ⟨⟨bsplit, split⟩, taken, same⟩ := Option.map_eq_some_iff.mp turned
  have bareOn : { handler with recvbuf := handler.recvbuf ++ wire }.nethead ≠
      .fixPackLenPlaceHolder := bare
  obtain ⟨rfl, first⟩ := split_plain bareOn unknown taken
  cases same
  exact ⟨rfl, first⟩

/-- A turn which finds the length of a reply. -/
theorem turn_reply_head (fix : handler.nethead = .fixPackLenPlaceHolder)
    (carries : htonl seq <+: msg) (short : msg.length < 0x100000000)
    (unknown : handler.curpacklen = 0) {read : Bytes} (filled : handler.recvbuf ++ read ≠ [])
    (whole : 4 ≤ (handler.recvbuf ++ read).length)
    (rest : (handler.recvbuf ++ read) ++ wire = TcpStreamHandler.frame msg)
    (turned : handler.turn assertions read = some (flag, after)) :
    (flag = some true → after.recvmsg <+: msg) ∧ (flag = none → Due seq after wire) := by
  have headFirst : htonl (UInt32.ofNat msg.length) <+: handler.recvbuf ++ read := by
    refine List.prefix_of_prefix_length_le ⟨msg, ?_⟩ ⟨wire, rest⟩ ?_
    · simp [TcpStreamHandler.frame, packuint32String]
    · rw [length_htonl]
      exact whole
  obtain ⟨later, head⟩ := headFirst
  have body : later ++ wire = msg := by
    rw [← head, TcpStreamHandler.frame, packuint32String, List.nil_append,
      List.append_assoc] at rest
    exact List.append_cancel_left rest
  have len : (UInt32.ofNat msg.length).toNat = msg.length := UInt32.toNat_ofNat_of_lt' short
  have known : (handler.headed (UInt32.ofNat msg.length) later).curpacklen.toNat = msg.length := len
  rw [TcpStreamHandler.turn_head fix filled unknown head.symm] at turned
  by_cases enough : 0 < msg.length ∧ msg.length ≤ later.length
  · rw [TcpStreamHandler.takeBody_enough (by rw [known]; exact enough.1)
      (by rw [known]; exact enough.2)] at turned
    cases turned
    refine ⟨fun _ => ?_, fun unflagged => absurd unflagged (Option.some_ne_none _)⟩
    exact (List.take_prefix _ _).trans ⟨wire, body⟩
  · rw [TcpStreamHandler.takeBody_short (by rw [known]; exact enough)] at turned
    cases turned
    exact ⟨fun flagged => absurd flagged.symm (Option.some_ne_none _),
      fun _ => .body msg fix carries known body⟩

/-- A turn splits off the beginning of the reply, or leaves its rest. -/
theorem Due.turn (due : Due seq handler wire)
    (turned : handler.turn assertions (wire.take count) = some (flag, after)) :
    (flag = some true → ∃ msg, htonl seq <+: msg ∧ after.recvmsg <+: msg) ∧
      (flag = none → Due seq after (wire.drop count)) := by
  by_cases empty : handler.recvbuf ++ wire.take count = []
  · rw [turn_nothing empty] at turned
    cases turned
    exact ⟨nofun, nofun⟩
  · have cut : (handler.recvbuf ++ wire.take count) ++ wire.drop count =
        handler.recvbuf ++ wire := by
      rw [List.append_assoc, List.take_append_drop]
    cases due with
    | nothing none unknown =>
        obtain ⟨noBuffer, noWire⟩ := List.append_eq_nil_iff.mp none
        exact absurd (by rw [noBuffer, noWire, List.take_nil]; rfl) empty
    | head msg fix carries short unknown rest =>
        by_cases early : (handler.recvbuf ++ wire.take count).length < 4
        · rw [TcpStreamHandler.turn_unknown fix empty unknown early] at turned
          cases turned
          refine ⟨nofun, fun _ => ?_⟩
          exact .head msg fix carries short unknown (cut.trans rest)
        · obtain ⟨split, waits⟩ := turn_reply_head fix carries short unknown empty
            (Nat.not_lt.mp early) (cut.trans rest) turned
          exact ⟨fun flagged => ⟨msg, carries, split flagged⟩, waits⟩
    | body msg fix carries known rest =>
        have nonzero : handler.curpacklen ≠ 0 := by
          intro zero
          rw [zero, UInt32.toNat_zero] at known
          have bound := carries.length_le
          rw [length_htonl, ← known] at bound
          exact absurd bound (by decide)
        by_cases enough : handler.curpacklen.toNat ≤ (handler.recvbuf ++ wire.take count).length
        · rw [TcpStreamHandler.turn_body fix empty nonzero enough] at turned
          cases turned
          refine ⟨fun _ => ⟨msg, carries, ?_⟩, nofun⟩
          exact (List.take_prefix _ _).trans ⟨_, cut.trans rest⟩
        · rw [TcpStreamHandler.turn_waits fix empty nonzero (Nat.not_le.mp enough)] at turned
          cases turned
          refine ⟨nofun, fun _ => ?_⟩
          exact .body msg fix carries known (cut.trans rest)
    | plain msg bare carries unknown rest =>
        obtain ⟨rfl, first⟩ := turn_plain empty bare unknown turned
        exact ⟨fun _ => ⟨msg, carries, first.trans ⟨_, cut.trans rest⟩⟩,
          nofun⟩

/-- The beginning of a reply is unpacked with the number of the reply. -/
theorem finish_number (carries : htonl seq <+: msg) (first : handler.recvmsg <+: msg)
    (finished : finish assertions channel handler = some next) :
    next.retries = none ∧ ∃ rep, next.answers =
      channel.answers ++ [(channel.dealer.seqnumreq, seq, rep)] := by
  rw [finish] at finished
  split at finished
  · next rep seqnumrep dealer unpacked =>
      cases finished
      obtain ⟨⟨whole, _⟩, _, rfl, _⟩ := PackDealerMainSub.unpack_some_iff.mp unpacked
      have starts : htonl seq <+: handler.recvmsg := by
        refine List.prefix_of_prefix_length_le carries first ?_
        rw [length_htonl]
        omega
      obtain ⟨rest, same⟩ := starts
      refine ⟨rfl, rep, ?_⟩
      rw [← same, List.take_left' (length_htonl seq), ntohl_htonl]
  · cases finished

/-! ## Runs of calls -/

/-- An idle channel has no call to answer. -/
theorem own_of_idle (idle : channel.retries = none) : channel.Own :=
  ⟨fun waiting => absurd idle waiting, fun waiting => absurd idle waiting⟩

/-- A turn keeps the replies with their calls. -/
theorem Own.turn (own : channel.Own) (paired : channel.Paired)
    (waiting : channel.retries ≠ none) {retries : Nat}
    (stepped : TcpChannel.turn assertions channel retries count = some next) :
    next.Own ∧ next.Paired := by
  have due := own.due waiting
  rw [TcpChannel.turn] at stepped
  split at stepped
  · cases stepped
  · next handler turned =>
      obtain ⟨msg, carries, first⟩ := (due.turn turned).1 rfl
      obtain ⟨idle, rep, shown⟩ := finish_number carries first stepped
      refine ⟨own_of_idle idle, ?_⟩
      intro answer member
      rw [shown, List.mem_append, List.mem_singleton] at member
      rcases member with before | rfl
      · exact paired answer before
      · rfl
  · cases stepped
    exact ⟨own_of_idle rfl, paired⟩
  · next handler turned =>
      cases stepped
      refine ⟨⟨fun _ => (due.turn turned).2 rfl, ?_⟩, paired⟩
      -- Without an answer there is nothing to read, and the turn ends the call.
      intro _ owed
      obtain ⟨_, empty, _⟩ := own.unanswered waiting owed
      obtain ⟨noBuffer, noWire⟩ := List.append_eq_nil_iff.mp empty
      rw [turn_nothing (by rw [noBuffer, noWire, List.take_nil]; rfl)] at turned
      cases turned

/-- The reply to the one call which is owed completes it. -/
theorem Own.reply (own : channel.Own) (waiting : channel.retries ≠ none)
    (owed : seq ∈ channel.owed) (carries : htonl seq <+: msg)
    (short : msg.length < 0x100000000) :
    channel.owed.erase seq = [] ∧ Due channel.dealer.seqnumreq channel.handler
      (channel.wire ++ packnet channel.handler.nethead msg) := by
  obtain ⟨one, empty, unknown⟩ := own.unanswered waiting (List.ne_nil_of_mem owed)
  obtain ⟨noBuffer, noWire⟩ := List.append_eq_nil_iff.mp empty
  rw [one] at owed ⊢
  rw [← List.mem_singleton.mp owed]
  refine ⟨List.erase_cons_head .., ?_⟩
  rw [noWire, List.nil_append]
  by_cases fix : channel.handler.nethead = .fixPackLenPlaceHolder
  · refine .head msg fix carries short unknown ?_
    rw [noBuffer, fix]
    rfl
  · refine .plain msg fix carries unknown ?_
    rw [noBuffer, List.nil_append]
    unfold packnet
    split
    · exact absurd ‹_› fix
    · rfl
    · rfl

/-- Every event keeps the replies with their calls. -/
theorem Own.step (own : channel.Own) (paired : channel.Paired) (admitted : channel.Admitted event)
    (stepped : channel.step assertions event = some next) : next.Own ∧ next.Paired := by
  cases event with
  | call seq =>
      obtain ⟨_, stepped⟩ := Option.ite_none_right_eq_some.mp stepped
      cases stepped
      obtain ⟨noOwed, noWire, noBuffer⟩ := admitted
      have empty : channel.handler.recvbuf ++ channel.wire = [] := by
        rw [noBuffer, noWire]
        rfl
      refine ⟨⟨fun _ => .nothing empty rfl, fun _ _ => ⟨?_, empty, rfl⟩⟩, paired⟩
      rw [noOwed]
      rfl
  | lose seq =>
      obtain ⟨owed, stepped⟩ := Option.ite_none_right_eq_some.mp stepped
      cases stepped
      refine ⟨⟨own.due, ?_⟩, paired⟩
      intro waiting left
      obtain ⟨one, _⟩ := own.unanswered waiting (List.ne_nil_of_mem owed)
      rw [one] at owed left
      rw [← List.mem_singleton.mp owed] at left
      exact absurd (List.erase_cons_head ..) left
  | reply seq mainc assc body =>
      obtain ⟨⟨owed, short⟩, stepped⟩ := Option.ite_none_right_eq_some.mp stepped
      cases stepped
      have carries := @PackDealerMainSub.packmaincmd3Seq_head seq mainc assc body
      refine ⟨⟨fun waiting => (own.reply waiting owed carries short).2, ?_⟩, paired⟩
      intro waiting left
      exact absurd (own.reply waiting owed carries short).1 left
  | read count =>
      rw [TcpChannel.step] at stepped
      split at stepped
      · next retries waiting =>
          obtain ⟨_, stepped⟩ := Option.ite_none_right_eq_some.mp stepped
          exact own.turn paired (waiting ▸ Option.some_ne_none _) stepped
      · cases stepped

/-- In every run whose calls start with no earlier reply in the buffer, on the way or to come,
every answer is the one to its request. -/
theorem paired_of_every (assertions : Bool) (nethead : NetHeadType) (dealer : PackDealerMainSub)
    (events : List Event)
    (every : Machine.Every (step assertions) Admitted { handler := { nethead }, dealer } events) :
    Machine.Throughout (step assertions) Paired { handler := { nethead }, dealer } events := by
  have both := Machine.throughout_of_every (fun channel => Own channel ∧ Paired channel) Admitted
    (fun known admitted stepped => known.1.step known.2 admitted stepped)
    ⟨own_of_idle rfl, fun _ member => absurd member List.not_mem_nil⟩ every
  intro earlier later reached split ran
  exact (both earlier later reached split ran).2

/-- The second request is sent when the reply to the first one has been read, in two pieces. -/
theorem paired_of_every_two :
    Machine.Throughout (step true) Paired
      { handler := { nethead := .fixPackLenPlaceHolder }, dealer := { mainc := 1, assc := 2 } }
      [.call 1, .reply 1 1 2 [7], .read 5, .read 12, .call 2, .reply 2 1 2 [8, 9], .read 18] := by
  refine paired_of_every true .fixPackLenPlaceHolder ⟨1, 2, 0, 0⟩ _ ⟨⟨rfl, rfl, rfl⟩, ?_⟩
  rintro _ ⟨⟩
  refine ⟨trivial, ?_⟩
  rintro _ ⟨⟩
  refine ⟨trivial, ?_⟩
  rintro _ ⟨⟩
  refine ⟨trivial, ?_⟩
  rintro _ ⟨⟩
  refine ⟨⟨rfl, rfl, rfl⟩, ?_⟩
  rintro _ ⟨⟩
  exact ⟨trivial, fun _ _ => ⟨trivial, fun _ _ => trivial⟩⟩

/-- The reply to the first request comes too slowly, and answers the second one. -/
theorem paired_fails :
    ∃ final, Machine.run (step true)
        { handler := { nethead := .fixPackLenPlaceHolder }, dealer := { mainc := 1, assc := 2 } }
        [.call 1, .reply 1 1 2 [7], .read 1, .read 1, .read 1, .call 2, .read 14] = some final ∧
      final.answers = [(2, 1, [7, 7])] ∧ ¬ Paired final := by
  refine ⟨⟨⟨.fixPackLenPlaceHolder, 0, [], packmaincmd3Seq 1 1 2 [] [7]⟩, ⟨1, 2, 2, 1⟩, none, [2],
    [], [(2, 1, [7, 7])]⟩, by decide, rfl, ?_⟩
  intro paired
  exact absurd (paired _ List.mem_cons_self) (by decide)

end TcpChannel

end SM.Network
