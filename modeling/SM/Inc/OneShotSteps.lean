import SM.Inc.OneShotChannel

/-!
# The steps of the two ends

Each step of a pair is a call on its channel, or none: one lemma for each operation.
-/

namespace SM.Inc.OneShot

variable {T : Type} {channel : Channel T} {pair next : Pair T} {sender : Sender} {storage : Option T}
  {base : UInt8}

/-- What follows the channel does so under another name. -/
theorem Follows.of_eq {other : Pair T} (follows : Follows channel pair) (same : other = pair) :
    Follows channel other :=
  same ▸ follows

/-! ## Waits -/

/-- A wait which is found was started. -/
theorem lt_of_getElem? {waits : List (Option ErrorCode)} {op : Nat} {code : Option ErrorCode}
    (found : waits[op]? = some code) : op < waits.length :=
  (List.getElem?_eq_some_iff.mp found).1

/-- A wait which is still to complete. -/
theorem pending_unended {waits : List (Option ErrorCode)} {op : Nat} {code : Option ErrorCode}
    (found : waits[op]? = some code) : (waits.set op none)[op]? = some none :=
  List.getElem?_set_self (lt_of_getElem? found)

/-- The completion of the wait which is still to complete. -/
theorem set_of_getElem? {waits : List (Option ErrorCode)} {op : Nat} {code : Option ErrorCode}
    (found : waits[op]? = some code) : (waits.set op none).set op code = waits := by
  obtain ⟨bound, rfl⟩ := List.getElem?_eq_some_iff.mp found
  rw [List.set_set, List.set_getElem_self]

section

variable {receiver : Receiver} {state : UInt8} {waitOp pending : Option Nat} {deleted : Bool}

/-- A shared state which is there can be touched. -/
@[simp] theorem shape_touch :
    (shape channel sender receiver state storage waitOp pending false).touch =
      shape channel sender receiver state storage waitOp pending false :=
  rfl

/-- Completing the pending wait leaves none pending. -/
theorem shape_complete {op : Nat} {ec : ErrorCode} (ended : channel.waits[op]? = some (some ec)) :
    (shape channel sender receiver state storage waitOp (some op) deleted).complete (some op) ec =
      shape channel sender receiver state storage waitOp none deleted := by
  simp [Pair.complete, shape, pending_unended ended, set_of_getElem? ended]

/-- A completion by the receiver. -/
theorem shape_completed {op : Nat} {ec : ErrorCode} (ended : channel.waits[op]? = some (some ec))
    (after : Receiver) :
    { (shape channel sender receiver state storage waitOp (some op) deleted).complete (some op) ec with
      receiver := after } = shape channel sender after state storage waitOp none deleted := by
  rw [shape_complete ended]
  rfl

end

/-! ## The sender -/

/-- An outcome before any wait is one that came. -/
theorem base_early {outcome : Outcome T} (came : outcome ≠ .undecided)
    (same : channel.outcome = outcome) : Base channel (outcome.after empty) := by
  cases outcome with
  | undecided => exact absurd rfl came
  | value v => exact .engaged v same
  | broken => exact .detached same

/-- An outcome behind a wait is one that came. -/
theorem base_late {outcome : Outcome T} {op : Nat} (came : outcome ≠ .undecided)
    (same : channel.outcome = outcome) (armed : channel.armed = some op) :
    Base channel (outcome.after waiting) := by
  cases outcome with
  | undecided => exact absurd rfl came
  | value v => exact .sent v same (by simp [armed])
  | broken => exact .detached same

/-- Before any wait the state is not that of a value received. -/
theorem early_ne_sent (outcome : Outcome T) : outcome.after empty ≠ sent := by
  cases outcome with
  | undecided => exact (by decide : detached ≠ sent)
  | value v => exact (by decide : empty + 1 ≠ sent)
  | broken => exact (by decide : detached ≠ sent)

/-- The step with which the sender comes to its outcome. -/
theorem Undecided.decided (stage : Undecided channel sender storage pair) {outcome : Outcome T}
    (came : outcome ≠ .undecided) :
    Follows (channel.decided outcome) { pair with
      state := outcome.after pair.state
      sender := outcome.place pair.state
      storage := outcome.object } := by
  have early := @base_early _ (channel.decided outcome) _ came rfl
  cases stage with
  | idle armed opened =>
      refine (Follows.settled early (.inl rfl) (.idle opened)).of_eq ?_
      simp [shape, Channel.decided, armed]
  | suspended op armed opened unended place =>
      have late := @base_late _ (channel.decided outcome) _ op came rfl armed
      have ended : (channel.decided outcome).waits[op]? = some outcome.verdict := by
        simp [Channel.decided, armed, lt_of_getElem? unended]
      refine (Follows.met late (.mk op armed opened ended (.inl ⟨rfl, place⟩))).of_eq ?_
      simp [shape, Channel.decided, armed, List.set_set]
  | stored op armed opened unended =>
      have ended : (channel.decided outcome).waits[op]? = some outcome.verdict := by
        simp [Channel.decided, armed, lt_of_getElem? unended]
      refine (Follows.settled early (.inl rfl)
        (.stored op armed opened ended (early_ne_sent outcome))).of_eq ?_
      simp [shape, Channel.decided, armed, List.set_set]
  | cancelling op armed opened ended =>
      have still : (channel.decided outcome).waits[op]? = some (some (some .cancelled)) := by
        simpa [Channel.decided, armed] using ended
      refine (Follows.settled early (.inl rfl) (.cancelling op armed opened still)).of_eq ?_
      simp [shape, Channel.decided, armed]
  | cancelled op armed opened =>
      refine (Follows.settled early (.inl rfl) (.cancelled op armed opened)).of_eq ?_
      simp [shape, Channel.decided, armed]
  | leaving armed closed =>
      refine (@Follows.left _ (channel.decided outcome) _ (.leaving empty)
        (outcome.after detached) came armed closed (.inl rfl) .met).of_eq ?_
      simp [shape, Channel.decided, armed]
  | gone armed closed =>
      refine (@Follows.left _ (channel.decided outcome) _ .gone
        (outcome.after detached) came armed closed (.inr rfl) .met).of_eq ?_
      simp [shape, Channel.decided, armed]

/-- What is known of the pair before the sender has exchanged the state. -/
theorem Undecided.same (stage : Undecided channel sender storage pair) : pair.sender = sender ∧
    pair.storage = storage ∧ pair.deleted = false ∧ pair.fault = false := by
  cases stage <;> exact ⟨rfl, rfl, rfl, rfl⟩

/-- The sender does not stand in the way of the receiver. -/
theorem Undecided.moved (stage : Undecided channel sender storage pair) (other : Sender)
    (object : Option T) :
    Undecided channel other object { pair with sender := other, storage := object } := by
  cases stage with
  | idle armed opened => exact .idle armed opened
  | suspended op armed opened unended place => exact .suspended op armed opened unended place
  | stored op armed opened unended => exact .stored op armed opened unended
  | cancelling op armed opened ended => exact .cancelling op armed opened ended
  | cancelled op armed opened => exact .cancelled op armed opened
  | leaving armed closed => exact .leaving armed closed
  | gone armed closed => exact .gone armed closed

/-- The place of the sender does not matter to a settled pair. -/
theorem Settled.moved (stage : Settled channel base sender pair) (other : Sender) :
    Settled channel base other { pair with sender := other } := by
  cases stage with
  | idle opened => exact .idle opened
  | stored op armed opened ended fresh => exact .stored op armed opened ended fresh
  | exchanged op armed opened ended fresh => exact .exchanged op armed opened ended fresh
  | restored op armed opened ended => exact .restored op armed opened ended
  | awaited op armed opened => exact .awaited op armed opened
  | cancelling op armed opened ended => exact .cancelling op armed opened ended
  | restoring opened => exact .restoring opened
  | cancelled op armed opened => exact .cancelled op armed opened
  | leaving closed => exact .leaving closed
  | destroyed closed => exact .destroyed closed
  | gone closed => exact .gone closed

/-- A settled pair has its sender where it is said to be. -/
theorem Settled.sender_eq (stage : Settled channel base sender pair) : pair.sender = sender := by
  cases stage <;> rfl

/-- A base is one of a decided outcome. -/
theorem Base.came (outcome : Base channel base) : channel.outcome ≠ .undecided := by
  cases outcome <;> simp_all

/-- Behind the outcome the sender holds nothing. -/
theorem Follows.sender_ne (follows : Follows channel pair) (came : channel.outcome ≠ .undecided) :
    pair.sender ≠ .holding ∧ pair.sender ≠ .constructed := by
  cases follows with
  | undecided outcome preparing stage => exact absurd outcome came
  | met outcome stage =>
      cases stage
      cases place : channel.outcome <;> simp [shape, Outcome.place]
  | settled outcome done stage =>
      rw [stage.sender_eq]
      rcases done with rfl | rfl
      · cases place : channel.outcome <;> simp [Outcome.place]
      · simp
  | left outcome armed closed place stage =>
      cases stage with
      | met => cases place : channel.outcome <;> simp [shape, Outcome.place]
      | destroyed => simp [shape]
      | gone => simp [shape]

/-- While the sender holds its end nothing is decided. -/
theorem Follows.holding (follows : Follows channel pair) (holding : pair.sender = .holding) :
    channel.outcome = .undecided ∧ Undecided channel .holding none pair := by
  by_cases came : channel.outcome = .undecided
  · refine ⟨came, ?_⟩
    cases follows with
    | undecided outcome preparing stage =>
        cases preparing with
        | holding => exact stage
        | constructed v =>
            rw [stage.same.1] at holding
            cases holding
    | met outcome stage => exact absurd came outcome.came
    | settled outcome done stage => exact absurd came outcome.came
    | left outcome => exact absurd came outcome
  · exact absurd holding (follows.sender_ne came).1

/-- A send constructs the value, if the sender holds its end. -/
theorem Pair.send_eq {value : T} (sent : pair.send value = some next) : pair.sender = .holding ∧
    next = { pair.touch.construct value with sender := .constructed } := by
  unfold Pair.send at sent
  split at sent
  · rename_i holding
    exact ⟨holding, (Option.some.inj sent).symm⟩
  · cases sent

/-- A sender that goes exchanges the state, if it holds its end. -/
theorem Pair.senderDetached_eq (stepped : pair.senderDetached = some next) :
    pair.sender = .holding ∧
      next = { pair.touch with state := detached, sender := .exchanged pair.state } := by
  unfold Pair.senderDetached at stepped
  split at stepped
  · rename_i holding
    exact ⟨holding, (Option.some.inj stepped).symm⟩
  · cases stepped

/-- Constructing the value changes nothing for the channel. -/
theorem Follows.send {value : T} (follows : Follows channel pair)
    (sent : pair.send value = some next) : Follows channel next := by
  obtain ⟨holding, rfl⟩ := Pair.send_eq sent
  obtain ⟨undecided, stage⟩ := follows.holding holding
  obtain ⟨-, storage, deleted, fault⟩ := stage.same
  refine (Follows.undecided undecided (.constructed value)
    (stage.moved .constructed (some value))).of_eq ?_
  simp [Pair.touch, Pair.construct, storage, deleted, fault]

/-- A sender that goes decides the channel. -/
theorem Follows.senderDetached (follows : Follows channel pair)
    (stepped : pair.senderDetached = some next) :
    Matched channel next (linearized pair .senderDetached) := by
  obtain ⟨holding, rfl⟩ := Pair.senderDetached_eq stepped
  obtain ⟨undecided, stage⟩ := follows.holding holding
  obtain ⟨-, storage, deleted, fault⟩ := stage.same
  have came : (Outcome.broken : Outcome T) ≠ .undecided := by simp
  have decided := stage.decided came
  refine .called (by rw [Channel.call, undecided]) (decided.of_eq ?_)
  simp [Pair.touch, storage, deleted, fault, Outcome.after, Outcome.place, Outcome.object]

/-- Behind its exchange the sender completes the wait it has met, and goes. -/
theorem senderStep_of_place {outcome : Outcome T} {code : ErrorCode} {met : UInt8}
    (verdict : outcome.verdict = some code) (place : pair.sender = outcome.place met) :
    (met = waiting → pair.senderStep =
        some { pair.touch.complete pair.waitOp code with sender := .gone }) ∧
      (met = empty → pair.senderStep = some { pair with sender := .gone }) := by
  cases outcome with
  | undecided => cases verdict
  | value v =>
      cases verdict
      constructor <;> rintro rfl <;> simp +decide [Pair.senderStep, place, Outcome.place]
  | broken =>
      cases verdict
      constructor <;> rintro rfl <;> simp +decide [Pair.senderStep, place, Outcome.place]

/-- A decided outcome has a code. -/
theorem Base.verdict (outcome : Base channel base) : ∃ code, channel.outcome.verdict = some code := by
  cases outcome <;> simp_all [Outcome.verdict]

/-- The completion of the wait which the sender met. -/
theorem Met.senderStep (outcome : Base channel base) (stage : Met channel base pair)
    (stepped : pair.senderStep = some next) : Follows channel next := by
  obtain ⟨op, armed, opened, ended, place⟩ := stage
  rename_i receiver state
  obtain ⟨code, verdict⟩ := outcome.verdict
  have completed : next = shape channel .gone receiver state channel.outcome.object (some op) none
      false := by
    rw [(senderStep_of_place verdict rfl).1 rfl, Option.some.injEq] at stepped
    rw [verdict] at ended
    have complete := @shape_complete _ channel (channel.outcome.place waiting)
      channel.outcome.object receiver state (some op) false op code ended
    rw [← stepped, shape_touch]
    simp only [shape] at complete ⊢
    rw [complete]
  subst completed
  rcases place with ⟨rfl, rfl | rfl⟩ | ⟨rfl, rfl⟩
  · exact .settled outcome (.inr rfl) (armed ▸ .idle opened)
  · exact .settled outcome (.inr rfl) (.awaited op armed opened)
  · exact .settled outcome (.inr rfl) (armed ▸ .restoring opened)

/-- A sender behind its exchange changes nothing for the channel. -/
theorem Settled.senderStep (outcome : Base channel base) (done : Done channel.outcome sender)
    (stage : Settled channel base sender pair) (stepped : pair.senderStep = some next) :
    Follows channel next := by
  obtain ⟨code, verdict⟩ := outcome.verdict
  rcases done with early | gone
  · have place : pair.sender = channel.outcome.place empty := stage.sender_eq.trans early
    rw [(senderStep_of_place verdict place).2 rfl, Option.some.injEq] at stepped
    rw [← stepped]
    exact .settled outcome (.inr rfl) (stage.moved .gone)
  · rw [Pair.senderStep, stage.sender_eq, gone] at stepped
    cases stepped

/-- The sender destroys the object and the shared state behind the receiver. -/
theorem Left.senderStep {receiver : Receiver} {state : UInt8} (came : channel.outcome ≠ .undecided)
    (stage : Left channel receiver state pair) (stepped : pair.senderStep = some next) :
    Left channel receiver state next := by
  cases stage with
  | met =>
      cases outcome : channel.outcome with
      | undecided => exact absurd outcome came
      | value v =>
          have destroyed : next = shape channel .destroyed receiver state none none none false := by
            simpa [Pair.senderStep, shape, outcome, Outcome.place, Outcome.object, Pair.touch,
              Pair.destroy] using stepped.symm
          exact destroyed ▸ .destroyed
      | broken =>
          have deleted : next = shape channel .gone receiver state none none none true := by
            simpa [Pair.senderStep, shape, outcome, Outcome.place, Outcome.object, Pair.delete]
              using stepped.symm
          exact deleted ▸ .gone
  | destroyed =>
      have deleted : next = shape channel .gone receiver state none none none true :=
        (Option.some.inj stepped).symm
      exact deleted ▸ .gone
  | gone => cases stepped

/-- The exchange of the state decides the channel, and no other access of the sender does. -/
theorem Follows.senderStep (follows : Follows channel pair) (stepped : pair.senderStep = some next) :
    Matched channel next (linearized pair .sender) := by
  by_cases constructed : pair.sender = .constructed
  · by_cases came : channel.outcome = .undecided
    · cases follows with
      | undecided outcome preparing stage =>
          obtain ⟨place, storage, deleted, fault⟩ := stage.same
          cases preparing with
          | holding =>
              rw [constructed] at place
              cases place
          | constructed v =>
              have came : Outcome.value v ≠ .undecided := by simp
              rw [Pair.senderStep, place, Option.some.injEq] at stepped
              subst stepped
              have call : linearized pair .sender = some (.send v) := by
                simp [linearized, constructed, storage]
              rw [call]
              refine .called (by rw [Channel.call, outcome]) ((stage.decided came).of_eq ?_)
              simp [Pair.touch, storage, deleted, fault, Outcome.after, Outcome.place,
                Outcome.object]
      | met outcome stage => exact absurd came outcome.came
      | settled outcome done stage => exact absurd came outcome.came
      | left outcome => exact absurd came outcome
    · exact absurd constructed (follows.sender_ne came).2
  · have silent : linearized pair .sender = none := if_neg constructed
    rw [silent]
    refine .still ?_
    cases follows with
    | undecided outcome preparing stage =>
        have place := stage.same.1
        cases preparing with
        | holding =>
            rw [Pair.senderStep, place] at stepped
            cases stepped
        | constructed v => exact absurd place constructed
    | met outcome stage => exact stage.senderStep outcome stepped
    | settled outcome done stage => exact stage.senderStep outcome done stepped
    | left outcome armed closed place stage =>
        exact .left outcome armed closed place (stage.senderStep outcome stepped)

/-! ## The receiver begins -/

/-- A pair whose receiver is not halfway. -/
inductive Resting (channel : Channel T) : Sender → UInt8 → Option T → Option Nat → Prop
  | fresh {sender : Sender} {storage : Option T} (outcome : channel.outcome = .undecided)
      (preparing : Preparing sender storage) (armed : channel.armed = none) :
      Resting channel sender empty storage none
  | suspended {sender : Sender} {storage : Option T} (op : Nat)
      (outcome : channel.outcome = .undecided) (preparing : Preparing sender storage)
      (armed : channel.armed = some op) (unended : channel.waits[op]? = some none) :
      Resting channel sender waiting storage (some op)
  | met {base : UInt8} (op : Nat) (outcome : Base channel base) (armed : channel.armed = some op)
      (ended : channel.waits[op]? = some channel.outcome.verdict) :
      Resting channel (channel.outcome.place waiting) base channel.outcome.object (some op)
  | settled {base : UInt8} {sender : Sender} (outcome : Base channel base)
      (done : Done channel.outcome sender) :
      Resting channel sender base channel.outcome.object none

/-- A pair at rest follows a channel which is open. -/
theorem Resting.follows {state : UInt8} {pending : Option Nat}
    (resting : Resting channel sender state storage pending) (opened : channel.closed = false) :
    Follows channel (shape channel sender .idle state storage channel.armed pending false) := by
  cases resting with
  | fresh outcome preparing armed =>
      rw [armed]
      exact .undecided outcome preparing (.idle armed opened)
  | suspended op outcome preparing armed unended =>
      rw [armed]
      exact .undecided outcome preparing (.suspended op armed opened unended (.inl rfl))
  | met op outcome armed ended =>
      rw [armed]
      exact .met outcome (.mk op armed opened ended (.inl ⟨rfl, .inl rfl⟩))
  | settled outcome done => exact .settled outcome done (.idle opened)

/-- What a receiver finds which is not halfway. -/
theorem Follows.resting (follows : Follows channel pair) (idle : pair.receiver = .idle) :
    channel.closed = false ∧ ∃ sender state storage pending,
      pair = shape channel sender .idle state storage channel.armed pending false ∧
        Resting channel sender state storage pending := by
  cases follows with
  | undecided outcome preparing stage =>
      cases stage with
      | idle armed opened =>
          exact ⟨opened, _, _, _, _, by rw [armed], .fresh outcome preparing armed⟩
      | suspended op armed opened unended place =>
          obtain rfl : _ = Receiver.idle := idle
          exact ⟨opened, _, _, _, _, by rw [armed], .suspended op outcome preparing armed unended⟩
      | stored => cases idle
      | cancelling => cases idle
      | cancelled => cases idle
      | leaving => cases idle
      | gone => cases idle
  | met outcome stage =>
      obtain ⟨op, armed, opened, ended, place⟩ := stage
      obtain rfl : _ = Receiver.idle := idle
      rcases place with ⟨rfl, -⟩ | ⟨-, halfway⟩
      · exact ⟨opened, _, _, _, _, by rw [armed], .met op outcome armed ended⟩
      · cases halfway
  | settled outcome done stage =>
      cases stage with
      | idle opened => exact ⟨opened, _, _, _, _, rfl, .settled outcome done⟩
      | stored => cases idle
      | exchanged => cases idle
      | restored => cases idle
      | awaited => cases idle
      | cancelling => cases idle
      | restoring => cases idle
      | cancelled => cases idle
      | leaving => cases idle
      | destroyed => cases idle
      | gone => cases idle
  | left outcome armed closed place stage =>
      rcases place with rfl | rfl <;> cases stage <;> cases idle

/-- A second wait is refused at once. -/
theorem asyncWait_armed {op : Nat} {state : UInt8} {pending : Option Nat}
    (armed : channel.armed = some op) (inside : ∀ op, pending = some op → op < channel.waits.length)
    (stepped : (shape channel sender .idle state storage (some op) pending false).asyncWait =
      some next) :
    next = shape channel.wait sender .idle state storage (some op) pending false := by
  rw [← Option.some.inj stepped]
  cases pending with
  | none =>
      simp [shape, Pair.complete, Pair.touch, Channel.wait, armed]
  | some late =>
      have room := inside late rfl
      simp [shape, Pair.complete, Pair.touch, Channel.wait, armed, List.set_append_left, room]

/-- A first wait. -/
theorem asyncWait_unarmed {state : UInt8} (armed : channel.armed = none)
    (stepped : (shape channel sender .idle state storage none none false).asyncWait = some next) :
    next = shape channel.wait sender (.stored channel.waits.length) state storage
      (some channel.waits.length) (some channel.waits.length) false := by
  rw [← Option.some.inj stepped]
  simp [shape, Pair.touch, Channel.wait, armed]

/-- A wait leaves the outcome. -/
@[simp] theorem wait_outcome : channel.wait.outcome = channel.outcome := by
  cases armed : channel.armed <;> simp [Channel.wait, armed]

/-- A wait does not close the channel. -/
@[simp] theorem wait_closed : channel.wait.closed = channel.closed := by
  cases armed : channel.armed <;> simp [Channel.wait, armed]

/-- The wait which was armed stays so. -/
theorem wait_armed {op : Nat} (armed : channel.armed = some op) : channel.wait.armed = some op := by
  simp [Channel.wait, armed]

/-- A base of an outcome is one of the same outcome with a wait armed since. -/
theorem Base.of_same {other : Channel T} (outcome : Base channel base)
    (same : other.outcome = channel.outcome) (armed : channel.armed ≠ none → other.armed ≠ none) :
    Base other base := by
  cases outcome with
  | engaged v came => exact .engaged v (same.trans came)
  | sent v came some => exact .sent v (same.trans came) (armed some)
  | detached came => exact .detached (same.trans came)

/-- A wait leaves the base. -/
theorem Base.wait (outcome : Base channel base) : Base channel.wait base :=
  outcome.of_same wait_outcome fun _ => by cases armed : channel.armed <;> simp [Channel.wait, armed]

/-- Without a wait the base is not that of a value received. -/
theorem Base.fresh (outcome : Base channel base) (armed : channel.armed = none) :
    base ≠ OneShot.sent := by
  rintro rfl
  cases outcome with
  | sent v came some => exact some armed

/-- A wait leaves the codes of those before it. -/
theorem wait_waits {op : Nat} {code : Option ErrorCode} (found : channel.waits[op]? = some code) :
    channel.wait.waits[op]? = some code := by
  have room := lt_of_getElem? found
  cases armed : channel.armed <;>
    simpa [Channel.wait, armed, List.getElem?_append_left room] using found

/-- A wait starts at an idle receiver. -/
theorem Pair.asyncWait_idle (stepped : pair.asyncWait = some next) : pair.receiver = .idle := by
  unfold Pair.asyncWait at stepped
  split at stepped
  · assumption
  · assumption
  · cases stepped

/-- A wait of the pair is one of the channel. -/
theorem Follows.asyncWait (follows : Follows channel pair) (stepped : pair.asyncWait = some next) :
    Matched channel next (linearized pair .asyncWait) := by
  obtain ⟨opened, sender, state, storage, pending, rfl, resting⟩ :=
    follows.resting (Pair.asyncWait_idle stepped)
  have called : channel.call .wait = some channel.wait := by
    simp [Channel.call, opened]
  have still : channel.wait.closed = false := wait_closed.trans opened
  refine .called called ?_
  cases armed : channel.armed with
  | none =>
      rw [armed] at stepped
      cases resting with
      | fresh outcome preparing armed =>
          cases asyncWait_unarmed armed stepped
          refine .undecided (wait_outcome.trans outcome) preparing (.stored _ ?_ still ?_)
          · simp [Channel.wait, armed]
          · simp [Channel.wait, armed, outcome, Outcome.verdict]
      | suspended op outcome preparing found unended =>
          rw [armed] at found
          cases found
      | met op outcome found ended =>
          rw [armed] at found
          cases found
      | settled outcome done =>
          cases asyncWait_unarmed armed stepped
          have stage := @Settled.stored _ channel.wait state sender channel.waits.length
            (by simp [Channel.wait, armed]) still (by simp [Channel.wait, armed])
            (outcome.fresh armed)
          rw [wait_outcome] at stage
          exact .settled outcome.wait (by rwa [wait_outcome]) stage
  | some op =>
      rw [armed] at stepped
      have next_eq : next = shape channel.wait sender .idle state storage (some op) pending false := by
        refine asyncWait_armed armed ?_ stepped
        rintro late rfl
        cases resting with
        | suspended op outcome preparing armed unended => exact lt_of_getElem? unended
        | met op outcome armed ended => exact lt_of_getElem? ended
      rw [next_eq, ← wait_armed armed]
      refine Resting.follows ?_ still
      cases resting with
      | fresh outcome preparing found =>
          rw [armed] at found
          cases found
      | suspended op outcome preparing armed unended =>
          exact .suspended op (wait_outcome.trans outcome) preparing (wait_armed armed)
            (wait_waits unended)
      | met op outcome armed ended =>
          have resting := @Resting.met _ channel.wait state op outcome.wait (wait_armed armed)
            (by rw [wait_waits ended, wait_outcome])
          rwa [wait_outcome] at resting
      | settled outcome done =>
          have resting := @Resting.settled _ channel.wait state sender outcome.wait
            (by rwa [wait_outcome])
          rwa [wait_outcome] at resting

/-- A wait which has not ended is armed, and nothing is decided. -/
theorem Channel.Sound.unended (sound : channel.Sound) {op : Nat}
    (found : channel.waits[op]? = some none) :
    channel.armed = some op ∧ channel.outcome = .undecided := by
  rcases sound.codes op none found with refused | cancelled | ⟨armed, verdict⟩
  · cases refused
  · cases cancelled
  · refine ⟨armed, ?_⟩
    cases outcome : channel.outcome with
    | undecided => rfl
    | value v =>
        rw [outcome] at verdict
        cases verdict
    | broken =>
        rw [outcome] at verdict
        cases verdict

/-- The wait which is still to complete is the only one without a code. -/
theorem Channel.Sound.pending_eq (sound : channel.Sound) {op other : Nat}
    (armed : channel.armed = some op)
    (found : (channel.waits.set op none)[other]? = some none) : other = op := by
  by_cases same : op = other
  · exact same.symm
  · rw [List.getElem?_set_ne same] at found
    have unended := (sound.unended found).1
    rw [armed] at unended
    exact (Option.some.inj unended).symm

/-- A cancelled wait of the pair is one of the channel. -/
theorem Follows.cancel {op : Nat} (follows : Follows channel pair) (sound : channel.Sound)
    (stepped : pair.cancel op = some next) :
    Matched channel next (linearized pair (.cancel op)) := by
  unfold Pair.cancel at stepped
  split at stepped
  · rename_i idle unended
    obtain ⟨opened, sender, state, storage, pending, rfl, resting⟩ := follows.resting idle
    rw [Option.some.injEq, shape_touch] at stepped
    cases resting with
    | fresh outcome preparing armed =>
        have found := (sound.unended unended).1
        rw [armed] at found
        cases found
    | suspended late outcome preparing armed waits =>
        obtain rfl : op = late := sound.pending_eq armed unended
        have room := lt_of_getElem? waits
        have called : channel.call (.cancel op) = some { channel with
            armed := none
            waits := channel.waits.set op (some (some .cancelled)) } := by
          simp [Channel.call, Channel.cancel, opened, waits]
        refine .called called (.of_eq (.undecided outcome preparing
          (.cancelling op rfl opened (List.getElem?_set_self room))) ?_)
        rw [← stepped]
        simp [shape, armed, List.set_set]
    | met late outcome armed ended =>
        obtain rfl : op = late := sound.pending_eq armed unended
        obtain ⟨code, verdict⟩ := outcome.verdict
        have unchanged : channel.cancel op = channel :=
          if_neg (by rw [ended, verdict]; simp)
        have called : channel.call (.cancel op) = some channel := by
          simp [Channel.call, opened, unchanged]
        rw [← stepped, armed]
        exact .called called (.met outcome (.mk op armed opened ended (.inr ⟨rfl, rfl⟩)))
    | settled outcome done => exact absurd (sound.unended unended).2 outcome.came
  · cases stepped

/-- The value of the channel is there as its base says. -/
theorem Base.object (outcome : Base channel base) :
    (if base = OneShot.sent ∨ base = OneShot.engaged then channel.outcome.object else none) =
      channel.outcome.object := by
  cases outcome with
  | engaged v came => exact if_pos (.inr rfl)
  | sent v came armed => exact if_pos (.inl rfl)
  | detached came => simp [came, Outcome.object]

/-- `get` comes to the object, if it came. -/
theorem Resting.getStoredObject {state : UInt8} {pending : Option Nat}
    (resting : Resting channel sender state storage pending) :
    (shape channel sender .idle state storage channel.armed pending false).getStoredObject =
      channel.outcome.object := by
  cases resting with
  | fresh outcome preparing armed =>
      rw [outcome]
      exact if_neg (by decide : ¬ (empty = OneShot.sent ∨ empty = OneShot.engaged))
  | suspended op outcome preparing armed unended =>
      rw [outcome]
      exact if_neg (by decide : ¬ (waiting = OneShot.sent ∨ waiting = OneShot.engaged))
  | met op outcome armed ended => exact outcome.object
  | settled outcome done => exact outcome.object

/-- Whether a pair is at rest depends on outcome, wait and codes alone. -/
theorem Resting.of_same {state : UInt8} {pending : Option Nat} {other : Channel T}
    (resting : Resting channel sender state storage pending) (outcome : other.outcome = channel.outcome)
    (armed : other.armed = channel.armed) (waits : other.waits = channel.waits) :
    Resting other sender state storage pending := by
  cases resting with
  | fresh came preparing found => exact .fresh (outcome.trans came) preparing (armed.trans found)
  | suspended op came preparing found unended =>
      exact .suspended op (outcome.trans came) preparing (armed.trans found) (waits ▸ unended)
  | met op came found ended =>
      rw [← outcome] at ended ⊢
      exact .met op (came.of_same outcome fun some => armed ▸ some) (armed.trans found)
        (waits ▸ ended)
  | settled came done =>
      rw [← outcome] at done ⊢
      exact .settled (came.of_same outcome fun some => armed ▸ some) done

/-- A get of the pair is one of the channel. -/
theorem Follows.get (follows : Follows channel pair) (stepped : pair.get = some next) :
    Matched channel next (linearized pair .get) := by
  unfold Pair.get at stepped
  split at stepped
  · rename_i idle
    obtain ⟨opened, sender, state, storage, pending, rfl, resting⟩ := follows.resting idle
    rw [resting.getStoredObject, Option.some.injEq] at stepped
    have called : channel.call .get = some { channel with
        gets := channel.gets ++ [channel.outcome.object] } := by
      simp [Channel.call, opened]
    subst stepped
    have kept : Resting { channel with gets := channel.gets ++ [channel.outcome.object] }
        sender state storage pending := resting.of_same rfl rfl rfl
    exact .called called (kept.follows opened)
  · cases stepped

/-- A receiver that goes closes the channel. -/
theorem Follows.receiverDetached (follows : Follows channel pair) (patient : none ∉ pair.ops)
    (stepped : pair.receiverDetached = some next) :
    Matched channel next (linearized pair .receiverDetached) := by
  unfold Pair.receiverDetached at stepped
  split at stepped
  · rename_i idle
    obtain ⟨opened, sender, state, storage, pending, rfl, resting⟩ := follows.resting idle
    have called : channel.call .close = some { channel with closed := true } := by
      simp [Channel.call, opened]
    refine .called called ?_
    rw [Option.some.injEq] at stepped
    subst stepped
    cases resting with
    | fresh outcome preparing armed =>
        refine .of_eq (.undecided outcome preparing (.leaving armed rfl)) ?_
        simp [shape, armed, Pair.touch]
    | suspended op outcome preparing armed unended =>
        exact absurd (List.mem_of_getElem? (pending_unended unended)) patient
    | met op outcome armed ended =>
        exact absurd (List.mem_of_getElem? (pending_unended ended)) patient
    | settled outcome done =>
        exact .settled (outcome.of_same rfl id) done (.leaving rfl)
  · cases stepped

/-! ## The receiver goes on -/

/-- An access of the receiver before the outcome changes nothing for the channel. -/
theorem Undecided.receiverStep (outcome : channel.outcome = .undecided)
    (preparing : Preparing sender storage) (stage : Undecided channel sender storage pair)
    (stepped : pair.receiverStep = some next) : Follows channel next := by
  refine .undecided outcome preparing ?_
  cases stage with
  | idle => cases stepped
  | suspended op armed opened unended place =>
      rcases place with rfl | rfl
      · cases stepped
      · cases stepped
        exact .suspended op armed opened unended (.inl rfl)
  | stored op armed opened unended =>
      cases stepped
      exact .suspended op armed opened unended (.inr rfl)
  | cancelling op armed opened ended =>
      have same := (Option.some.inj stepped).symm.trans (shape_completed ended .cancelled)
      exact same ▸ .cancelled op armed opened
  | cancelled op armed opened =>
      cases stepped
      exact .idle armed opened
  | leaving armed closed =>
      cases stepped
      exact .gone armed closed
  | gone => cases stepped

/-- A decided state is not that of a waiting receiver. -/
theorem Base.ne_waiting (outcome : Base channel base) : base ≠ waiting := by
  cases outcome <;> decide

/-- A receiver which has met the outcome goes on with it. -/
theorem Met.receiverStep (outcome : Base channel base) (stage : Met channel base pair)
    (stepped : pair.receiverStep = some next) : Met channel base next := by
  obtain ⟨op, armed, opened, ended, place⟩ := stage
  rcases place with ⟨rfl, rfl | rfl⟩ | ⟨rfl, rfl⟩
  · cases stepped
  · cases stepped
    exact .mk op armed opened ended (.inl ⟨rfl, .inl rfl⟩)
  · have same : next = shape channel (channel.outcome.place waiting) .idle base
        channel.outcome.object (some op) (some op) false := by
      simpa [Pair.receiverStep, shape, Pair.touch, outcome.ne_waiting] using stepped.symm
    exact same ▸ .mk op armed opened ended (.inl ⟨rfl, .inl rfl⟩)

/-- An access of the receiver behind the outcome leaves the pair settled. -/
theorem Settled.receiverStep (outcome : Base channel base)
    (stage : Settled channel base sender pair) (stepped : pair.receiverStep = some next) :
    Settled channel base sender next := by
  cases stage with
  | idle => cases stepped
  | stored op armed opened ended fresh =>
      cases stepped
      exact .exchanged op armed opened ended fresh
  | exchanged op armed opened ended fresh =>
      have early : base = detached ∨ base = engaged := by
        cases outcome with
        | engaged v came => exact .inr rfl
        | sent v came armed => exact absurd rfl fresh
        | detached came => exact .inl rfl
      have same : next = shape channel sender (.restored op base) base channel.outcome.object
          (some op) (some op) false := by
        simpa [Pair.receiverStep, shape, Pair.touch, early] using stepped.symm
      exact same ▸ .restored op armed opened ended
  | restored op armed opened ended =>
      have code : channel.outcome.verdict =
          some (if base = detached then some .brokenSender else none) := by
        cases outcome with
        | engaged v came => rw [came]; rfl
        | sent v came armed => rw [came]; rfl
        | detached came => rw [came]; rfl
      rw [code] at ended
      have same := (Option.some.inj stepped).symm.trans (shape_completed ended .idle)
      rw [same, ← armed]
      exact .idle opened
  | awaited op armed opened =>
      cases stepped
      exact armed ▸ .idle opened
  | cancelling op armed opened ended =>
      have same := (Option.some.inj stepped).symm.trans (shape_completed ended .cancelled)
      exact same ▸ .cancelled op armed opened
  | restoring opened =>
      have same : next = shape channel sender .idle base channel.outcome.object channel.armed none
          false := by
        simpa [Pair.receiverStep, shape, Pair.touch, outcome.ne_waiting] using stepped.symm
      exact same ▸ .idle opened
  | cancelled op armed opened =>
      have same : next = shape channel sender .idle base channel.outcome.object channel.armed none
          false := by
        rw [armed]
        exact (Option.some.inj stepped).symm
      exact same ▸ .idle opened
  | leaving closed =>
      cases outcome with
      | engaged v came =>
          have same : next = shape channel sender .destroyed detached none channel.armed none
              false := by
            simpa +decide [Pair.receiverStep, shape, Pair.touch, Pair.destroy, came, Outcome.object]
              using stepped.symm
          exact same ▸ .destroyed closed
      | sent v came armed =>
          have same : next = shape channel sender .destroyed detached none channel.armed none
              false := by
            simpa +decide [Pair.receiverStep, shape, Pair.touch, Pair.destroy, came, Outcome.object]
              using stepped.symm
          exact same ▸ .destroyed closed
      | detached came =>
          have same : next = shape channel sender .gone detached none channel.armed none true := by
            simpa [Pair.receiverStep, shape, Pair.delete, came, Outcome.object] using stepped.symm
          exact same ▸ .gone closed
  | destroyed closed =>
      cases stepped
      exact .gone closed
  | gone closed => cases stepped

/-- A receiver that leaves goes. -/
theorem Left.receiverStep {receiver : Receiver} {state : UInt8}
    (place : receiver = .leaving empty ∨ receiver = .gone)
    (stage : Left channel receiver state pair) (stepped : pair.receiverStep = some next) :
    Left channel .gone state next := by
  rcases place with rfl | rfl
  · cases stage with
    | met =>
        cases stepped
        exact .met
    | destroyed =>
        cases stepped
        exact .destroyed
    | gone =>
        cases stepped
        exact .gone
  · cases stage <;> cases stepped

/-- No access of the receiver behind its call changes anything for the channel. -/
theorem Follows.receiverStep (follows : Follows channel pair)
    (stepped : pair.receiverStep = some next) : Follows channel next := by
  cases follows with
  | undecided outcome preparing stage => exact stage.receiverStep outcome preparing stepped
  | met outcome stage => exact .met outcome (stage.receiverStep outcome stepped)
  | settled outcome done stage =>
      exact .settled outcome done (stage.receiverStep outcome stepped)
  | left outcome armed closed place stage =>
      exact .left outcome armed closed (.inr rfl) (stage.receiverStep place stepped)

/-- Each step of a pair is a call on its channel, or none. -/
theorem Follows.step {label : Label T} (follows : Follows channel pair) (sound : channel.Sound)
    (patient : Patient pair label) (stepped : step pair label = some next) :
    Matched channel next (linearized pair label) := by
  cases label with
  | send value => exact .still (follows.send stepped)
  | senderDetached => exact follows.senderDetached stepped
  | sender => exact follows.senderStep stepped
  | asyncWait => exact follows.asyncWait stepped
  | cancel op => exact follows.cancel sound stepped
  | get => exact follows.get stepped
  | receiverDetached => exact follows.receiverDetached patient stepped
  | receiver => exact .still (follows.receiverStep stepped)

end SM.Inc.OneShot
