/-!
# Executable machines

A machine is a partial step function on states and labels. `run` takes one step
for each label. A property which every admitted step preserves holds after every
run of admitted steps (`run_invariant`); one that some steps destroy for good holds after the runs
without them (`run_iff_every`). One that a step may break and a later step restore holds in every
state of the runs without the breaking steps (`throughout_iff_every`). Where every step uses up
some of a measure, every run comes to an end (`exists_run_stuck`). Where each step is matched by
steps of another machine, so is every run (`exists_run_of_simulates`, and `exists_run_trace` where
it is known by which).
-/

namespace SM.Lib.Machine

variable {State Label : Type} {step : State → Label → Option State}

/-- One step for each label; `none` when a step is not enabled. -/
def run (step : State → Label → Option State) : State → List Label → Option State
  | state, [] => some state
  | state, label :: labels => (step state label).bind fun next => run step next labels

/-- A run starts with its first step. -/
theorem run_cons {state final : State} {label : Label} {labels : List Label} :
    run step state (label :: labels) = some final ↔
      ∃ next, step state label = some next ∧ run step next labels = some final := by
  simp only [run, Option.bind_eq_some_iff]

/-- A run can be cut in two. -/
theorem run_append {state final : State} {earlier later : List Label} :
    run step state (earlier ++ later) = some final ↔
      ∃ middle, run step state earlier = some middle ∧ run step middle later = some final := by
  induction earlier generalizing state with
  | nil => simp [run]
  | cons label earlier inductionHypothesis =>
      simp only [List.cons_append, run_cons, inductionHypothesis]
      constructor
      · rintro ⟨next, stepped, middle, ran, rest⟩
        exact ⟨middle, ⟨next, stepped, ran⟩, rest⟩
      · rintro ⟨middle, ⟨next, stepped, ran⟩, rest⟩
        exact ⟨next, stepped, middle, ran, rest⟩

/-- Every label of a run was enabled somewhere. -/
theorem enabled_of_run {state final : State} {label : Label} {labels : List Label}
    (ran : run step state labels = some final) (member : label ∈ labels) :
    ∃ before after, step before label = some after := by
  induction labels generalizing state with
  | nil => cases member
  | cons first labels inductionHypothesis =>
      obtain ⟨next, stepped, ran⟩ := run_cons.mp ran
      rcases List.mem_cons.mp member with rfl | later
      · exact ⟨state, next, stepped⟩
      · exact inductionHypothesis ran later

/-- Every step of a run is as given. -/
def Every (step : State → Label → Option State) (ok : State → Label → Prop) :
    State → List Label → Prop
  | _, [] => True
  | state, label :: labels =>
      ok state label ∧ ∀ next, step state label = some next → Every step ok next labels

/-- What the steps that are as given preserve holds after every run of such steps. -/
theorem run_of_every (property : State → Prop) (ok : State → Label → Prop)
    (preserved : ∀ {state label next}, property state → ok state label →
      step state label = some next → property next)
    {state final : State} {labels : List Label} (start : property state)
    (ran : run step state labels = some final) (every : Every step ok state labels) :
    property final := by
  induction labels generalizing state with
  | nil =>
      cases ran
      exact start
  | cons label labels inductionHypothesis =>
      obtain ⟨next, stepped, ran⟩ := run_cons.mp ran
      exact inductionHypothesis (preserved start every.1 stepped) ran (every.2 next stepped)

/-- What is allowed of all labels is allowed of every step. -/
theorem every_of_forall {admitted : Label → Prop} {state : State} {labels : List Label}
    (allowed : ∀ label ∈ labels, admitted label) :
    Every step (fun _ label => admitted label) state labels := by
  induction labels generalizing state with
  | nil => trivial
  | cons label labels inductionHypothesis =>
      refine ⟨allowed label List.mem_cons_self, ?_⟩
      intro next _
      apply inductionHypothesis
      intro other member
      exact allowed other (List.mem_cons_of_mem _ member)

/-- What every admitted step preserves holds after every run of admitted steps. -/
theorem run_invariant (property : State → Prop) (admitted : Label → Prop)
    (preserved : ∀ {state label next}, property state → admitted label →
      step state label = some next → property next)
    {state final : State} {labels : List Label} (start : property state)
    (ran : run step state labels = some final) (allowed : ∀ label ∈ labels, admitted label) :
    property final :=
  run_of_every property (fun _ label => admitted label) preserved start ran
    (every_of_forall allowed)

/-- A property which exactly the steps that are not as given destroy, for good, holds after a
run if and only if every step is as given. -/
theorem run_iff_every (invariant property : State → Prop) (ok : State → Label → Prop)
    (preserved : ∀ {state label next}, invariant state → step state label = some next →
      invariant next)
    (tracked : ∀ {state label next}, invariant state → step state label = some next →
      (property next ↔ property state ∧ ok state label))
    {state final : State} {labels : List Label} (start : invariant state)
    (ran : run step state labels = some final) :
    property final ↔ property state ∧ Every step ok state labels := by
  induction labels generalizing state with
  | nil =>
      cases ran
      simp [Every]
  | cons label labels inductionHypothesis =>
      obtain ⟨next, stepped, ran⟩ := run_cons.mp ran
      rw [inductionHypothesis (preserved start stepped) ran, tracked start stepped, Every,
        and_assoc]
      constructor
      · rintro ⟨holds, here, rest⟩
        refine ⟨holds, here, ?_⟩
        intro other same
        cases stepped.symm.trans same
        exact rest
      · rintro ⟨holds, here, rest⟩
        exact ⟨holds, here, rest next stepped⟩

/-- A property holds in every state which a run reaches. -/
def Throughout (step : State → Label → Option State) (property : State → Prop) (state : State)
    (labels : List Label) : Prop :=
  ∀ earlier later reached, labels = earlier ++ later →
    run step state earlier = some reached → property reached

/-- Without steps a property has to hold at the start. -/
theorem throughout_nil {property : State → Prop} {state : State} :
    Throughout step property state [] ↔ property state := by
  constructor
  · intro throughout
    exact throughout [] [] state rfl rfl
  · intro holds earlier later reached split ran
    obtain ⟨rfl, rfl⟩ := List.append_eq_nil_iff.mp split.symm
    cases ran
    exact holds

/-- A property has to hold at the start and throughout the rest. -/
theorem throughout_cons {property : State → Prop} {state next : State} {label : Label}
    {labels : List Label} (stepped : step state label = some next) :
    Throughout step property state (label :: labels) ↔
      property state ∧ Throughout step property next labels := by
  constructor
  · intro throughout
    refine ⟨throughout [] _ state rfl rfl, ?_⟩
    rintro earlier later reached rfl ran
    exact throughout (label :: earlier) later reached rfl (run_cons.mpr ⟨next, stepped, ran⟩)
  · rintro ⟨holds, throughout⟩ earlier later reached split ran
    cases earlier with
    | nil =>
        cases ran
        exact holds
    | cons first earlier =>
        obtain ⟨rfl, rfl⟩ := List.cons_eq_cons.mp split
        obtain ⟨other, same, ran⟩ := run_cons.mp ran
        cases stepped.symm.trans same
        exact throughout earlier later reached rfl ran

/-- Of every step of a run, every step of its first part is one. -/
theorem every_append {ok : State → Label → Prop} {state : State} {earlier later : List Label}
    (every : Every step ok state (earlier ++ later)) : Every step ok state earlier := by
  induction earlier generalizing state with
  | nil => trivial
  | cons label earlier inductionHypothesis =>
      exact ⟨every.1, fun next stepped => inductionHypothesis (every.2 next stepped)⟩

/-- Where every step of both parts is admitted, every step of the run is. -/
theorem every_append_of {ok : State → Label → Prop} {state : State} {earlier later : List Label}
    (every : Every step ok state earlier)
    (rest : ∀ reached, run step state earlier = some reached → Every step ok reached later) :
    Every step ok state (earlier ++ later) := by
  induction earlier generalizing state with
  | nil => exact rest state rfl
  | cons label earlier inductionHypothesis =>
      refine ⟨every.1, fun next stepped => inductionHypothesis (every.2 next stepped) ?_⟩
      intro reached ran
      exact rest reached (run_cons.mpr ⟨next, stepped, ran⟩)

/-- Every step is admitted where it is made. -/
theorem every_iff_split {ok : State → Label → Prop} {state : State} {labels : List Label} :
    Every step ok state labels ↔
      ∀ earlier label later reached, labels = earlier ++ label :: later →
        run step state earlier = some reached → ok reached label := by
  induction labels generalizing state with
  | nil => simp [Every]
  | cons first labels inductionHypothesis =>
      constructor
      · rintro ⟨here, rest⟩ earlier label later reached split ran
        cases earlier with
        | nil =>
            cases ran
            cases split
            exact here
        | cons other earlier =>
            obtain ⟨rfl, rfl⟩ := List.cons_eq_cons.mp split
            obtain ⟨next, stepped, ran⟩ := run_cons.mp ran
            exact inductionHypothesis.mp (rest next stepped) earlier label later reached rfl ran
      · intro every
        refine ⟨every [] first labels state rfl rfl, ?_⟩
        intro next stepped
        apply inductionHypothesis.mpr
        rintro earlier label later reached rfl ran
        exact every (first :: earlier) label later reached rfl
          (run_cons.mpr ⟨next, stepped, ran⟩)

/-- What the steps that are as given preserve holds in every state of a run of such steps. -/
theorem throughout_of_every (property : State → Prop) (ok : State → Label → Prop)
    (preserved : ∀ {state label next}, property state → ok state label →
      step state label = some next → property next)
    {state : State} {labels : List Label} (start : property state)
    (every : Every step ok state labels) : Throughout step property state labels := by
  rintro earlier later reached rfl ran
  exact run_of_every property ok preserved start ran (every_append every)

/-- A property which, among admitted steps, exactly those that are not as given break holds in every
state of a run of admitted steps if and only if every step is as given. -/
theorem throughout_iff_every_of_admitted (invariant property : State → Prop)
    (admitted ok : State → Label → Prop)
    (preserved : ∀ {state label next}, invariant state → property state → admitted state label →
      step state label = some next → invariant next)
    (tracked : ∀ {state label next}, invariant state → property state → admitted state label →
      step state label = some next → (property next ↔ ok state label))
    {state final : State} {labels : List Label} (start : invariant state) (holds : property state)
    (ran : run step state labels = some final) (every : Every step admitted state labels) :
    Throughout step property state labels ↔ Every step ok state labels := by
  induction labels generalizing state with
  | nil => simp [throughout_nil, holds, Every]
  | cons label labels inductionHypothesis =>
      obtain ⟨next, stepped, ran⟩ := run_cons.mp ran
      have same := tracked start holds every.1 stepped
      have later := preserved start holds every.1 stepped
      rw [throughout_cons stepped, and_iff_right holds, Every]
      constructor
      · intro throughout
        have here := throughout [] labels next rfl rfl
        refine ⟨same.mp here, ?_⟩
        intro other again
        cases stepped.symm.trans again
        exact (inductionHypothesis later here ran (every.2 next stepped)).mp throughout
      · rintro ⟨here, rest⟩
        exact (inductionHypothesis later (same.mpr here) ran (every.2 next stepped)).mpr
          (rest next stepped)

/-- A property which exactly the steps that are not as given break holds in every state of a run
if and only if every step is as given. -/
theorem throughout_iff_every (invariant property : State → Prop) (ok : State → Label → Prop)
    (preserved : ∀ {state label next}, invariant state → property state →
      step state label = some next → invariant next)
    (tracked : ∀ {state label next}, invariant state → property state →
      step state label = some next → (property next ↔ ok state label))
    {state final : State} {labels : List Label} (start : invariant state) (holds : property state)
    (ran : run step state labels = some final) :
    Throughout step property state labels ↔ Every step ok state labels :=
  throughout_iff_every_of_admitted invariant property (fun _ _ => True) ok
    (fun start holds _ => preserved start holds) (fun start holds _ => tracked start holds) start
    holds ran (every_of_forall fun _ _ => trivial)

/-- Where every admitted step uses up some of a measure, a run is no longer than the measure. -/
theorem length_add_le_of_decreases (invariant : State → Prop) (admitted : Label → Prop)
    (measure : State → Nat)
    (preserved : ∀ {state label next}, invariant state → admitted label →
      step state label = some next → invariant next)
    (decreases : ∀ {state label next}, invariant state → admitted label →
      step state label = some next → measure next < measure state)
    {state final : State} {labels : List Label} (start : invariant state)
    (ran : run step state labels = some final) (allowed : ∀ label ∈ labels, admitted label) :
    labels.length + measure final ≤ measure state := by
  induction labels generalizing state with
  | nil =>
      cases ran
      simp
  | cons label labels inductionHypothesis =>
      obtain ⟨next, stepped, ran⟩ := run_cons.mp ran
      have here := allowed label List.mem_cons_self
      have less := decreases start here stepped
      have rest := inductionHypothesis (preserved start here stepped) ran fun other member =>
        allowed other (List.mem_cons_of_mem _ member)
      rw [List.length_cons]
      omega

/-- No admitted step is enabled. -/
def Stuck (step : State → Label → Option State) (admitted : Label → Prop) (state : State) : Prop :=
  ∀ label next, admitted label → step state label ≠ some next

/-- Where every admitted step uses up some of a measure, a run of such steps comes to an end. -/
theorem exists_run_stuck (invariant : State → Prop) (admitted : Label → Prop)
    (measure : State → Nat)
    (preserved : ∀ {state label next}, invariant state → admitted label →
      step state label = some next → invariant next)
    (decreases : ∀ {state label next}, invariant state → admitted label →
      step state label = some next → measure next < measure state)
    {state : State} (start : invariant state) :
    ∃ labels final, (∀ label ∈ labels, admitted label) ∧ run step state labels = some final ∧
      Stuck step admitted final := by
  induction size : measure state using Nat.strongRecOn generalizing state with
  | ind size inductionHypothesis =>
      by_cases stuck : Stuck step admitted state
      · exact ⟨[], state, by simp, rfl, stuck⟩
      · simp only [Stuck, ne_eq, Classical.not_forall, Classical.not_not] at stuck
        obtain ⟨label, next, here, stepped⟩ := stuck
        have less := size ▸ decreases start here stepped
        obtain ⟨labels, final, allowed, ran, stuck⟩ :=
          inductionHypothesis _ less (preserved start here stepped) rfl
        refine ⟨label :: labels, final, ?_, run_cons.mpr ⟨next, stepped, ran⟩, stuck⟩
        intro other member
        rcases List.mem_cons.mp member with rfl | later
        · exact here
        · exact allowed other later

/-- Where every step of one machine is matched by steps of another, so is every run. -/
theorem exists_run_of_simulates {Upper UpperLabel : Type}
    {upperStep : Upper → UpperLabel → Option Upper} (relation : State → Upper → Prop)
    (ok : State → Label → Prop) (admitted : UpperLabel → Prop)
    (simulated : ∀ {state label next upper}, relation state upper → ok state label →
      step state label = some next → ∃ labels after, (∀ label ∈ labels, admitted label) ∧
        run upperStep upper labels = some after ∧ relation next after)
    {state final : State} {upper : Upper} {labels : List Label} (start : relation state upper)
    (ran : run step state labels = some final) (every : Every step ok state labels) :
    ∃ upperLabels after, (∀ label ∈ upperLabels, admitted label) ∧
      run upperStep upper upperLabels = some after ∧ relation final after := by
  induction labels generalizing state upper with
  | nil =>
      cases ran
      exact ⟨[], upper, by simp, rfl, start⟩
  | cons label labels inductionHypothesis =>
      obtain ⟨next, stepped, ran⟩ := run_cons.mp ran
      obtain ⟨first, middle, firstAllowed, firstRan, related⟩ := simulated start every.1 stepped
      obtain ⟨rest, after, restAllowed, restRan, related⟩ :=
        inductionHypothesis related ran (every.2 next stepped)
      refine ⟨first ++ rest, after, ?_, run_append.mpr ⟨middle, firstRan, restRan⟩, related⟩
      intro label member
      rcases List.mem_append.mp member with here | later
      · exact firstAllowed label here
      · exact restAllowed label later

/-- What the steps of a run are on another machine, in order. -/
def trace {UpperLabel : Type} (step : State → Label → Option State)
    (upper : State → Label → List UpperLabel) : State → List Label → List UpperLabel
  | _, [] => []
  | state, label :: labels =>
      match step state label with
      | none => []
      | some next => upper state label ++ trace step upper next labels

/-- A trace starts with that of the first step. -/
theorem trace_cons {UpperLabel : Type} {upper : State → Label → List UpperLabel}
    {state next : State} {label : Label} {labels : List Label}
    (stepped : step state label = some next) : trace step upper state (label :: labels) =
      upper state label ++ trace step upper next labels := by
  rw [trace, stepped]

/-- Where every step of one machine is the given steps of another, so is every run. -/
theorem exists_run_trace {Upper UpperLabel : Type} {upperStep : Upper → UpperLabel → Option Upper}
    (relation : State → Upper → Prop) (ok : State → Label → Prop)
    (steps : State → Label → List UpperLabel)
    (simulated : ∀ {state label next upper}, relation state upper → ok state label →
      step state label = some next →
        ∃ after, run upperStep upper (steps state label) = some after ∧ relation next after)
    {state final : State} {upper : Upper} {labels : List Label} (start : relation state upper)
    (ran : run step state labels = some final) (every : Every step ok state labels) :
    ∃ after, run upperStep upper (trace step steps state labels) = some after ∧
      relation final after := by
  induction labels generalizing state upper with
  | nil =>
      cases ran
      exact ⟨upper, rfl, start⟩
  | cons label labels inductionHypothesis =>
      obtain ⟨next, stepped, ran⟩ := run_cons.mp ran
      obtain ⟨middle, first, related⟩ := simulated start every.1 stepped
      obtain ⟨after, rest, related⟩ := inductionHypothesis related ran (every.2 next stepped)
      rw [trace_cons stepped]
      exact ⟨after, run_append.mpr ⟨middle, first, rest⟩, related⟩

end SM.Lib.Machine
