import Mathlib.Logic.Function.Basic
import SM.Lib.Machine
import SM.Hotupdate.FileOp

/-!
# Concurrent loads

Any number of calls of `asyncGetData` on one `fileOp`; between two steps of a call
every other call may take its steps. `Loads.whole_iff` says in which runs every
call gets the whole file.
-/

namespace SM.Hotupdate

open SM.Lib SM.Utils

/-- A `fileOp` with its calls. -/
structure Loads where
  file : FileOp := {}
  stage : Nat → Stage := fun _ => .idle

/-- The number of bytes which a load in progress has read. -/
def Stage.loaded : Stage → Option Nat
  | .reading => some 0
  | .spawned => some 0
  | .notified count => some count
  | _ => none

/-- The load of a call has begun and has not read the whole file. -/
def Stage.Unread (content : Bytes) (stage : Stage) : Prop :=
  ∃ count, stage.loaded = some count ∧ count < content.length

namespace Loads

/-- A step of one call. -/
def advance (loads : Loads) (call : Nat) (file : FileOp) (stage : Stage) : Loads :=
  ⟨file, Function.update loads.stage call stage⟩

/-- The call that acted is at its new stage. -/
theorem stage_advance_self (loads : Loads) (call : Nat) (file : FileOp) (stage : Stage) :
    (loads.advance call file stage).stage call = stage := by
  simp only [advance, Function.update_self]

/-- The other calls stay where they are. -/
theorem stage_advance_of_ne (loads : Loads) {call other : Nat} (different : other ≠ call)
    (file : FileOp) (stage : Stage) :
    (loads.advance call file stage).stage other = loads.stage other := by
  simp only [advance, Function.update_of_ne different]

/-- The steps of all calls. -/
def step (asyncBuilt : Bool) (content : Bytes) (loads : Loads) (label : Nat × Action) :
    Option Loads :=
  (loads.file.turn asyncBuilt content (loads.stage label.1) label.2).map fun turn =>
    loads.advance label.1 turn.1 turn.2

/-- Every view which is returned and not empty shows the whole file. A write past the end of the
buffer leaves nothing to be said. -/
structure Whole (content : Bytes) (loads : Loads) : Prop where
  inside : loads.file.overrun = false
  whole : ∀ call ret, loads.stage call = .returned ret → ret ≠ [] → ret = content

/-- The steps, from a stage of a call, with which every call gets the whole file. -/
def Admits (asyncBuilt : Bool) (content : Bytes) (loads : Loads) (stage : Stage) : Action → Prop
  | .call opening =>
      if loads.file.datas = [] then
        loads.file.datalen = 0 → asyncBuilt = true → opening.sized = true → opening.Orderly
      else ∀ other, ¬ (loads.stage other).Unread content
  | .read outcome => outcome.taken content content.length = content
  | .readSync outcome => loads.file.datas = [] → outcome.taken content content.length = []
  | .resume => loads.file.datas ≠ [] → ¬ stage.Unread content
  | .wake => True

def Admitted (asyncBuilt : Bool) (content : Bytes) (loads : Loads) (label : Nat × Action) : Prop :=
  loads.Admits asyncBuilt content (loads.stage label.1) label.2

/-! ## What holds in every run -/

end Loads

/-- What the fields of the `fileOp` are while a call stands somewhere. -/
structure Stage.Fits (content : Bytes) (file : FileOp) (stage : Stage) : Prop where
  loading : ∀ count, stage.loaded = some count →
    content ≠ [] ∧ file.datalen = content.length ∧ count ≤ content.length ∧
      (file.datas = [] ∨ file.datas = filledTo content count)
  reading : stage = .reading → file.datas ≠ []
  waiting : stage = .waiting → file.datas = [] ∧ file.datalen ≠ 0

/-- A call that neither loads nor waits fits any fields. -/
theorem Stage.fits_of_quiet {stage : Stage} (idle : stage.loaded = none) (ready : stage ≠ .waiting)
    (content : Bytes) (file : FileOp) : stage.Fits content file where
  loading count loading := by
    rw [idle] at loading
    cases loading
  reading reading := by
    subst reading
    cases idle
  waiting waiting := absurd waiting ready

namespace Loads

/-- At most one load is in progress. -/
structure Consistent (content : Bytes) (loads : Loads) : Prop where
  fits : ∀ call, (loads.stage call).Fits content loads.file
  single : ∀ call other, (loads.stage call).loaded ≠ none → (loads.stage other).loaded ≠ none →
    call = other
  unsized : loads.file.datalen = 0 → loads.file.datas = []
  settled : loads.file.datas ≠ [] →
    ∃ call, (loads.stage call).loaded ≠ none ∨ loads.stage call = .returned loads.file.datas

variable {asyncBuilt : Bool} {content : Bytes} {loads next : Loads} {label : Nat × Action}

/-- Each step is a turn of one call. -/
theorem turned_of_step (stepped : loads.step asyncBuilt content label = some next) :
    ∃ file stage, Turned asyncBuilt content loads.file (loads.stage label.1) label.2 file stage ∧
      next = loads.advance label.1 file stage := by
  obtain ⟨⟨file, stage⟩, turned, rfl⟩ := Option.map_eq_some_iff.mp stepped
  exact ⟨file, stage, turned_of_turn turned, rfl⟩

/-- Before the first call no load is in progress. -/
theorem consistent_initial (content : Bytes) : Consistent content {} where
  fits _ := Stage.fits_of_quiet rfl Stage.noConfusion content {}
  single _ _ loading := absurd rfl loading
  unsized _ := rfl
  settled filled := absurd rfl filled

/-- Nobody loads or waits before the size is known. -/
theorem Consistent.quiet_of_unsized (consistent : Consistent content loads)
    (unsized : loads.file.datalen = 0) (call : Nat) :
    (loads.stage call).loaded = none ∧ loads.stage call ≠ .waiting := by
  have fits := consistent.fits call
  constructor
  · cases loading : (loads.stage call).loaded with
    | none => rfl
    | some count =>
        obtain ⟨nonempty, sized, _⟩ := fits.loading count loading
        exact absurd (List.length_eq_zero_iff.mp (sized.symm.trans unsized)) nonempty
  · intro waiting
    exact (fits.waiting waiting).2 unsized

/-- What a step has to keep. -/
theorem Consistent.advance (consistent : Consistent content loads) {call : Nat} {file : FileOp}
    {stage : Stage} (own : stage.Fits content file)
    (others : ∀ other, other ≠ call → (loads.stage other).Fits content file)
    (single : stage.loaded ≠ none → ∀ other, other ≠ call → (loads.stage other).loaded = none)
    (unsized : file.datalen = 0 → file.datas = [])
    (settled : file.datas ≠ [] → stage.loaded ≠ none ∨ stage = .returned file.datas) :
    Consistent content (loads.advance call file stage) where
  fits other := by
    by_cases same : other = call
    · rw [same, stage_advance_self]
      exact own
    · rw [stage_advance_of_ne loads same]
      exact others other same
  single left right loadingLeft loadingRight := by
    by_cases first : left = call <;> by_cases second : right = call
    · rw [first, second]
    · rw [first, stage_advance_self] at loadingLeft
      rw [stage_advance_of_ne loads second] at loadingRight
      exact absurd (single loadingLeft right second) loadingRight
    · rw [second, stage_advance_self] at loadingRight
      rw [stage_advance_of_ne loads first] at loadingLeft
      exact absurd (single loadingRight left first) loadingLeft
    · rw [stage_advance_of_ne loads first] at loadingLeft
      rw [stage_advance_of_ne loads second] at loadingRight
      exact consistent.single left right loadingLeft loadingRight
  unsized := unsized
  settled nonempty := by
    refine ⟨call, ?_⟩
    rw [stage_advance_self]
    exact settled nonempty

/-- The calls beside the one that loads. -/
theorem Consistent.alone (consistent : Consistent content loads) {call : Nat}
    (loading : (loads.stage call).loaded ≠ none) (other : Nat) (different : other ≠ call) :
    (loads.stage other).loaded = none := by
  cases busy : (loads.stage other).loaded with
  | none => rfl
  | some count =>
      refine absurd (consistent.single other call ?_ loading) different
      rw [busy]
      exact Option.some_ne_none count

/-- The buffer of a load has the length of the file. -/
theorem length_of_reading {file : FileOp} (fits : Stage.reading.Fits content file) :
    file.datas.length = file.datalen := by
  obtain ⟨_, sized, _, empty | filled⟩ := fits.loading 0 rfl
  · exact absurd empty (fits.reading rfl)
  · rw [filled, length_filledTo, sized]

/-- Reading goes on in the buffer of the load, if there is one. -/
theorem overwrite_loading {file : FileOp} {stage : Stage} (fits : stage.Fits content file)
    (fresh : stage.loaded = some 0) (outcome : ReadOutcome) :
    file.datas = [] ∧ overwrite file.datas (outcome.taken content file.datalen) = [] ∨
      overwrite file.datas (outcome.taken content file.datalen) =
        filledTo content (outcome.taken content file.datalen).length := by
  obtain ⟨_, _, _, empty | filled⟩ := fits.loading 0 fresh
  · refine .inl ⟨empty, ?_⟩
    rw [empty, overwrite_nil]
  · obtain ⟨taken, bound⟩ := outcome.taken_eq_take content file.datalen
    refine .inr ?_
    rw [filled, taken, overwrite_filledTo bound, ← taken]

/-- A step of a call that leaves the fields and does not begin to load. -/
theorem Consistent.rest (consistent : Consistent content loads) {call : Nat} {stage : Stage}
    (own : stage.Fits content loads.file) (idle : stage.loaded = none)
    (settled : loads.file.datas ≠ [] → stage = .returned loads.file.datas) :
    Consistent content (loads.advance call loads.file stage) :=
  consistent.advance own (fun other _ => consistent.fits other) (fun loading => absurd idle loading)
    consistent.unsized fun nonempty => .inr (settled nonempty)

/-- The first step of a load. -/
theorem Consistent.begin (consistent : Consistent content loads) {call : Nat}
    (unsized : loads.file.datalen = 0) (nonempty : content ≠ []) {datas : Bytes} {stage : Stage}
    (fresh : stage.loaded = none ∨ stage.loaded = some 0)
    (buffer : datas = [] ∨ datas = filledTo content 0) (reading : stage = .reading → datas ≠ [])
    (ready : stage ≠ .waiting)
    (settled : datas ≠ [] → stage.loaded ≠ none ∨ stage = .returned datas) :
    Consistent content
      (loads.advance call { loads.file with datalen := content.length, datas } stage) := by
  apply consistent.advance
  · refine ⟨?_, reading, fun waiting => absurd waiting ready⟩
    intro count loading
    rcases fresh with idle | first
    · cases idle.symm.trans loading
    · cases first.symm.trans loading
      exact ⟨nonempty, rfl, Nat.zero_le _, buffer⟩
  · intro other _
    obtain ⟨idle, ready⟩ := consistent.quiet_of_unsized unsized other
    exact Stage.fits_of_quiet idle ready content _
  · exact fun _ other _ => (consistent.quiet_of_unsized unsized other).1
  · exact fun known => absurd (List.length_eq_zero_iff.mp known) nonempty
  · exact settled

/-- A read of a load. -/
theorem Consistent.progress (consistent : Consistent content loads) {call : Nat}
    (fresh : (loads.stage call).loaded = some 0) (outcome : ReadOutcome) {overrun : Bool}
    {stage : Stage}
    (loading : ∀ count, stage.loaded = some count →
      count = (outcome.taken content loads.file.datalen).length)
    (reading : stage ≠ .reading) (ready : stage ≠ .waiting)
    (settled : stage.loaded ≠ none ∨
      stage = .returned (overwrite loads.file.datas (outcome.taken content loads.file.datalen))) :
    Consistent content (loads.advance call
      { loads.file with
        datas := overwrite loads.file.datas (outcome.taken content loads.file.datalen)
        overrun } stage) := by
  obtain ⟨nonempty, sized, _, _⟩ := (consistent.fits call).loading 0 fresh
  have busy : (loads.stage call).loaded ≠ none := by
    rw [fresh]
    exact Option.some_ne_none 0
  apply consistent.advance
  · refine ⟨?_, fun read => absurd read reading, fun waiting => absurd waiting ready⟩
    intro count loaded
    rw [loading count loaded]
    refine ⟨nonempty, sized, (outcome.taken_eq_take content _).2, ?_⟩
    rcases overwrite_loading (consistent.fits call) fresh outcome with ⟨_, empty⟩ | filled
    · exact .inl empty
    · exact .inr filled
  · intro other different
    have idle := consistent.alone busy other different
    refine ⟨fun count loaded => ?_, fun read => ?_, fun waiting => ?_⟩
    · cases idle.symm.trans loaded
    · rw [read] at idle
      cases idle
    · obtain ⟨empty, known⟩ := (consistent.fits other).waiting waiting
      refine ⟨?_, known⟩
      rw [empty]
      exact overwrite_nil _
  · exact fun _ => consistent.alone busy
  · exact fun unsized => absurd (List.length_eq_zero_iff.mp (sized.symm.trans unsized)) nonempty
  · exact fun _ => settled

/-- Every step leaves at most one load in progress. -/
theorem Consistent.step (consistent : Consistent content loads)
    (stepped : loads.step asyncBuilt content label = some next) : Consistent content next := by
  obtain ⟨file, stage, turned, rfl⟩ := turned_of_step stepped
  obtain ⟨call, action⟩ := label
  have fits := consistent.fits call
  have progress := @Consistent.progress content loads consistent call
  dsimp only at turned
  generalize loads.stage call = before at turned fits progress
  have quiet {ret : Bytes} : (Stage.returned ret).Fits content loads.file :=
    Stage.fits_of_quiet rfl Stage.noConfusion content loads.file
  cases turned with
  | cached _ => exact consistent.rest quiet rfl fun _ => rfl
  | absent empty => exact consistent.rest quiet rfl fun filled => absurd empty filled
  | resume => exact consistent.rest quiet rfl fun _ => rfl
  | wake => exact consistent.rest quiet rfl fun _ => rfl
  | waits empty known =>
      refine consistent.rest ⟨?_, Stage.noConfusion, ?_⟩ rfl fun filled => absurd empty filled
      · intro count loading
        cases loading
      · exact fun _ => ⟨empty, Nat.pos_iff_ne_zero.mp known⟩
  | unresized empty unsized nonempty _ after =>
      apply consistent.begin unsized nonempty _ (.inl empty)
      · rcases after with rfl | rfl <;> exact Stage.noConfusion
      · rcases after with rfl | rfl <;> exact Stage.noConfusion
      · exact fun filled => absurd empty filled
      · rcases after with rfl | rfl
        · exact .inr rfl
        · exact .inl rfl
  | loads empty unsized nonempty _ after =>
      apply consistent.begin unsized nonempty _ (.inr rfl)
      · exact fun _ => filledTo_ne_nil nonempty 0
      · rcases after with rfl | rfl <;> exact Stage.noConfusion
      · rcases after with rfl | rfl <;> exact fun _ => .inl (Option.some_ne_none 0)
      · rcases after with rfl | rfl <;> exact .inr rfl
  | placeholder empty unsized nonempty =>
      apply consistent.begin unsized nonempty (.inl rfl) (.inr rfl)
      · exact Stage.noConfusion
      · exact Stage.noConfusion
      · exact fun _ => .inr rfl
  | read =>
      rw [length_of_reading fits]
      apply progress rfl _ _ Stage.noConfusion Stage.noConfusion (.inr rfl)
      intro count loading
      cases loading
  | readSync =>
      refine progress rfl _ ?_ Stage.noConfusion Stage.noConfusion (.inl ?_)
      · intro count loading
        cases loading
        rfl
      · exact Option.some_ne_none _

/-! ## Whole files -/

/-- A step keeps the views whole if the view it returns, if any, is. -/
theorem Whole.advance (whole : Whole content loads) {call : Nat} {file : FileOp} {stage : Stage}
    (inside : file.overrun = false)
    (shows : ∀ ret, stage = .returned ret → ret ≠ [] → ret = content) :
    Whole content (loads.advance call file stage) where
  inside := inside
  whole other ret returned := by
    by_cases same : other = call
    · rw [same, stage_advance_self] at returned
      exact shows ret returned
    · rw [stage_advance_of_ne loads same] at returned
      exact whole.whole other ret returned

/-- A load that is not unread has filled its buffer. -/
theorem datas_of_loaded {file : FileOp} {stage : Stage} {count : Nat}
    (fits : stage.Fits content file) (loading : stage.loaded = some count)
    (filled : file.datas ≠ []) (read : ¬ stage.Unread content) : file.datas = content := by
  obtain ⟨_, _, bound, empty | prefixed⟩ := fits.loading count loading
  · exact absurd empty filled
  · have all : count = content.length :=
      Nat.le_antisymm bound (Nat.not_lt.mp fun less => read ⟨count, loading, less⟩)
    rw [prefixed, all, filledTo_length]

/-- A call which finds a buffer, and no load that is unread, finds the file. -/
theorem Consistent.datas_of_read (consistent : Consistent content loads)
    (whole : Whole content loads) (filled : loads.file.datas ≠ [])
    (read : ∀ other, ¬ (loads.stage other).Unread content) : loads.file.datas = content := by
  obtain ⟨call, busy | returned⟩ := consistent.settled filled
  · obtain ⟨count, loading⟩ := Option.ne_none_iff_exists'.mp busy
    exact datas_of_loaded (consistent.fits call) loading filled (read call)
  · exact whole.whole call _ returned filled

/-- A whole read of a load. -/
theorem overwrite_whole {file : FileOp} (fits : Stage.reading.Fits content file)
    {outcome : ReadOutcome} (taken : outcome.taken content file.datalen = content) :
    overwrite file.datas (outcome.taken content file.datalen) = content := by
  rcases overwrite_loading fits rfl outcome with ⟨empty, _⟩ | filled
  · exact absurd empty (fits.reading rfl)
  · rw [filled, taken, filledTo_length]

/-- A load in progress has asked for the length of the file. -/
theorem datalen_of_loading {file : FileOp} {stage : Stage} {count : Nat}
    (fits : stage.Fits content file) (loading : stage.loaded = some count) :
    file.datalen = content.length :=
  (fits.loading count loading).2.1

/-- The synchronous reader writes past the end only where there is no buffer. -/
theorem inside_iff {file : FileOp} {stage : Stage} {count : Nat} (fits : stage.Fits content file)
    (loading : stage.loaded = some count) (outcome : ReadOutcome) :
    decide (file.datas.length < (outcome.taken content file.datalen).length) = false ↔
      (file.datas = [] → outcome.taken content file.datalen = []) := by
  rw [decide_eq_false_iff_not]
  obtain ⟨nonempty, _, _, empty | filled⟩ := fits.loading count loading
  · simp [empty]
  · have bound := (outcome.taken_eq_take content file.datalen).2
    refine iff_of_true ?_ fun empty => ?_
    · rw [filled, length_filledTo]
      omega
    · exact absurd (filled.symm.trans empty) (filledTo_ne_nil nonempty count)

/-- An admitted step keeps every view whole. -/
theorem Whole.step (consistent : Consistent content loads) (whole : Whole content loads)
    (admitted : loads.Admitted asyncBuilt content label)
    (stepped : loads.step asyncBuilt content label = some next) : Whole content next := by
  obtain ⟨file, stage, turned, rfl⟩ := turned_of_step stepped
  obtain ⟨call, action⟩ := label
  have fits := consistent.fits call
  have inside := whole.inside
  unfold Admitted at admitted
  dsimp only at turned admitted ⊢
  generalize loads.stage call = before at turned fits admitted
  cases turned with
  | cached filled =>
      rw [Admits, if_neg filled] at admitted
      refine whole.advance inside ?_
      rintro ret ⟨⟩ _
      exact consistent.datas_of_read whole filled admitted
  | waits empty known => exact whole.advance inside fun _ returned => Stage.noConfusion returned
  | absent empty unsized nothing =>
      refine whole.advance inside ?_
      rintro ret ⟨⟩ filled
      exact absurd rfl filled
  | unresized empty unsized nonempty _ after =>
      refine whole.advance inside ?_
      rintro ret returned filled
      rcases after with rfl | rfl <;> cases returned
      exact absurd rfl filled
  | loads empty unsized nonempty _ after =>
      refine whole.advance inside ?_
      rintro ret returned _
      rcases after with rfl | rfl <;> cases returned
  | placeholder empty unsized nonempty built sized disorder =>
      rw [Admits, if_pos empty] at admitted
      exact absurd (admitted unsized built sized) disorder
  | read =>
      refine whole.advance inside ?_
      rintro ret ⟨⟩ _
      rw [length_of_reading fits]
      rw [Admits, ← datalen_of_loading fits rfl] at admitted
      exact overwrite_whole fits admitted
  | readSync =>
      rw [Admits, ← datalen_of_loading fits rfl] at admitted
      refine whole.advance ?_ fun _ returned => Stage.noConfusion returned
      rw [Bool.or_eq_false_iff]
      exact ⟨inside, (inside_iff fits rfl _).mpr admitted⟩
  | resume =>
      refine whole.advance inside ?_
      rintro ret ⟨⟩ filled
      exact datas_of_loaded fits rfl filled (admitted filled)
  | wake =>
      refine whole.advance inside ?_
      rintro ret ⟨⟩ filled
      exact absurd (fits.waiting rfl).1 filled

/-- A file whose last byte a fresh buffer does not have. -/
def EndsNonzero (content : Bytes) : Prop := ∃ last, content.getLast? = some last ∧ last ≠ 0

/-- Such a file is not empty. -/
theorem EndsNonzero.ne_nil (ending : EndsNonzero content) : content ≠ [] := by
  rintro rfl
  obtain ⟨_, last, _⟩ := ending
  cases last

/-- A buffer which is not filled differs from such a file. -/
theorem EndsNonzero.filledTo_ne (ending : EndsNonzero content) {count : Nat}
    (unread : count < content.length) : filledTo content count ≠ content := by
  intro same
  obtain ⟨last, ends, nonzero⟩ := ending
  rw [← same, filledTo, List.getLast?_append, List.getLast?_replicate,
    if_neg (Nat.sub_ne_zero_of_lt unread)] at ends
  exact nonzero (Option.some.inj ends).symm

/-- While a load is unread, its buffer differs from such a file. -/
theorem EndsNonzero.datas_ne (ending : EndsNonzero content) {file : FileOp} {stage : Stage}
    (fits : stage.Fits content file) (unread : stage.Unread content) (filled : file.datas ≠ []) :
    file.datas ≠ content := by
  obtain ⟨count, loading, less⟩ := unread
  obtain ⟨_, _, _, empty | prefixed⟩ := fits.loading count loading
  · exact absurd empty filled
  · rw [prefixed]
    exact ending.filledTo_ne less

/-- A read which fills the buffer with such a file takes the whole file. -/
theorem EndsNonzero.taken_whole (ending : EndsNonzero content) {file : FileOp}
    (fits : Stage.reading.Fits content file) {outcome : ReadOutcome}
    (shows : overwrite file.datas (outcome.taken content file.datalen) ≠ [] →
      overwrite file.datas (outcome.taken content file.datalen) = content) :
    outcome.taken content file.datalen = content := by
  obtain ⟨taken, bound⟩ := outcome.taken_eq_take content file.datalen
  rcases overwrite_loading fits rfl outcome with ⟨empty, _⟩ | filled
  · exact absurd empty (fits.reading rfl)
  · rw [filled] at shows
    have same := shows (filledTo_ne_nil ending.ne_nil _)
    have all := Nat.le_antisymm bound (Nat.not_lt.mp fun less => ending.filledTo_ne less same)
    rw [taken, all, List.take_length]

/-- What a whole state says of the state before its last step. -/
theorem Whole.before {call : Nat} {file : FileOp} {stage : Stage}
    (whole : Whole content (loads.advance call file stage))
    (inside : file.overrun = false → loads.file.overrun = false)
    (running : ∀ ret, loads.stage call ≠ .returned ret) :
    Whole content loads ∧ file.overrun = false ∧
      ∀ ret, stage = .returned ret → ret ≠ [] → ret = content := by
  refine ⟨⟨inside whole.inside, ?_⟩, whole.inside, ?_⟩
  · intro other ret returned
    have different : other ≠ call := by
      rintro rfl
      exact running ret returned
    rw [← stage_advance_of_ne loads different file stage] at returned
    exact whole.whole other ret returned
  · intro ret returned
    exact whole.whole call ret ((stage_advance_self loads call file stage).trans returned)

/-- A step which is not admitted shows to somebody what such a file is not. -/
theorem EndsNonzero.admitted (ending : EndsNonzero content) (consistent : Consistent content loads)
    (stepped : loads.step asyncBuilt content label = some next) (whole : Whole content next) :
    Whole content loads ∧ loads.Admitted asyncBuilt content label := by
  obtain ⟨file, stage, turned, rfl⟩ := turned_of_step stepped
  obtain ⟨call, action⟩ := label
  have fits := consistent.fits call
  unfold Admitted
  dsimp only at turned whole ⊢
  have before := whole.before
  generalize loads.stage call = start at turned fits before
  cases turned with
  | cached filled =>
      obtain ⟨earlier, _, shows⟩ := before id fun _ => Stage.noConfusion
      refine ⟨earlier, ?_⟩
      rw [Admits, if_neg filled]
      intro other unread
      exact ending.datas_ne (consistent.fits other) unread filled (shows _ rfl filled)
  | waits empty known =>
      refine ⟨(before id fun _ => Stage.noConfusion).1, ?_⟩
      rw [Admits, if_pos empty]
      exact fun unsized => absurd known (unsized ▸ Nat.lt_irrefl 0)
  | absent empty unsized nothing =>
      refine ⟨(before id fun _ => Stage.noConfusion).1, ?_⟩
      rw [Admits, if_pos empty]
      exact fun _ _ sized => absurd (nothing sized) ending.ne_nil
  | unresized empty unsized nonempty orderly after =>
      refine ⟨(before id fun _ => Stage.noConfusion).1, ?_⟩
      rw [Admits, if_pos empty]
      exact fun _ built _ => orderly built
  | loads empty unsized nonempty orderly after =>
      refine ⟨(before id fun _ => Stage.noConfusion).1, ?_⟩
      rw [Admits, if_pos empty]
      exact fun _ _ _ => orderly
  | placeholder empty unsized nonempty built sized disorder =>
      obtain ⟨_, _, shows⟩ := before id fun _ => Stage.noConfusion
      exact absurd (shows _ rfl (filledTo_ne_nil nonempty 0))
        (ending.filledTo_ne (List.length_pos_iff.mpr nonempty))
  | read =>
      obtain ⟨earlier, _, shows⟩ := before id fun _ => Stage.noConfusion
      refine ⟨earlier, ?_⟩
      rw [Admits, ← datalen_of_loading fits rfl]
      rw [length_of_reading fits] at shows
      exact ending.taken_whole fits (shows _ rfl)
  | readSync =>
      obtain ⟨earlier, inside, _⟩ :=
        before (fun inside => (Bool.or_eq_false_iff.mp inside).1) fun _ => Stage.noConfusion
      refine ⟨earlier, ?_⟩
      rw [Admits, ← datalen_of_loading fits rfl]
      exact (inside_iff fits rfl _).mp (Bool.or_eq_false_iff.mp inside).2
  | resume =>
      obtain ⟨earlier, _, shows⟩ := before id fun _ => Stage.noConfusion
      refine ⟨earlier, ?_⟩
      intro filled unread
      exact ending.datas_ne fits unread filled (shows _ rfl filled)
  | wake => exact ⟨(before id fun _ => Stage.noConfusion).1, trivial⟩

/-- Before the first call no view was returned. -/
theorem whole_initial (content : Bytes) : Whole content {} :=
  ⟨rfl, fun _ _ returned => Stage.noConfusion returned⟩

/-- In a run of admitted steps every call gets the whole file, or nothing. For a file which does
not end with a zero byte there is no other run in which every call does. -/
theorem whole_iff (asyncBuilt : Bool) (content : Bytes) (labels : List (Nat × Action))
    (final : Loads) (ran : Machine.run (step asyncBuilt content) {} labels = some final) :
    (Machine.Every (step asyncBuilt content) (Admitted asyncBuilt content) {} labels →
        Whole content final) ∧
      (EndsNonzero content → (Whole content final ↔
        Machine.Every (step asyncBuilt content) (Admitted asyncBuilt content) {} labels)) := by
  constructor
  · intro every
    refine (Machine.run_of_every (fun loads => Consistent content loads ∧ Whole content loads)
      (Admitted asyncBuilt content) ?_ ⟨consistent_initial content, whole_initial content⟩
      ran every).2
    rintro loads label next ⟨consistent, whole⟩ admitted stepped
    exact ⟨consistent.step stepped, whole.step consistent admitted stepped⟩
  · intro ending
    rw [Machine.run_iff_every (Consistent content) (Whole content) (Admitted asyncBuilt content)
      Consistent.step ?_ (consistent_initial content) ran, and_iff_right (whole_initial content)]
    intro loads label next consistent stepped
    constructor
    · exact ending.admitted consistent stepped
    · rintro ⟨whole, admitted⟩
      exact whole.step consistent admitted stepped

/-- One call which reads a file of two bytes in one piece. -/
theorem whole_iff_read :
    (Machine.Every (step true [104, 105]) (Admitted true [104, 105]) {}
          [(0, .call ⟨true, .opened, true⟩), (0, .read (.bytes 2))] →
        Whole [104, 105] ((({} : Loads).advance 0 ⟨2, [0, 0], false⟩ .reading).advance 0
          ⟨2, [104, 105], false⟩ (.returned [104, 105]))) ∧
      (EndsNonzero [104, 105] →
        (Whole [104, 105] ((({} : Loads).advance 0 ⟨2, [0, 0], false⟩ .reading).advance 0
            ⟨2, [104, 105], false⟩ (.returned [104, 105])) ↔
          Machine.Every (step true [104, 105]) (Admitted true [104, 105]) {}
            [(0, .call ⟨true, .opened, true⟩), (0, .read (.bytes 2))])) :=
  whole_iff true [104, 105] [(0, .call ⟨true, .opened, true⟩), (0, .read (.bytes 2))] _ rfl

/-- A call during a load, a load whose read is short, and one whose reader throws get bytes which
the file does not have. -/
theorem whole_placeholder :
    (∃ final, Machine.run (step true [104, 105]) {}
        [(0, .call ⟨true, .opened, true⟩), (1, .call ⟨true, .opened, true⟩)] = some final ∧
      final.stage 1 = .returned [0, 0] ∧ ¬ Whole [104, 105] final) ∧
    (∃ final, Machine.run (step true [104, 105]) {}
        [(0, .call ⟨true, .opened, true⟩), (0, .read (.bytes 1))] = some final ∧
      final.stage 0 = .returned [104, 0] ∧ ¬ Whole [104, 105] final) ∧
    ∃ final, Machine.run (step true [104, 105]) {} [(0, .call ⟨true, .throws, true⟩)] = some final ∧
      final.stage 0 = .returned [0, 0] ∧ ¬ Whole [104, 105] final := by
  refine ⟨⟨_, rfl, rfl, ?_⟩, ⟨_, rfl, rfl, ?_⟩, ⟨_, rfl, rfl, ?_⟩⟩
  · intro whole
    exact absurd (whole.whole 1 [0, 0] rfl (by decide)) (by decide)
  · intro whole
    exact absurd (whole.whole 0 [104, 0] rfl (by decide)) (by decide)
  · intro whole
    exact absurd (whole.whole 0 [0, 0] rfl (by decide)) (by decide)

end Loads

end SM.Hotupdate
