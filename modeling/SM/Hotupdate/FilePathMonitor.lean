import Mathlib.Data.List.Basic
import Mathlib.Data.List.Induction
import SM.Lib.Machine

/-!
# Notices of changed files

`FilePathMonitor` caches one `fileOp` for each path that was asked for. The watcher's thread
enqueues the path of a modified file and then triggers the event. `waitHotUpdate` waits for the
event, dequeues until the queue is empty, erases each path's entry, and waits again. A trigger
that finds nobody waiting has no effect, so a notice that comes between the last dequeue and the
wait is not heard. `heard_throughout_iff` names the orders of the steps in which one is not.
-/

namespace SM.Hotupdate

open SM.Lib

/-- Where `waitHotUpdate` stands. -/
inductive Waiter where
  /-- Before `async_wait`: the coroutine starts, or has found the queue empty. -/
  | looping
  | suspended
  /-- The wait is over, the coroutine still to be resumed. -/
  | woken
  | dequeuing
  /-- Behind `try_dequeue`, which gave this path. -/
  | erasing (path : String)
deriving DecidableEq

/-- `cancel_one` of the timer completes the wait, if there is one. -/
def CoEvent.trigger : Waiter → Waiter
  | .suspended => .woken
  | waiter => waiter

structure FilePathMonitor where
  /-- `_files`, with the version of the file which an entry was made for. -/
  files : List (String × Nat) := []
  pathsUpdate : List String := []
  /-- Notices that are enqueued, and whose trigger is to come. -/
  untriggered : Nat := 0
  waiter : Waiter := .looping
  /-- The paths of all notices; the version of a file is how many there are of its path. -/
  modified : List String := []
deriving DecidableEq

namespace FilePathMonitor

def version (monitor : FilePathMonitor) (path : String) : Nat := monitor.modified.count path

/-- A step of a notifier, of `waitHotUpdate` or of a request. -/
inductive Action where
  /-- The first half of `notifyFileModified` and `notifyConfigModified`. -/
  | enqueue (path : String)
  /-- The second half. -/
  | trigger
  | asyncWait
  /-- The timer of the event expires. -/
  | expire
  | resume
  /-- `try_dequeue` gives a path. -/
  | tryDequeue (path : String)
  | erase
  /-- `try_dequeue` gives none. -/
  | emptied
  | asyncGetResource (absPath : String)
deriving DecidableEq

def step (monitor : FilePathMonitor) : Action → Option FilePathMonitor
  | .enqueue path => some { monitor with
      pathsUpdate := monitor.pathsUpdate ++ [path]
      untriggered := monitor.untriggered + 1
      modified := monitor.modified ++ [path] }
  | .trigger =>
      if monitor.untriggered = 0 then none
      else some { monitor with
        untriggered := monitor.untriggered - 1
        waiter := CoEvent.trigger monitor.waiter }
  | .asyncWait =>
      if monitor.waiter = .looping then some { monitor with waiter := .suspended } else none
  | .expire =>
      if monitor.waiter = .suspended then some { monitor with waiter := .woken } else none
  | .resume =>
      if monitor.waiter = .woken then some { monitor with waiter := .dequeuing } else none
  | .tryDequeue path =>
      if monitor.waiter = .dequeuing ∧ path ∈ monitor.pathsUpdate then
        some { monitor with
          pathsUpdate := monitor.pathsUpdate.erase path
          waiter := .erasing path }
      else none
  | .erase =>
      match monitor.waiter with
      | .erasing path =>
          some { monitor with
            files := monitor.files.filter (·.1 ≠ path)
            waiter := .dequeuing }
      | _ => none
  | .emptied =>
      if monitor.waiter = .dequeuing ∧ monitor.pathsUpdate = [] then
        some { monitor with waiter := .looping }
      else none
  | .asyncGetResource absPath =>
      if absPath ∈ monitor.files.map Prod.fst then some monitor
      else some { monitor with files := (absPath, monitor.version absPath) :: monitor.files }

variable {monitor next : FilePathMonitor} {action : Action} {actions : List Action} {path : String}

/-- While `waitHotUpdate` sleeps and nobody is about to wake it, there is no notice in the queue,
and every cached entry is of the last version of its file. -/
def Heard (monitor : FilePathMonitor) : Prop :=
  monitor.waiter = .suspended → monitor.untriggered = 0 →
    monitor.pathsUpdate = [] ∧
      ∀ path made, (path, made) ∈ monitor.files → made = monitor.version path

/-- The first half of a notice. -/
def Action.isEnqueue : Action → Bool
  | .enqueue _ => true
  | _ => false

/-- All notices of these steps were triggered, too. -/
def Triggered (actions : List Action) : Prop :=
  actions.count .trigger = actions.countP Action.isEnqueue

instance (actions : List Action) : Decidable (Triggered actions) :=
  inferInstanceAs (Decidable (_ = _))

/-- The path is noticed in these steps, and the queue not found empty afterwards. -/
def Recent (actions : List Action) (path : String) : Prop :=
  ∃ before after, actions = before ++ .enqueue path :: after ∧ .emptied ∉ after

/-- `waitHotUpdate` enters its wait behind a notice which came after the queue was last found empty,
when this notice and all others have been triggered. -/
def Missed (actions : List Action) : Prop :=
  ∃ before after path, actions = before ++ .asyncWait :: after ∧ Recent before path ∧
    Triggered before

/-! ## What is out of date is about to be erased -/

/-- An entry which is not of the last version has a notice in the queue, or is erased next. -/
def Queued (monitor : FilePathMonitor) : Prop :=
  ∀ path made, (path, made) ∈ monitor.files → made ≠ monitor.version path →
    path ∈ monitor.pathsUpdate ∨ monitor.waiter = .erasing path

/-- With an empty queue and no path to erase nothing is out of date. -/
theorem Queued.version_eq (queued : monitor.Queued) (empty : monitor.pathsUpdate = [])
    (idle : ∀ path, monitor.waiter ≠ .erasing path) (path : String) (made : Nat)
    (cached : (path, made) ∈ monitor.files) : made = monitor.version path := by
  by_contra outdated
  rcases queued path made cached outdated with waits | erased
  · exact List.not_mem_nil (empty ▸ waits)
  · exact idle path erased

/-- A notice makes the entry of its path out of date, and no other. -/
theorem Queued.enqueue (queued : monitor.Queued) (stepped : monitor.step (.enqueue path) = some next) :
    next.Queued := by
  cases stepped
  intro other made cached outdated
  by_cases same : other = path
  · exact .inl (same ▸ List.mem_append_right _ (List.mem_singleton_self _))
  · have version : (monitor.modified ++ [path]).count other = monitor.version other := by
      simp [FilePathMonitor.version, Ne.symm same]
    rw [FilePathMonitor.version, version] at outdated
    exact (queued other made cached outdated).imp_left (List.mem_append_left _)

/-- A path which is taken from the queue is the one about to be erased. -/
theorem Queued.tryDequeue (queued : monitor.Queued)
    (stepped : monitor.step (.tryDequeue path) = some next) : next.Queued := by
  obtain ⟨⟨dequeuing, _⟩, stepped⟩ := Option.ite_none_right_eq_some.mp stepped
  cases stepped
  intro other made cached outdated
  by_cases same : other = path
  · exact .inr (congrArg Waiter.erasing same.symm)
  · rcases queued other made cached outdated with waits | erased
    · exact .inl ((List.mem_erase_of_ne same).mpr waits)
    · exact nomatch dequeuing.symm.trans erased

/-- Once its entry is erased, a path is as good as never asked for. -/
theorem Queued.erase (queued : monitor.Queued) (stepped : monitor.step .erase = some next) :
    next.Queued := by
  simp only [FilePathMonitor.step] at stepped
  split at stepped
  · next path erasing =>
      cases stepped
      intro other made cached outdated
      obtain ⟨before, different⟩ := List.mem_filter.mp cached
      refine .inl ((queued other made before outdated).resolve_right fun erased => ?_)
      cases erasing.symm.trans erased
      exact of_decide_eq_true different rfl
  · cases stepped

/-- A new entry is of the last version. -/
theorem Queued.asyncGetResource (queued : monitor.Queued)
    (stepped : monitor.step (.asyncGetResource path) = some next) : next.Queued := by
  rw [FilePathMonitor.step] at stepped
  split at stepped <;> cases stepped
  · exact queued
  · intro other made cached outdated
    rcases List.mem_cons.mp cached with new | before
    · cases new
      exact absurd rfl outdated
    · exact queued other made before outdated

/-- Every step keeps the outdated entries in the queue, or about to be erased. -/
theorem Queued.step (queued : monitor.Queued) (stepped : monitor.step action = some next) :
    next.Queued := by
  cases action with
  | enqueue path => exact queued.enqueue stepped
  | tryDequeue path => exact queued.tryDequeue stepped
  | erase => exact queued.erase stepped
  | asyncGetResource absPath => exact queued.asyncGetResource stepped
  | trigger =>
      obtain ⟨_, stepped⟩ := Option.ite_none_left_eq_some.mp stepped
      cases stepped
      intro path made cached outdated
      refine (queued path made cached outdated).imp_right fun erasing => ?_
      simp only [erasing, CoEvent.trigger]
  | asyncWait | expire | resume | emptied =>
      obtain ⟨place, stepped⟩ := Option.ite_none_right_eq_some.mp stepped
      cases stepped
      intro path made cached outdated
      refine .inl ((queued path made cached outdated).resolve_right fun erasing => ?_)
      simp [erasing] at place

/-! ## Which steps put `waitHotUpdate` to sleep too early -/

/-- `waitHotUpdate` goes to sleep with an empty queue, or somebody is about to wake it. -/
def Admitted (monitor : FilePathMonitor) (action : Action) : Prop :=
  action = .asyncWait → monitor.untriggered = 0 → monitor.pathsUpdate = []

/-- Only the step into the wait can make `waitHotUpdate` sleep through a notice. -/
theorem heard_step (queued : monitor.Queued) (heard : monitor.Heard)
    (stepped : monitor.step action = some next) : next.Heard ↔ monitor.Admitted action := by
  cases action with
  | asyncWait =>
      obtain ⟨looping, stepped⟩ := Option.ite_none_right_eq_some.mp stepped
      cases stepped
      constructor
      · intro heard _ triggered
        exact (heard rfl triggered).1
      · intro admitted _ triggered
        have empty := admitted rfl triggered
        refine ⟨empty, queued.version_eq empty fun path erasing => ?_⟩
        exact nomatch looping.symm.trans erasing
  | enqueue path =>
      cases stepped
      exact iff_of_true (fun _ triggered => nomatch triggered) Action.noConfusion
  | trigger =>
      obtain ⟨_, stepped⟩ := Option.ite_none_left_eq_some.mp stepped
      cases stepped
      refine iff_of_true ?_ Action.noConfusion
      intro sleeping _
      cases place : monitor.waiter <;> simp [CoEvent.trigger, place] at sleeping
  | tryDequeue path =>
      obtain ⟨_, stepped⟩ := Option.ite_none_right_eq_some.mp stepped
      cases stepped
      exact iff_of_true Waiter.noConfusion Action.noConfusion
  | erase =>
      rw [FilePathMonitor.step] at stepped
      split at stepped <;> cases stepped
      exact iff_of_true Waiter.noConfusion Action.noConfusion
  | asyncGetResource absPath =>
      rw [FilePathMonitor.step] at stepped
      split at stepped <;> cases stepped
      · exact iff_of_true heard Action.noConfusion
      · refine iff_of_true ?_ Action.noConfusion
        intro sleeping triggered
        refine ⟨(heard sleeping triggered).1, ?_⟩
        intro path made cached
        rcases List.mem_cons.mp cached with new | before
        · cases new
          rfl
        · exact (heard sleeping triggered).2 path made before
  | expire | resume | emptied =>
      obtain ⟨_, stepped⟩ := Option.ite_none_right_eq_some.mp stepped
      cases stepped
      exact iff_of_true Waiter.noConfusion Action.noConfusion

/-! ## The steps behind a state -/

/-- A notice is recent until the queue is found empty again. -/
theorem recent_append : Recent (actions ++ [action]) path ↔
    (Recent actions path ∧ action ≠ .emptied) ∨ action = .enqueue path := by
  constructor
  · rintro ⟨before, after, split, calm⟩
    rcases List.eq_nil_or_concat after with rfl | ⟨after, last, rfl⟩
    · exact .inr (List.append_inj_right' split rfl |> List.singleton_inj.mp)
    · rw [List.concat_eq_append, ← List.cons_append, ← List.append_assoc] at split
      obtain ⟨rfl, same⟩ := List.append_inj' split rfl
      cases same
      rw [List.concat_eq_append, List.mem_append, List.mem_singleton, not_or] at calm
      exact .inl ⟨⟨before, after, rfl, calm.1⟩, Ne.symm calm.2⟩
  · rintro (⟨⟨before, after, rfl, calm⟩, other⟩ | rfl)
    · refine ⟨before, after ++ [action], by simp, ?_⟩
      rw [List.mem_append, List.mem_singleton, not_or]
      exact ⟨calm, Ne.symm other⟩
    · exact ⟨actions, [], rfl, List.not_mem_nil⟩

/-- What a state says of the steps which led to it: the notices to be triggered, and, before a wait,
those which came after the queue was last found empty. -/
structure Follows (monitor : FilePathMonitor) (actions : List Action) : Prop where
  untriggered : monitor.untriggered + actions.count .trigger = actions.countP Action.isEnqueue
  recent : monitor.waiter = .looping → ∀ path, path ∈ monitor.pathsUpdate ↔ Recent actions path

/-- All notices were triggered exactly when none is left to be. -/
theorem Follows.triggered_iff (follows : monitor.Follows actions) :
    Triggered actions ↔ monitor.untriggered = 0 := by
  have counts := follows.untriggered
  rw [Triggered]
  omega

/-- Before the first step there was no notice. -/
theorem follows_start : Follows {} [] where
  untriggered := rfl
  recent _ path := by
    constructor
    · intro waits
      cases waits
    · rintro ⟨before, after, split, _⟩
      exact nomatch (List.append_eq_nil_iff.mp split.symm).2

/-- A step which is neither a notice nor the last look at the queue. -/
theorem Follows.quiet (follows : monitor.Follows actions) (notice : action.isEnqueue = false)
    (look : action ≠ .emptied)
    (untriggered : next.untriggered + [action].count .trigger = monitor.untriggered)
    (same : next.waiter = .looping →
      monitor.waiter = .looping ∧ next.pathsUpdate = monitor.pathsUpdate) :
    next.Follows (actions ++ [action]) where
  untriggered := by
    have counts := follows.untriggered
    rw [List.count_append, List.countP_append, ← counts, List.countP_singleton, notice]
    simp only [Bool.false_eq_true, if_false]
    omega
  recent looping path := by
    obtain ⟨before, queue⟩ := same looping
    rw [queue, follows.recent before, recent_append, and_iff_left look]
    refine (or_iff_left ?_).symm
    rintro rfl
    cases notice

/-- Every step is remembered. -/
theorem Follows.step (follows : monitor.Follows actions)
    (stepped : monitor.step action = some next) : next.Follows (actions ++ [action]) := by
  have counts := follows.untriggered
  cases action with
  | enqueue path =>
      cases stepped
      refine ⟨?_, fun looping other => ?_⟩
      · simp only [List.count_append, List.countP_append, List.count_singleton,
          List.countP_singleton, Action.isEnqueue]
        simp only [if_true, reduceCtorEq, beq_iff_eq, if_false]
        omega
      · rw [List.mem_append, List.mem_singleton, follows.recent looping, recent_append]
        simp [eq_comm]
  | emptied =>
      obtain ⟨⟨_, empty⟩, stepped⟩ := Option.ite_none_right_eq_some.mp stepped
      cases stepped
      refine ⟨?_, fun _ other => ?_⟩
      · simpa [Action.isEnqueue] using counts
      · rw [recent_append, empty]
        simp
  | trigger =>
      obtain ⟨pending, stepped⟩ := Option.ite_none_left_eq_some.mp stepped
      cases stepped
      refine follows.quiet rfl Action.noConfusion ?_ fun looping => ⟨?_, rfl⟩
      · simp only [List.count_singleton_self]
        omega
      · cases place : monitor.waiter <;> simp [CoEvent.trigger, place] at looping ⊢
  | tryDequeue path =>
      obtain ⟨_, stepped⟩ := Option.ite_none_right_eq_some.mp stepped
      cases stepped
      exact follows.quiet rfl Action.noConfusion rfl Waiter.noConfusion
  | erase =>
      rw [FilePathMonitor.step] at stepped
      split at stepped <;> cases stepped
      exact follows.quiet rfl Action.noConfusion rfl Waiter.noConfusion
  | asyncGetResource absPath =>
      rw [FilePathMonitor.step] at stepped
      split at stepped <;> cases stepped <;>
        exact follows.quiet rfl Action.noConfusion rfl fun looping => ⟨looping, rfl⟩
  | asyncWait | expire | resume =>
      obtain ⟨_, stepped⟩ := Option.ite_none_right_eq_some.mp stepped
      cases stepped
      exact follows.quiet rfl Action.noConfusion rfl Waiter.noConfusion

/-- A state says of the steps which led to it what it should. -/
theorem follows_of_run (ran : Machine.run step {} actions = some monitor) :
    monitor.Follows actions := by
  induction actions using List.reverseRecOn generalizing monitor with
  | nil =>
      cases ran
      exact follows_start
  | append_singleton actions action inductionHypothesis =>
      obtain ⟨middle, earlier, last⟩ := Machine.run_append.mp ran
      obtain ⟨final, stepped, done⟩ := Machine.run_cons.mp last
      cases done
      exact (inductionHypothesis earlier).step stepped

/-- The wait is entered too early exactly behind a notice which came after the last look at the
queue, when all notices were triggered. -/
theorem admitted_iff (follows : monitor.Follows actions) (looping : monitor.waiter = .looping) :
    monitor.Admitted .asyncWait ↔ ¬ ∃ path, Recent actions path ∧ Triggered actions := by
  rw [follows.triggered_iff]
  constructor
  · rintro admitted ⟨path, recent, triggered⟩
    have waits := (follows.recent looping path).mpr recent
    exact List.not_mem_nil (admitted rfl triggered ▸ waits)
  · intro none _ triggered
    rw [List.eq_nil_iff_forall_not_mem]
    intro path waits
    exact none ⟨path, (follows.recent looping path).mp waits, triggered⟩

/-- Every notice of a run is heard if and only if `waitHotUpdate` never enters its wait behind a
notice which came after its last look at the queue, with all notices triggered. -/
theorem heard_throughout_iff (labels : List Action) (final : FilePathMonitor)
    (ran : Machine.run step {} labels = some final) :
    Machine.Throughout step Heard {} labels ↔ ¬ Missed labels := by
  have queued : Queued {} := fun path made cached => nomatch cached
  have heard : Heard {} := fun sleeping => nomatch sleeping
  rw [Machine.throughout_iff_every Queued Heard Admitted (fun queued _ => queued.step) heard_step
    queued heard ran, Machine.every_iff_split]
  constructor
  · rintro every ⟨before, after, path, rfl, recent, triggered⟩
    obtain ⟨reached, earlier, later⟩ := Machine.run_append.mp ran
    obtain ⟨next, stepped, _⟩ := Machine.run_cons.mp later
    obtain ⟨looping, _⟩ := Option.ite_none_right_eq_some.mp stepped
    exact (admitted_iff (follows_of_run earlier) looping).mp
      (every before .asyncWait after reached rfl earlier) ⟨path, recent, triggered⟩
  · rintro none before action after reached rfl earlier rfl
    obtain ⟨_, same, later⟩ := Machine.run_append.mp ran
    cases earlier.symm.trans same
    obtain ⟨next, stepped, _⟩ := Machine.run_cons.mp later
    obtain ⟨looping, _⟩ := Option.ite_none_right_eq_some.mp stepped
    refine (admitted_iff (follows_of_run earlier) looping).mpr ?_ rfl
    rintro ⟨path, recent, triggered⟩
    exact none ⟨before, after, path, rfl, recent, triggered⟩

/-- Two notices are heard in one turn of the loop, and a third wakes the next wait. -/
def twoHeard : List Action :=
  [.asyncWait, .asyncGetResource "a", .enqueue "a", .enqueue "b", .trigger, .resume,
    .tryDequeue "b", .erase, .trigger, .tryDequeue "a", .erase, .emptied, .enqueue "c", .asyncWait,
    .trigger]

/-- Two notices, both heard. -/
theorem heard_throughout_iff_two : Machine.Throughout step Heard {} twoHeard := by
  refine (heard_throughout_iff twoHeard ⟨[], ["c"], 0, .woken, ["a", "b", "c"]⟩ (by decide)).mpr ?_
  rintro ⟨before, after, path, split, recent, triggered⟩
  have waits : before = [] ∨ before = twoHeard.take 13 := by
    simp [twoHeard, List.cons_eq_append_iff] at split
    exact split.imp And.left And.left
  rcases waits with rfl | rfl
  · obtain ⟨earlier, later, nothing, _⟩ := recent
    exact nomatch (List.append_eq_nil_iff.mp nothing.symm).2
  · exact absurd triggered (by decide)

/-- A notice whose two halves fall between the last dequeue and the next wait: the entry of its file
stays. -/
theorem heard_fails :
    Machine.run step {} [.asyncWait, .asyncGetResource "a", .enqueue "b", .trigger, .resume,
        .tryDequeue "b", .erase, .emptied, .enqueue "a", .trigger, .asyncWait] =
      some ⟨[("a", 0)], ["a"], 0, .suspended, ["b", "a"]⟩ ∧
    ¬ Heard ⟨[("a", 0)], ["a"], 0, .suspended, ["b", "a"]⟩ := by
  refine ⟨by decide, ?_⟩
  intro heard
  exact absurd (heard rfl rfl).1 (List.cons_ne_nil _ _)

end FilePathMonitor

end SM.Hotupdate
