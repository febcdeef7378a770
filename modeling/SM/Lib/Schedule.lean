import Mathlib.Logic.Function.Basic

/-!
# Schedules of multi-step tasks

A schedule lists which task takes the next step. `emit` is the sequence of items
which the tasks put out when each step puts out the next item of its task.
`blocks` are the schedules which finish one task before they start another, and
`exists_blocks` cuts the longest such part off the front of a schedule.
-/

namespace SM.Lib.Schedule

variable {Task Item : Type}

/-- One task after the other, each with all its steps. -/
def blocks (steps : Task → Nat) (order : List Task) : List Task :=
  order.flatMap fun task => List.replicate (steps task) task

/-- No other step stands between the steps of a task. -/
def Unsplit (steps : Task → Nat) (schedule : List Task) : Prop :=
  ∃ order, schedule = blocks steps order

@[simp] theorem blocks_nil (steps : Task → Nat) : blocks steps [] = [] := rfl

@[simp] theorem blocks_cons (steps : Task → Nat) (task : Task) (order : List Task) :
    blocks steps (task :: order) = List.replicate (steps task) task ++ blocks steps order := rfl

@[simp] theorem blocks_append (steps : Task → Nat) (first second : List Task) :
    blocks steps (first ++ second) = blocks steps first ++ blocks steps second :=
  List.flatMap_append

/-- Blocks of one length add up. -/
theorem length_blocks (steps : Nat) (order : List Task) :
    (blocks (fun _ => steps) order).length = order.length * steps := by
  induction order with
  | nil => simp
  | cons task order inductionHypothesis =>
      rw [blocks_cons, List.length_append, List.length_replicate, inductionHypothesis,
        List.length_cons, Nat.succ_mul, Nat.add_comm]

/-- A task of the blocks is one of the order. -/
theorem mem_of_mem_blocks {steps : Task → Nat} {task : Task} {order : List Task}
    (member : task ∈ blocks steps order) : task ∈ order := by
  obtain ⟨other, otherMember, repeated⟩ := List.mem_flatMap.mp member
  rwa [(List.mem_replicate.mp repeated).2]

variable [DecidableEq Task]

/-- Every task takes exactly its number of steps. -/
def Complete (steps : Task → Nat) (schedule : List Task) : Prop :=
  ∀ task, schedule.count task = steps task

/-- No task takes more than its number of steps. -/
def Within (steps : Task → Nat) (schedule : List Task) : Prop :=
  ∀ task, schedule.count task ≤ steps task

/-- The items put out along a schedule; a task without items puts out nothing. -/
def emit (items : Task → List Item) : List Task → List Item
  | [] => []
  | task :: schedule =>
      match items task with
      | [] => emit items schedule
      | item :: rest => item :: emit (Function.update items task rest) schedule

/-- A complete schedule has no steps too many. -/
theorem Complete.within {steps : Task → Nat} {schedule : List Task}
    (complete : Complete steps schedule) : Within steps schedule :=
  fun task => Nat.le_of_eq (complete task)

/-- A task has its steps as often as it comes in the order. -/
theorem count_blocks (steps : Task → Nat) (task : Task) (order : List Task) :
    (blocks steps order).count task = order.count task * steps task := by
  induction order with
  | nil => simp
  | cons other order inductionHypothesis =>
      rw [blocks_cons, List.count_append, List.count_replicate, inductionHypothesis]
      by_cases same : other = task
      · subst same
        rw [if_pos (by simp), List.count_cons_self, Nat.add_mul]
        omega
      · rw [if_neg (by simpa using same), List.count_cons_of_ne same, Nat.zero_add]

/-- A complete schedule without splits runs every task once. -/
theorem count_order_of_complete {steps : Task → Nat} (positive : ∀ task, 0 < steps task)
    {order : List Task} (complete : Complete steps (blocks steps order)) (task : Task) :
    order.count task = 1 := by
  have total := complete task
  rw [count_blocks] at total
  exact Nat.eq_of_mul_eq_mul_right (positive task) (by rw [total, Nat.one_mul])

/-- A task with a finished block takes no other step. -/
theorem nodup_of_within {steps : Task → Nat} (positive : ∀ task, 0 < steps task)
    {order rest : List Task} (within : Within steps (blocks steps order ++ rest)) :
    order.Nodup ∧ ∀ task ∈ order, task ∉ rest := by
  have bound (task : Task) : order.count task * steps task + rest.count task ≤ steps task := by
    have total := within task
    rwa [List.count_append, count_blocks] at total
  constructor
  · refine List.nodup_iff_count.mpr fun task => ?_
    exact Nat.le_of_mul_le_mul_right (by have := bound task; omega) (positive task)
  · intro task member again
    have counted : 1 * steps task ≤ order.count task * steps task :=
      Nat.mul_le_mul_right _ (List.count_pos_iff.mpr member)
    have more := List.count_pos_iff.mpr again
    have total := bound task
    omega

/-! ## Splitting a schedule -/

/-- The steps of one task at the front of a schedule. -/
theorem exists_replicate (task : Task) (schedule : List Task) :
    ∃ count later, schedule = List.replicate count task ++ later ∧
      later.head? ≠ some task := by
  induction schedule with
  | nil => exact ⟨0, [], rfl, by simp⟩
  | cons other schedule inductionHypothesis =>
      by_cases same : other = task
      · obtain ⟨count, later, rfl, stop⟩ := inductionHypothesis
        exact ⟨count + 1, later, by rw [same]; rfl, stop⟩
      · exact ⟨0, other :: schedule, rfl, by simpa using same⟩

/-- A schedule which starts with a task that does not finish before another one steps. -/
def Split (steps : Task → Nat) (schedule : List Task) : Prop :=
  ∃ task count later, 0 < count ∧ count < steps task ∧
    schedule = List.replicate count task ++ later ∧ later.head? ≠ some task

/-- The longest part in which each task finishes before another one steps. -/
theorem exists_blocks {steps : Task → Nat} (positive : ∀ task, 0 < steps task)
    {schedule : List Task} (within : Within steps schedule) :
    ∃ order rest, schedule = blocks steps order ++ rest ∧ order.Nodup ∧
      (∀ task ∈ order, task ∉ rest) ∧ (rest = [] ∨ Split steps rest) := by
  induction size : schedule.length using Nat.strongRecOn generalizing schedule with
  | ind size inductionHypothesis =>
      subst size
      cases schedule with
      | nil => exact ⟨[], [], rfl, List.nodup_nil, by simp, .inl rfl⟩
      | cons task tail =>
          obtain ⟨count, later, split, stop⟩ := exists_replicate task (task :: tail)
          have started : 0 < count := by
            cases count with
            | zero =>
                have whole : task :: tail = later := split
                exact absurd (by rw [← whole]; rfl) stop
            | succ count => omega
          rw [split]
          have bound := within task
          rw [split, List.count_append, List.count_replicate_self] at bound
          by_cases finished : count = steps task
          · have gone : task ∉ later := List.count_eq_zero.mp (by omega)
            have laterWithin : Within steps later := by
              intro other
              have bound := within other
              rw [split, List.count_append] at bound
              omega
            have shorter : later.length < (task :: tail).length := by
              rw [split, List.length_append, List.length_replicate]
              omega
            obtain ⟨order, rest, rfl, nodup, fresh, done⟩ :=
              inductionHypothesis _ shorter laterWithin rfl
            rw [List.mem_append, not_or] at gone
            have notBefore : task ∉ order := by
              intro member
              exact gone.1 (List.mem_flatMap.mpr
                ⟨task, member, List.mem_replicate.mpr ⟨Nat.ne_of_gt (positive task), rfl⟩⟩)
            refine ⟨task :: order, rest, ?_, List.nodup_cons.mpr ⟨notBefore, nodup⟩, ?_, done⟩
            · rw [blocks_cons, finished, List.append_assoc]
            · intro other member
              rcases List.mem_cons.mp member with rfl | member
              · exact gone.2
              · exact fresh other member
          · refine ⟨[], _, rfl, List.nodup_nil, by simp, .inr ?_⟩
            exact ⟨task, count, later, started, by omega, rfl, stop⟩

/-! ## What a schedule puts out -/

/-- Steps of one task in a row emit its first items. -/
theorem emit_replicate {items : Task → List Item} {task : Task} {count : Nat}
    (enough : count ≤ (items task).length) (rest : List Task) :
    emit items (List.replicate count task ++ rest) = (items task).take count ++
      emit (Function.update items task ((items task).drop count)) rest := by
  induction count generalizing items with
  | zero => simp
  | succ count inductionHypothesis =>
      cases here : items task with
      | nil => simp [here] at enough
      | cons item later =>
          rw [List.replicate_succ, List.cons_append]
          simp only [emit, here]
          rw [inductionHypothesis (by
            rw [here] at enough
            simpa using enough)]
          simp

/-- What is emitted is an item of some task. -/
theorem mem_of_mem_emit {items : Task → List Item} {schedule : List Task} {item : Item}
    (member : item ∈ emit items schedule) : ∃ task, item ∈ items task := by
  induction schedule generalizing items with
  | nil => cases member
  | cons task schedule inductionHypothesis =>
      cases here : items task with
      | nil =>
          simp only [emit, here] at member
          exact inductionHypothesis member
      | cons first rest =>
          simp only [emit, here] at member
          rcases List.mem_cons.mp member with rfl | member
          · exact ⟨task, by simp [here]⟩
          · obtain ⟨other, later⟩ := inductionHypothesis member
            by_cases same : other = task
            · subst same
              rw [Function.update_self] at later
              exact ⟨other, by simp [here, later]⟩
            · exact ⟨other, by rwa [Function.update_of_ne same] at later⟩

/-- The items of tasks which are not in the schedule do not matter. -/
theorem emit_congr {items items' : Task → List Item} {schedule : List Task}
    (same : ∀ task ∈ schedule, items task = items' task) :
    emit items schedule = emit items' schedule := by
  induction schedule generalizing items items' with
  | nil => rfl
  | cons task schedule inductionHypothesis =>
      simp only [emit, same task List.mem_cons_self]
      have later : ∀ other ∈ schedule, items other = items' other :=
        fun other member => same other (List.mem_cons_of_mem _ member)
      cases here : items' task with
      | nil => exact inductionHypothesis later
      | cons item rest =>
          simp only [List.cons.injEq, true_and]
          apply inductionHypothesis
          intro other member
          by_cases equal : other = task
          · rw [equal, Function.update_self, Function.update_self]
          · rw [Function.update_of_ne equal, Function.update_of_ne equal, later other member]

/-- The tasks of finished blocks put out all their items, one task after the other. -/
theorem emit_blocks {items : Task → List Item} {steps : Task → Nat}
    (counts : ∀ task, (items task).length = steps task) {order rest : List Task}
    (nodup : order.Nodup) (fresh : ∀ task ∈ order, task ∉ rest) :
    emit items (blocks steps order ++ rest) = order.flatMap items ++ emit items rest := by
  induction order with
  | nil => rfl
  | cons task order inductionHypothesis =>
      obtain ⟨notLater, nodup⟩ := List.nodup_cons.mp nodup
      rw [blocks_cons, List.append_assoc, emit_replicate (Nat.le_of_eq (counts task).symm),
        List.take_of_length_le (Nat.le_of_eq (counts task)), List.flatMap_cons, List.append_assoc,
        ← inductionHypothesis nodup fun other member => fresh other (List.mem_cons_of_mem _ member)]
      congr 1
      apply emit_congr
      intro other member
      have different : other ≠ task := by
        rintro rfl
        rcases List.mem_append.mp member with member | member
        · exact notLater (mem_of_mem_blocks member)
        · exact fresh other List.mem_cons_self member
      exact Function.update_of_ne different _ _

end SM.Lib.Schedule
