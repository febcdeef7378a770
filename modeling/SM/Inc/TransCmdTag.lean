import SM.Inc.ReqReps
import SM.Inc.TemplateFuncs
import SM.Lib.Machine

/-!
# Handlers of the database server

`ROUTER_DBT2` runs a handler as a task of the executor, and the coroutine of the route waits for a
timer which the task has cancelled when the handler is done. The wait also ends when the timer
expires, which `async_wait` does not tell from a cancellation. `routerDBT2_sound` says what the
route answers as long as the task is done by then.
-/

namespace SM.Hotupdate

/-- The error code with which a wait for a timer ends. -/
inductive WaitEnd where
  | expired
  | aborted
deriving DecidableEq

/-- `expiry` is the time at which `timer_` expires, as long as an operation waits for it. -/
structure CoEvent where
  milliseconds : Nat := 3600000
  expiry : Option Nat := none
deriving DecidableEq

namespace CoEvent

/-- `async_wait` until it suspends its caller. -/
def asyncWait (now : Nat) (ev : CoEvent) : CoEvent :=
  { ev with expiry := some (now + ev.milliseconds) }

/-- `timer_.cancel_one`, which is the body of `trigger`: the end of the wait, if there is one. -/
def cancelOne (ev : CoEvent) : Option WaitEnd × CoEvent :=
  (ev.expiry.map fun _ => .aborted, { ev with expiry := none })

/-- The loop ends a wait when it finds that the time has come. -/
def expire (now : Nat) (ev : CoEvent) : Option (WaitEnd × CoEvent) :=
  match ev.expiry with
  | some expiry => if expiry ≤ now then some (.expired, { ev with expiry := none }) else none
  | none => none

end CoEvent

end SM.Hotupdate

namespace SM.Inc

open SM.Hotupdate SM.Lib SM.Utils

/-- The coroutine of a route. -/
inductive RouteStage where
  | started
  /-- The task was given to `TFEXEC`. -/
  | spawned
  | waiting
  | answered (strret : Bytes)
deriving DecidableEq

def RouteStage.isAnswered : RouteStage → Bool
  | .answered _ => true
  | _ => false

/-- The task, with what came out of the handler; `none` is an exception. -/
inductive TaskStage (Rep : Type) where
  | absent
  | queued
  | running
  | ended (outcome : Option Rep)
  | posted (outcome : Option Rep)
deriving DecidableEq

/-- What `IOCTX` has to run: the coroutine that triggers, and the resumption of the one that
waits. -/
inductive LoopItem where
  | trigger
  | resume (ec : WaitEnd)
deriving DecidableEq

/-- A run of the lambda of `ROUTER_DBT2`: its message, and the texts of its replies. -/
structure RouterDBT2 (codecs : List Codec) (Rep : Type) where
  msg : StringView
  myToString : Rep → Bytes
  /-- The text of an `invalidJSONRep`. -/
  invalidJSON : Bytes

namespace RouterDBT2

/-- The run with its task, the loop and the clock. -/
structure State (codecs : List Codec) (Rep : Type) where
  now : Nat
  stage : RouteStage
  ev : CoEvent
  ret : Rep
  task : TaskStage Rep
  ready : List LoopItem
  /-- The arguments of each call of the handler. -/
  runs : List (Tuple codecs)
  /-- A local was used after the answer. -/
  stale : Bool

inductive Action (Rep : Type) where
  | tick (milliseconds : Nat)
  | spawn
  | wait
  | runTask
  | endTask (outcome : Option Rep)
  | postTrigger
  | expire
  | runReady
deriving DecidableEq

variable {codecs : List Codec} {Rep : Type} [Reply Rep]

/-- Whether the arguments were parsed, and the arguments. -/
def unpacked (route : RouterDBT2 codecs Rep) : Bool × Tuple codecs :=
  unpackArgs (.tuple codecs) route.msg

def initial : State codecs Rep where
  now := 0
  stage := .started
  ev := {}
  ret := Reply.initial
  task := .absent
  ready := []
  runs := []
  stale := false

/-- The locals of the coroutine are used. -/
def State.touch (state : State codecs Rep) : State codecs Rep :=
  { state with stale := state.stale || state.stage.isAnswered }

/-- The loop has the thread when the coroutine has suspended or ended. -/
def State.idle (state : State codecs Rep) : Bool :=
  match state.stage with
  | .started | .spawned => false
  | .waiting | .answered _ => true

/-- A coroutine or a resumption which the loop takes from its queue. -/
def runItem (route : RouterDBT2 codecs Rep) (state : State codecs Rep) :
    LoopItem → Option (State codecs Rep)
  | .trigger =>
      let (ended, ev) := state.ev.cancelOne
      some { state.touch with ev, ready := state.ready ++ (ended.map LoopItem.resume).toList }
  | .resume _ =>
      -- `async_wait` has the error code and does not look at it.
      match state.stage with
      | .waiting => some { state with stage := .answered (route.myToString state.ret) }
      | _ => none

def step (route : RouterDBT2 codecs Rep) (state : State codecs Rep) :
    Action Rep → Option (State codecs Rep)
  | .tick milliseconds => some { state with now := state.now + milliseconds }
  | .spawn =>
      match state.stage with
      | .started =>
          if route.unpacked.1 then some { state with stage := .spawned, task := .queued }
          else some { state with stage := .answered route.invalidJSON }
      | _ => none
  | .wait =>
      match state.stage with
      | .spawned => some { state with stage := .waiting, ev := state.ev.asyncWait state.now }
      | _ => none
  | .runTask =>
      match state.task with
      | .queued =>
          some { state.touch with
            task := .running
            ret := Reply.setCode StatusCode.sqlExecuteFailed.toInt state.ret
            runs := state.runs ++ [route.unpacked.2] }
      | _ => none
  | .endTask outcome =>
      match state.task, outcome with
      | .running, some value =>
          some { state.touch with task := .ended outcome, ret := value }
      | .running, none => some { state with task := .ended outcome }
      | _, _ => none
  | .postTrigger =>
      match state.task with
      | .ended outcome =>
          some { state.touch with task := .posted outcome, ready := state.ready ++ [.trigger] }
      | _ => none
  | .expire =>
      match state.stage with
      | .waiting =>
          (state.ev.expire state.now).map fun (ec, ev) =>
            { state with ev, ready := state.ready ++ [.resume ec] }
      | _ => none
  | .runReady =>
      match state.ready with
      | [] => none
      | item :: ready => if state.idle then runItem route { state with ready } item else none

/-! ## Answers -/

/-- An answer is in reach. -/
def Answerable (route : RouterDBT2 codecs Rep) (state : State codecs Rep) : Prop :=
  ∃ actions final strret, Machine.run route.step state actions = some final ∧
    final.stage = .answered strret

/-- A route answers with what its handler gave, after the only call of the handler, and no local is
used after that. -/
structure Sound (route : RouterDBT2 codecs Rep) (state : State codecs Rep) : Prop where
  answer : ∀ strret, state.stage = .answered strret → route.unpacked.1 = true →
    ∃ outcome rep, state.task = .posted outcome ∧ state.runs = [route.unpacked.2] ∧
      strret = route.myToString rep ∧ (∀ value, outcome = some value → rep = value) ∧
      (outcome = none → Reply.code rep = StatusCode.sqlExecuteFailed.toInt)
  /-- Without arguments there is no task. -/
  refusal : route.unpacked.1 = false → state.runs = [] ∧
    ∀ strret, state.stage = .answered strret → strret = route.invalidJSON
  once : state.runs.length ≤ 1
  fresh : state.stale = false
  answerable : route.Answerable state

/-- The loop does not find the timer expired before the task has posted the coroutine that cancels
it. -/
def InTime (state : State codecs Rep) (action : Action Rep) : Prop :=
  action = .expire → ∃ outcome, state.task = .posted outcome

/-- The coroutine and the task are at their ends, and the loop has nothing to run. -/
structure Settled (state : State codecs Rep) : Prop where
  answered : ∃ strret, state.stage = .answered strret
  task : state.task = .absent ∨ ∃ outcome, state.task = .posted outcome
  ready : state.ready = []

/-! ## Invariant -/

/-- The reply after the handler: its value, or the reply with the code of a failed statement. -/
def finalReply : Option Rep → Rep
  | some value => value
  | none => Reply.setCode StatusCode.sqlExecuteFailed.toInt Reply.initial

end RouterDBT2

namespace TaskStage

variable {codecs : List Codec} {Rep : Type} [Reply Rep]

/-- The coroutine which a task has posted. -/
def posts : TaskStage Rep → List LoopItem
  | .posted _ => [.trigger]
  | _ => []

/-- The local `ret`, which the task assigns. -/
def ret : TaskStage Rep → Rep
  | .absent | .queued => Reply.initial
  | .running => Reply.setCode StatusCode.sqlExecuteFailed.toInt Reply.initial
  | .ended outcome | .posted outcome => RouterDBT2.finalReply outcome

/-- The calls of the handler. -/
def runs (args : Tuple codecs) : TaskStage Rep → List (Tuple codecs)
  | .absent | .queued => []
  | _ => [args]

end TaskStage

namespace RouterDBT2

variable {codecs : List Codec} {Rep : Type} [Reply Rep]

/-- How coroutine, task, timer and queue stand to each other as long as the task is in time. -/
inductive OnTime (route : RouterDBT2 codecs Rep) :
    RouteStage → TaskStage Rep → Option Nat → List LoopItem → Prop where
  | started : OnTime route .started .absent none []
  | refused (failed : route.unpacked.1 = false) :
      OnTime route (.answered route.invalidJSON) .absent none []
  | spawned {task} (parsed : route.unpacked.1 = true) (present : task ≠ .absent) :
      OnTime route .spawned task none task.posts
  | waiting {task expiry} (parsed : route.unpacked.1 = true) (present : task ≠ .absent) :
      OnTime route .waiting task (some expiry) task.posts
  | expired {outcome ec} (parsed : route.unpacked.1 = true) :
      OnTime route .waiting (.posted outcome) none [.trigger, .resume ec]
  | resuming {outcome ec} (parsed : route.unpacked.1 = true) :
      OnTime route .waiting (.posted outcome) none [.resume ec]
  | answered {outcome} (parsed : route.unpacked.1 = true) :
      OnTime route (.answered (route.myToString (finalReply outcome))) (.posted outcome) none []

/-- A state in which the task was always in time. -/
structure Good (route : RouterDBT2 codecs Rep) (state : State codecs Rep) : Prop where
  onTime : OnTime route state.stage state.task state.ev.expiry state.ready
  ret : state.ret = state.task.ret
  runs : state.runs = state.task.runs route.unpacked.2
  fresh : state.stale = false

/-- The timer has expired before the task had posted its coroutine. -/
inductive Overtaken : RouteStage → TaskStage Rep → Option Nat → List LoopItem → Bool → Prop where
  | resuming {task ec stale} (present : task ≠ .absent) :
      Overtaken .waiting task none (.resume ec :: task.posts) stale
  | answered {strret task stale} (present : task ≠ .absent) :
      Overtaken (.answered strret) task none task.posts stale
  | used {strret outcome} : Overtaken (.answered strret) (.posted outcome) none [] true

/-- The wait of the coroutine has ended before its task. -/
def Late (state : State codecs Rep) : Prop :=
  Overtaken state.stage state.task state.ev.expiry state.ready state.stale

/-- Before the first step nothing has gone wrong. -/
theorem good_initial (route : RouterDBT2 codecs Rep) : route.Good initial :=
  ⟨.started, rfl, rfl, rfl⟩

variable {route : RouterDBT2 codecs Rep} {state next : State codecs Rep} {action : Action Rep}

/-! ## Steps -/

def Action.ofTask : Action Rep → Bool
  | .runTask | .endTask _ | .postTrigger => true
  | _ => false

/-- What a step of the task does. -/
structure TaskStep (route : RouterDBT2 codecs Rep) (state next : State codecs Rep) : Prop where
  started : state.task ≠ .absent
  unposted : state.task.posts = []
  present : next.task ≠ .absent
  stage : next.stage = state.stage
  ev : next.ev = state.ev
  ready : next.ready = state.ready ++ next.task.posts
  ret : state.ret = state.task.ret → next.ret = next.task.ret
  runs : state.runs = state.task.runs route.unpacked.2 →
    next.runs = next.task.runs route.unpacked.2
  stale : state.stage.isAnswered = false → next.stale = state.stale

/-- What each step of the task does. -/
theorem taskStep_of_step (ofTask : action.ofTask = true)
    (stepped : route.step state action = some next) : TaskStep route state next := by
  obtain ⟨now, stage, ev, ret, task, ready, runs, stale⟩ := state
  have touched (unanswered : stage.isAnswered = false) :
      (stale || stage.isAnswered) = stale := by
    rw [unanswered, Bool.or_false]
  cases action with
  | tick | spawn | wait | expire | runReady => cases ofTask
  | runTask =>
      cases task <;> cases stepped
      refine ⟨nofun, rfl, nofun, rfl, rfl, (List.append_nil _).symm, ?_, ?_, touched⟩
      · exact congrArg (Reply.setCode StatusCode.sqlExecuteFailed.toInt)
      · exact congrArg (· ++ [route.unpacked.2])
  | endTask outcome =>
      cases task <;> cases outcome <;> cases stepped
      · exact ⟨nofun, rfl, nofun, rfl, rfl, (List.append_nil _).symm, id, id, fun _ => rfl⟩
      · exact ⟨nofun, rfl, nofun, rfl, rfl, (List.append_nil _).symm, fun _ => rfl, id, touched⟩
  | postTrigger =>
      cases task <;> cases stepped
      exact ⟨nofun, rfl, nofun, rfl, rfl, rfl, id, id, touched⟩

/-- The task goes on where it may, and all else stays. -/
theorem OnTime.of_taskStep {stage : RouteStage} {task later : TaskStage Rep} {expiry : Option Nat}
    {ready : List LoopItem} (onTime : OnTime route stage task expiry ready)
    (started : task ≠ .absent) (unposted : task.posts = []) (present : later ≠ .absent) :
    stage.isAnswered = false ∧ OnTime route stage later expiry (ready ++ later.posts) := by
  cases onTime with
  | started => exact absurd rfl started
  | refused failed => exact absurd rfl started
  | spawned parsed _ =>
      rw [unposted]
      exact ⟨rfl, .spawned parsed present⟩
  | waiting parsed _ =>
      rw [unposted]
      exact ⟨rfl, .waiting parsed present⟩
  | expired parsed => cases unposted
  | resuming parsed => cases unposted
  | answered parsed => cases unposted

/-- Steps of the coroutine, the task and the queue keep the invariant. -/
theorem good_of_ne_expire (good : route.Good state) (other : action ≠ .expire)
    (stepped : route.step state action = some next) : route.Good next := by
  by_cases ofTask : action.ofTask = true
  · have task := taskStep_of_step ofTask stepped
    obtain ⟨unanswered, onTime⟩ := good.onTime.of_taskStep task.started task.unposted task.present
    refine ⟨?_, task.ret good.ret, task.runs good.runs, (task.stale unanswered).trans good.fresh⟩
    rw [task.stage, task.ev, task.ready]
    exact onTime
  obtain ⟨now, stage, ⟨milliseconds, expiry⟩, ret, task, ready, runs, stale⟩ := state
  obtain ⟨onTime, value, called, fresh⟩ := good
  dsimp only at onTime value called fresh
  subst value called fresh
  cases action with
  | runTask | endTask | postTrigger => exact absurd rfl ofTask
  | expire => exact absurd rfl other
  | tick milliseconds =>
      cases stepped
      exact ⟨onTime, rfl, rfl, rfl⟩
  | spawn =>
      cases onTime <;> simp only [step, reduceCtorEq] at stepped
      split at stepped
      · next parsed =>
          cases stepped
          exact ⟨.spawned parsed nofun, rfl, rfl, rfl⟩
      · next failed =>
          cases stepped
          exact ⟨.refused (Bool.not_eq_true _ ▸ failed), rfl, rfl, rfl⟩
  | wait =>
      cases onTime <;> simp only [step, reduceCtorEq] at stepped
      next parsed present =>
        cases stepped
        exact ⟨.waiting parsed present, rfl, rfl, rfl⟩
  | runReady =>
      cases onTime with
      | started => cases stepped
      | refused failed => cases stepped
      | spawned parsed present => cases task <;> cases stepped
      | waiting parsed present =>
          cases task <;> cases stepped
          exact ⟨.resuming parsed, rfl, rfl, rfl⟩
      | expired parsed =>
          cases stepped
          exact ⟨.resuming parsed, rfl, rfl, rfl⟩
      | resuming parsed =>
          cases stepped
          exact ⟨.answered parsed, rfl, rfl, rfl⟩
      | answered parsed => cases stepped

/-- The timer expires for a route which waits. -/
theorem expire_eq_some (stepped : route.step state .expire = some next) :
    state.stage = .waiting ∧ ∃ expiry, state.ev.expiry = some expiry ∧ expiry ≤ state.now ∧
      next = { state with
        ev := { state.ev with expiry := none }, ready := state.ready ++ [.resume .expired] } := by
  simp only [step] at stepped
  split at stepped
  · next waits =>
      refine ⟨waits, ?_⟩
      obtain ⟨⟨ec, ev⟩, taken, rfl⟩ := Option.map_eq_some_iff.mp stepped
      simp only [CoEvent.expire] at taken
      split at taken
      · next expiry pending =>
          split at taken
          · next come =>
              cases taken
              exact ⟨expiry, pending, come, rfl⟩
          · cases taken
      · cases taken
  · cases stepped

/-- A timer that expires after the trigger was posted does no harm: the trigger is run first. -/
theorem good_expire (good : route.Good state) (posted : ∃ outcome, state.task = .posted outcome)
    (stepped : route.step state .expire = some next) : route.Good next := by
  obtain ⟨waits, expiry, pending, -, rfl⟩ := expire_eq_some stepped
  obtain ⟨outcome, task⟩ := posted
  obtain ⟨onTime, value, called, fresh⟩ := good
  refine ⟨?_, value, called, fresh⟩
  dsimp only
  rw [waits, pending, task] at onTime
  rw [waits, task]
  generalize state.ready = ready at onTime ⊢
  cases onTime with
  | waiting parsed present => exact .expired parsed

/-- A timer that expires before is taken for the end of the task. -/
theorem late_expire (good : route.Good state)
    (unposted : ¬ ∃ outcome, state.task = .posted outcome)
    (stepped : route.step state .expire = some next) : Late next := by
  obtain ⟨waits, expiry, pending, -, rfl⟩ := expire_eq_some stepped
  have onTime := good.onTime
  have posts : state.task.posts = [] := by
    cases task : state.task with
    | posted outcome => exact absurd ⟨outcome, task⟩ unposted
    | _ => rfl
  rw [waits, pending] at onTime
  rw [Late]
  dsimp only
  rw [waits]
  generalize state.ready = ready, state.task = task at onTime posts ⊢
  cases onTime with
  | waiting parsed present =>
      have overtaken := @Overtaken.resuming Rep task .expired state.stale present
      rw [posts] at overtaken ⊢
      exact overtaken

/-- What is too late is not as it should be. -/
theorem Late.not_good (late : Late state) : ¬ route.Good state := by
  rintro ⟨onTime, -, -, fresh⟩
  have overtaken : Overtaken _ _ _ _ _ := late
  generalize state.stage = stage, state.task = task, state.ev.expiry = expiry,
    state.ready = ready, state.stale = stale at overtaken onTime fresh
  cases overtaken with
  | resuming present => cases task <;> cases onTime
  | answered present =>
      cases task with
      | absent => exact present rfl
      | _ => cases onTime
  | used => cases fresh

omit [Reply Rep] in
/-- A step of a task which was overtaken leaves it so. -/
theorem Overtaken.of_taskStep {stage : RouteStage} {task later : TaskStage Rep}
    {expiry : Option Nat} {ready : List LoopItem} {stale staleLater : Bool}
    (overtaken : Overtaken stage task expiry ready stale) (unposted : task.posts = [])
    (present : later ≠ .absent) :
    Overtaken stage later expiry (ready ++ later.posts) staleLater := by
  cases overtaken with
  | resuming _ =>
      rw [unposted]
      exact .resuming present
  | answered _ =>
      rw [unposted]
      exact .answered present
  | used => cases unposted

/-- What was overtaken stays so. -/
theorem late_step (late : Late state) (stepped : route.step state action = some next) :
    Late next := by
  have overtaken : Overtaken _ _ _ _ _ := late
  by_cases ofTask : action.ofTask = true
  · have task := taskStep_of_step ofTask stepped
    rw [Late, task.stage, task.ev, task.ready]
    exact overtaken.of_taskStep task.unposted task.present
  obtain ⟨now, stage, ⟨milliseconds, expiry⟩, ret, task, ready, runs, stale⟩ := state
  dsimp only at overtaken
  cases action with
  | runTask | endTask | postTrigger => exact absurd rfl ofTask
  | tick milliseconds =>
      cases stepped
      exact overtaken
  | spawn => cases overtaken <;> cases stepped
  | wait => cases overtaken <;> cases stepped
  | expire => cases overtaken <;> cases stepped
  | runReady =>
      cases overtaken with
      | resuming present =>
          cases stepped
          exact .answered present
      | answered present =>
          cases task <;> cases stepped
          simp only [Late, State.touch, RouteStage.isAnswered, Bool.or_true]
          exact .used
      | used => cases stepped

/-- A run in which the timer does not expire is in time. -/
theorem every_inTime {actions : List (Action Rep)} (without : .expire ∉ actions) :
    Machine.Every route.step InTime state actions := by
  induction actions generalizing state with
  | nil => trivial
  | cons action actions inductionHypothesis =>
      have other : .expire ≠ action := List.ne_of_not_mem_cons without
      have later : .expire ∉ actions := List.not_mem_of_not_mem_cons without
      exact ⟨fun same => absurd same.symm other, fun _ _ => inductionHypothesis later⟩

/-- The invariant ends with the first step that is not in time. -/
theorem good_iff_inTime (good : route.Good state)
    (stepped : route.step state action = some next) : route.Good next ↔ InTime state action := by
  by_cases other : action = .expire
  · subst other
    by_cases posted : ∃ outcome, state.task = .posted outcome
    · exact iff_of_true (good_expire good posted stepped) fun _ => posted
    · exact iff_of_false (late_expire good posted stepped).not_good fun inTime =>
        posted (inTime rfl)
  · exact iff_of_true (good_of_ne_expire good other stepped) fun same => absurd same other

/-! ## Answers in reach -/

/-- A route which can be answered could before. -/
theorem Answerable.of_step (stepped : route.step state action = some next)
    (answerable : route.Answerable next) : route.Answerable state := by
  obtain ⟨actions, final, strret, ran, answered⟩ := answerable
  exact ⟨action :: actions, final, strret, Machine.run_cons.mpr ⟨next, stepped, ran⟩, answered⟩

/-- Once the coroutine waits, an answer takes the rest of the task and two turns of the loop. -/
theorem answerable_of_waiting {task : TaskStage Rep} (present : task ≠ .absent)
    (now milliseconds expiry : Nat) (ret : Rep) (runs : List (Tuple codecs)) (stale : Bool) :
    route.Answerable
      ⟨now, .waiting, ⟨milliseconds, some expiry⟩, ret, task, task.posts, runs, stale⟩ := by
  cases task with
  | absent => exact absurd rfl present
  | queued => exact ⟨[.runTask, .endTask none, .postTrigger, .runReady, .runReady], _, _, rfl, rfl⟩
  | running => exact ⟨[.endTask none, .postTrigger, .runReady, .runReady], _, _, rfl, rfl⟩
  | ended outcome => exact ⟨[.postTrigger, .runReady, .runReady], _, _, rfl, rfl⟩
  | posted outcome => exact ⟨[.runReady, .runReady], _, _, rfl, rfl⟩

/-- A route whose task was just spawned can be answered. -/
theorem answerable_of_spawned {task : TaskStage Rep} (present : task ≠ .absent) (now : Nat)
    (ev : CoEvent) (ret : Rep) (runs : List (Tuple codecs)) (stale : Bool) :
    route.Answerable ⟨now, .spawned, ev, ret, task, task.posts, runs, stale⟩ :=
  @Answerable.of_step _ _ _ route _ _ .wait rfl (answerable_of_waiting present _ _ _ _ _ _)

/-- No wake-up is lost. -/
theorem Good.answerable (good : route.Good state) : route.Answerable state := by
  obtain ⟨now, stage, ⟨milliseconds, expiry⟩, ret, task, ready, runs, stale⟩ := state
  have onTime := good.onTime
  dsimp only at onTime
  cases onTime with
  | started =>
      cases parsed : route.unpacked.1 with
      | false =>
          refine @Answerable.of_step _ _ _ route _ _ .spawn (if_neg (by simp [parsed])) ?_
          exact ⟨[], _, _, rfl, rfl⟩
      | true =>
          refine @Answerable.of_step _ _ _ route _ _ .spawn (if_pos parsed) ?_
          exact @answerable_of_spawned _ _ _ _ .queued nofun _ _ _ _ _
  | refused failed => exact ⟨[], _, _, rfl, rfl⟩
  | spawned parsed present => exact answerable_of_spawned present _ _ _ _ _
  | waiting parsed present => exact answerable_of_waiting present _ _ _ _ _ _
  | expired parsed => exact ⟨[.runReady, .runReady], _, _, rfl, rfl⟩
  | resuming parsed => exact ⟨[.runReady], _, _, rfl, rfl⟩
  | answered parsed => exact ⟨[], _, _, rfl, rfl⟩

/-! ## Runs -/

/-- Where nothing has gone wrong the reply is right. -/
theorem Good.sound (good : route.Good state) : route.Sound state := by
  refine ⟨?_, ?_, ?_, good.fresh, good.answerable⟩
  · intro strret answered parsed
    have onTime := good.onTime
    have called := good.runs
    rw [answered] at onTime
    generalize state.task = task, state.ev.expiry = expiry, state.ready = ready at onTime called ⊢
    cases onTime with
    | refused failed =>
        rw [parsed] at failed
        cases failed
    | @answered outcome _ =>
        refine ⟨outcome, finalReply outcome, rfl, called, rfl, ?_, ?_⟩
        · rintro value rfl
          rfl
        · rintro rfl
          exact Reply.code_setCode _ _
  · intro failed
    have onTime := good.onTime
    have called := good.runs
    generalize state.stage = stage, state.task = task, state.ev.expiry = expiry,
      state.ready = ready at onTime called ⊢
    cases onTime with
    | started => exact ⟨called, nofun⟩
    | refused _ => exact ⟨called, fun strret same => (RouteStage.answered.inj same).symm⟩
    | spawned parsed | waiting parsed | expired parsed | resuming parsed | answered parsed =>
        rw [failed] at parsed
        cases parsed
  · rw [good.runs]
    cases state.task <;> simp [TaskStage.runs]

omit [Reply Rep] in
/-- In a settled run that was overtaken, the trigger has used the locals after the answer. -/
theorem Late.stale (late : Late state) (settled : Settled state) : state.stale = true := by
  have overtaken : Overtaken _ _ _ _ _ := late
  obtain ⟨⟨strret, answered⟩, ended, ready⟩ := settled
  rw [answered] at overtaken
  generalize state.task = task, state.ev.expiry = expiry, state.ready = items,
    state.stale = stale at overtaken ended ready ⊢
  cases overtaken with
  | answered present =>
      rcases ended with rfl | ⟨outcome, rfl⟩
      · exact absurd rfl present
      · cases ready
  | used => rfl

/-- After every step all is as it should be, or it is too late. -/
theorem good_or_late_step (before : route.Good state ∨ Late state)
    (stepped : route.step state action = some next) : route.Good next ∨ Late next := by
  rcases before with good | late
  · by_cases inTime : InTime state action
    · exact .inl ((good_iff_inTime good stepped).mpr inTime)
    · obtain ⟨rfl, unposted⟩ := Classical.not_imp.mp inTime
      exact .inr (late_expire good unposted stepped)
  · exact .inr (late_step late stepped)

/-- The route answers with what its handler gave, in every run in which the timer does not expire
before the task has posted the trigger, and among the runs that come to an end in no others. -/
theorem routerDBT2_sound (route : RouterDBT2 codecs Rep) {actions : List (Action Rep)}
    {final : State codecs Rep} (ran : Machine.run route.step initial actions = some final) :
    (Machine.Every route.step InTime initial actions →
        Machine.Throughout route.step route.Sound initial actions) ∧
      (Settled final → (route.Sound final ↔ Machine.Every route.step InTime initial actions)) := by
  have start := good_initial route
  -- Good states and late ones are all there are, and no step leads from a late one to a good one.
  have tracked {state action next} (before : route.Good state ∨ Late state)
      (stepped : route.step state action = some next) :
      route.Good next ↔ route.Good state ∧ InTime state action := by
    rcases before with good | late
    · rw [good_iff_inTime good stepped, and_iff_right good]
    · exact iff_of_false (late_step late stepped).not_good fun both => late.not_good both.1
  have whole := Machine.run_iff_every (fun state => route.Good state ∨ Late state) route.Good
    InTime good_or_late_step tracked (.inl start) ran
  rw [and_iff_right start] at whole
  refine ⟨?_, ?_⟩
  · intro every earlier later reached split earlierRan
    have throughout := Machine.throughout_of_every route.Good InTime
      (fun good inTime stepped => (good_iff_inTime good stepped).mpr inTime) start every
    exact (throughout earlier later reached split earlierRan).sound
  · intro settled
    rw [← whole]
    refine ⟨?_, Good.sound⟩
    intro sound
    have reached := Machine.run_of_every (fun state => route.Good state ∨ Late state)
      (fun _ _ => True) (fun before _ stepped => good_or_late_step before stepped) (.inl start) ran
      (Machine.every_of_forall fun _ _ => trivial)
    rcases reached with good | late
    · exact good
    · have fresh := sound.fresh
      rw [late.stale settled] at fresh
      cases fresh

/-! ## Two runs -/

/-- A handler with one argument which any message is, whose reply is written as its token. -/
def loginRoute : RouterDBT2 [.ofText (fun _ => []) (fun _ => some ()) ()] LoginRep where
  msg := .literal
  myToString rep := rep.token
  invalidJSON := []

/-- The handler returns while the coroutine waits. -/
theorem loginRoute_in_time :
    let actions : List (Action LoginRep) := [.spawn, .wait, .runTask,
      .endTask (some { token := [7] }), .postTrigger, .runReady, .runReady]
    ∃ final, Machine.run loginRoute.step initial actions = some final ∧
      final.stage = .answered [7] ∧
      Machine.Throughout loginRoute.step loginRoute.Sound initial actions ∧
      loginRoute.Sound final := by
  intro actions
  obtain ⟨final, ran, answered, settled⟩ :
      ∃ final, Machine.run loginRoute.step initial actions = some final ∧
        final.stage = .answered [7] ∧ Settled final :=
    ⟨_, rfl, rfl, ⟨_, rfl⟩, .inr ⟨_, rfl⟩, rfl⟩
  have every : Machine.Every loginRoute.step InTime initial actions :=
    every_inTime (by decide)
  obtain ⟨throughout, same⟩ := routerDBT2_sound loginRoute ran
  exact ⟨final, ran, answered, throughout every, (same settled).mpr every⟩

/-- The handler takes an hour. The route answers while it runs, with the reply that the task had
begun with, and afterwards the trigger uses the timer of a coroutine which has ended. -/
theorem loginRoute_overtaken :
    let actions : List (Action LoginRep) := [.spawn, .wait, .runTask, .tick 3600000, .expire,
      .runReady, .endTask (some { token := [7] }), .postTrigger, .runReady]
    (∃ early, Machine.run loginRoute.step initial (actions.take 6) = some early ∧
        early.task = .running ∧ early.stage = .answered []) ∧
      ∃ final, Machine.run loginRoute.step initial actions = some final ∧
        final.task = .posted (some { token := [7] }) ∧ final.stage = .answered [] ∧
        final.stale = true ∧ ¬ loginRoute.Sound final := by
  refine ⟨⟨_, rfl, rfl, rfl⟩, _, rfl, rfl, rfl, rfl, ?_⟩
  intro sound
  exact absurd sound.fresh nofun

end RouterDBT2

end SM.Inc
