import Mathlib.Logic.Function.Basic
import SM.Lib.Machine
import SM.Network.PackDealerMainSub

/-!
# Workers of an nng reply node

A worker of `AsynRep` waits for the callback of its aio. After a receive the callback spawns a
`messageTask`, after a send it receives again. The task deals with the message and starts the
send of the response. Where that fails nothing is outstanding, and the worker gets no callback
any more.
-/

namespace SM.Network

open SM.Configs SM.Lib SM.Utils

/-- `AsyncBase::State`. -/
inductive WorkState where
  | init
  | recv
  | wait
  | send
deriving DecidableEq

/-- `AsyncBase::work`. -/
structure Work where
  state : WorkState
  dealer : PackDealerMainSub
  /-- The receives and sends whose callback is to come. -/
  outstanding : Nat
  /-- The messages of the tasks which are spawned. -/
  spawned : List Bytes := []
  /-- The messages of the tasks which wait for their handler. -/
  dealing : List Bytes := []
deriving DecidableEq

namespace Work

def tasks (work : Work) : Nat := work.spawned.length + work.dealing.length

/-- `_asynRepCallback`, with the message of the aio, which is null when the receive failed. There
is no result when the null pointer is used. -/
def asynRepCallback (work : Work) (msg : Option Bytes) : Option Work :=
  let work := { work with outstanding := work.outstanding - 1 }
  match work.state with
  | .recv => msg.map fun msg => { work with spawned := work.spawned ++ [msg] }
  | .send => some { work with state := .recv, outstanding := work.outstanding + 1 }
  | .init | .wait => some work

/-- `senddata`, with the results of `nng_msg_alloc` and `nng_msg_append`. -/
def senddata (work : Work) (alloc append : Int32) : Work :=
  if alloc ≠ 0 then work
  else if append ≠ 0 then work
  else { work with state := .send, outstanding := work.outstanding + 1 }

/-- One receive or send is outstanding, or one task runs. -/
def Serving (work : Work) : Prop :=
  (work.outstanding = 1 ∧ work.tasks = 0) ∨ (work.outstanding = 0 ∧ work.tasks = 1)

/-- The callback to come finds a state in which it goes on. -/
def Fits (work : Work) : Prop :=
  work.outstanding ≠ 0 → work.state = .recv ∨ work.state = .send

variable {work after : Work} {msg : Bytes} {rest : List Bytes}

/-- A work whose receive is out has no message in hand. -/
theorem Serving.waiting (serving : work.Serving) (waiting : work.outstanding ≠ 0) :
    work.outstanding = 1 ∧ work.spawned = [] ∧ work.dealing = [] := by
  obtain ⟨one, idle⟩ := serving.resolve_right fun running => waiting running.1
  obtain ⟨noSpawned, noDealing⟩ := Nat.add_eq_zero_iff.mp idle
  exact ⟨one, List.eq_nil_of_length_eq_zero noSpawned, List.eq_nil_of_length_eq_zero noDealing⟩

/-- A work with a spawned task has no other message in hand. -/
theorem Serving.spawned (serving : work.Serving) (spawned : work.spawned = msg :: rest) :
    work.outstanding = 0 ∧ rest = [] ∧ work.dealing = [] := by
  have tasks : work.tasks = rest.length + 1 + work.dealing.length := by
    rw [Work.tasks, spawned, List.length_cons]
  obtain ⟨none, one⟩ := serving.resolve_left fun idle => by omega
  refine ⟨none, List.eq_nil_of_length_eq_zero ?_, List.eq_nil_of_length_eq_zero ?_⟩
  · omega
  · omega

/-- A work which deals with a message has no other in hand. -/
theorem Serving.dealing (serving : work.Serving) (dealing : work.dealing = msg :: rest) :
    work.outstanding = 0 ∧ rest = [] ∧ work.spawned = [] := by
  have tasks : work.tasks = work.spawned.length + (rest.length + 1) := by
    rw [Work.tasks, dealing, List.length_cons]
  obtain ⟨none, one⟩ := serving.resolve_left fun idle => by omega
  refine ⟨none, List.eq_nil_of_length_eq_zero ?_, List.eq_nil_of_length_eq_zero ?_⟩
  · omega
  · omega

/-- Only a failed receive has no result. -/
theorem asynRepCallback_eq_none {msg : Option Bytes} :
    work.asynRepCallback msg = none ↔ work.state = .recv ∧ msg = none := by
  unfold asynRepCallback
  cases state : work.state <;> simp

/-- A callback spawns one task, or starts one receive. -/
theorem Serving.asynRepCallback (serving : work.Serving) (fits : work.Fits)
    (waiting : work.outstanding ≠ 0) {msg : Option Bytes}
    (called : work.asynRepCallback msg = some after) : after.Serving ∧ after.Fits := by
  obtain ⟨one, noSpawned, noDealing⟩ := serving.waiting waiting
  unfold Work.asynRepCallback at called
  rcases fits waiting with state | state
  · rw [state] at called
    obtain ⟨msg, _, rfl⟩ := Option.map_eq_some_iff.mp called
    refine ⟨.inr ⟨?_, ?_⟩, fun _ => .inl rfl⟩
    · exact Nat.sub_eq_zero_of_le (Nat.le_of_eq one)
    · simp [tasks, noSpawned, noDealing]
  · rw [state] at called
    cases called
    refine ⟨.inl ⟨?_, ?_⟩, fun _ => .inl rfl⟩
    · rw [one]
    · simp [tasks, noSpawned, noDealing]

/-- A message is handed from the callback to its dealer. -/
theorem Serving.messageTask (serving : work.Serving) (spawned : work.spawned = msg :: rest) :
    { work with
      spawned := rest
      dealing := work.dealing ++ [msg]
      state := .wait }.Serving ∧
      { work with
        spawned := rest
        dealing := work.dealing ++ [msg]
        state := .wait }.Fits := by
  obtain ⟨none, noMore, noDealing⟩ := serving.spawned spawned
  refine ⟨.inr ⟨none, ?_⟩, fun waiting => absurd none waiting⟩
  simp [tasks, noMore, noDealing]

/-- A work serves on after its reply exactly when the reply was sent. -/
theorem Serving.senddata (serving : work.Serving) (dealing : work.dealing = msg :: rest)
    (dealer : PackDealerMainSub) (alloc append : Int32) :
    (({ work with dealer, dealing := rest }.senddata alloc append).Serving ↔
        alloc = 0 ∧ append = 0) ∧
      ({ work with dealer, dealing := rest }.senddata alloc append).Fits := by
  obtain ⟨none, noMore, noSpawned⟩ := serving.dealing dealing
  have lost : ¬ { work with dealer, dealing := rest }.Serving := by
    simp [Serving, tasks, none, noMore, noSpawned]
  unfold Work.senddata
  by_cases allocated : alloc = 0
  · by_cases appended : append = 0
    · rw [if_neg (not_not_intro allocated), if_neg (not_not_intro appended)]
      refine ⟨iff_of_true (.inl ⟨?_, ?_⟩) ⟨allocated, appended⟩, fun _ => .inr rfl⟩
      · rw [none]
      · simp [tasks, noMore, noSpawned]
    · rw [if_neg (not_not_intro allocated), if_pos appended]
      exact ⟨iff_of_false lost fun both => appended both.2, fun waiting => absurd none waiting⟩
  · rw [if_pos allocated]
    exact ⟨iff_of_false lost fun both => allocated both.1, fun waiting => absurd none waiting⟩

end Work

/-- The workers, and whether a null pointer was used or an assertion failed. -/
structure AsynRep where
  cons : Nat → Work
  crashed : Bool

namespace AsynRep

inductive Action where
  | callback (msg : Option Bytes)
  /-- `messageTask` up to its handler. -/
  | messageTask
  /-- `messageTask` from the end of its handler. -/
  | senddata (handler : HandlerEnd) (alloc append : Int32)
deriving DecidableEq

/-- Every worker has its first receive outstanding. -/
def init (dealer : PackDealerMainSub) : AsynRep := ⟨fun _ => ⟨.recv, dealer, 1, [], []⟩, false⟩

def put (rep : AsynRep) (index : Nat) (work : Work) : AsynRep :=
  { rep with cons := Function.update rep.cons index work }

def step {RouterFunc : Type} (assertions : Bool) (routers : TransRoutersType RouterFunc)
    (rep : AsynRep) (label : Nat × Action) : Option AsynRep :=
  let work := rep.cons label.1
  if rep.crashed then none
  else match label.2 with
  | .callback msg =>
      if work.outstanding = 0 then none
      else match work.asynRepCallback msg with
      | none => some { rep with crashed := true }
      | some work => some (rep.put label.1 work)
  | .messageTask =>
      match work.spawned with
      | [] => none
      | msg :: spawned => some (rep.put label.1
          { work with spawned, dealing := work.dealing ++ [msg], state := .wait })
  | .senddata handler alloc append =>
      match work.dealing with
      | [] => none
      | msg :: dealing =>
          match work.dealer.dealmsg assertions routers msg handler with
          | (.packed _, dealer) =>
              some (rep.put label.1 ({ work with dealer, dealing }.senddata alloc append))
          | _ => some { rep with crashed := true }

variable {RouterFunc : Type} {assertions : Bool} {routers : TransRoutersType RouterFunc}
  {rep next : AsynRep} {label : Nat × Action} {work after : Work} {index : Nat}

/-- No worker is lost. -/
structure Serving (rep : AsynRep) : Prop where
  alive : rep.crashed = false
  works : ∀ index, (rep.cons index).Serving

/-- A receive succeeds, and a task that goes on has a routed message, a response and a message to
send it in. -/
def Admitted (assertions : Bool) (routers : TransRoutersType RouterFunc) (rep : AsynRep)
    (label : Nat × Action) : Prop :=
  let work := rep.cons label.1
  match label.2 with
  | .callback msg => work.state = .recv → msg ≠ none
  | .messageTask => True
  | .senddata handler alloc append => ∀ msg ∈ work.dealing.head?,
      PackDealerMainSub.Routed assertions routers work.dealer.mainc msg ∧
        (∃ rep, handler = .returned rep ∧ rep ≠ []) ∧ alloc = 0 ∧ append = 0

/-- The work which was put is there. -/
theorem cons_put_self (rep : AsynRep) (index : Nat) (work : Work) :
    (rep.put index work).cons index = work := Function.update_self ..

/-- The other works stay. -/
theorem cons_put_of_ne {other : Nat} (different : other ≠ index) :
    (rep.put index work).cons other = rep.cons other := Function.update_of_ne different ..

/-- What holds of every other work holds of all exactly when it does of the one put there. -/
theorem forall_put {property : Work → Prop} (elsewhere : ∀ other, property (rep.cons other)) :
    (∀ other, property ((rep.put index work).cons other)) ↔ property work := by
  constructor
  · intro every
    exact cons_put_self rep index work ▸ every index
  · intro here other
    by_cases same : other = index
    · rw [same, cons_put_self]
      exact here
    · rw [cons_put_of_ne same]
      exact elsewhere other

/-- Where all works serve, they do so afterwards exactly when the one put there does. -/
theorem serving_put (serving : rep.Serving) :
    (rep.put index work).Serving ↔ work.Serving := by
  constructor
  · intro after
    exact (forall_put serving.works).mp after.works
  · intro here
    exact ⟨serving.alive, (forall_put serving.works).mpr here⟩

/-- After a crash nothing serves. -/
theorem not_serving_crashed : ¬ { rep with crashed := true }.Serving :=
  fun serving => Bool.noConfusion serving.alive

/-- What a step makes of workers of which none is lost. -/
theorem serving_step (fits : ∀ index, (rep.cons index).Fits) (serving : rep.Serving)
    (stepped : rep.step assertions routers label = some next) :
    (∀ index, (next.cons index).Fits) ∧
      (next.Serving ↔ Admitted assertions routers rep label) := by
  obtain ⟨index, action⟩ := label
  have here := serving.works index
  rw [step, if_neg (Bool.not_eq_true _ ▸ serving.alive)] at stepped
  cases action with
  | callback msg =>
      dsimp only at stepped
      obtain ⟨waiting, stepped⟩ := Option.ite_none_left_eq_some.mp stepped
      split at stepped
      · next failed =>
          cases stepped
          obtain ⟨state, null⟩ := Work.asynRepCallback_eq_none.mp failed
          exact ⟨fits, iff_of_false not_serving_crashed fun admitted => admitted state null⟩
      · next after called =>
          cases stepped
          obtain ⟨served, fitting⟩ := here.asynRepCallback (fits index) waiting called
          refine ⟨(forall_put fits).mpr fitting, iff_of_true ((serving_put serving).mpr served) ?_⟩
          rintro state rfl
          exact nomatch (Work.asynRepCallback_eq_none.mpr ⟨state, rfl⟩).symm.trans called
  | messageTask =>
      dsimp only at stepped
      split at stepped
      · cases stepped
      · next msg rest spawned =>
          cases stepped
          obtain ⟨served, fitting⟩ := here.messageTask spawned
          exact ⟨(forall_put fits).mpr fitting,
            iff_of_true ((serving_put serving).mpr served) trivial⟩
  | senddata handler alloc append =>
      dsimp only at stepped
      split at stepped
      · cases stepped
      · next msg rest dealing =>
          have packed := @PackDealerMainSub.dealmsg_packed_iff assertions
            (rep.cons index).dealer msg RouterFunc routers handler
          have same : Admitted assertions routers rep (index, .senddata handler alloc append) ↔
              (∃ sent, ((rep.cons index).dealer.dealmsg assertions routers msg handler).1 =
                .packed sent) ∧ alloc = 0 ∧ append = 0 := by
            rw [packed, and_assoc]
            simp [Admitted, dealing]
          rw [same]
          split at stepped
          · next sent dealer dealt =>
              cases stepped
              obtain ⟨served, fitting⟩ := here.senddata dealing dealer alloc append
              refine ⟨(forall_put fits).mpr fitting, (serving_put serving).trans (served.trans ?_)⟩
              exact (and_iff_right ⟨sent, congrArg Prod.fst dealt⟩).symm
          · next unsent =>
              cases stepped
              refine ⟨fits, iff_of_false not_serving_crashed ?_⟩
              rintro ⟨⟨sent, dealt⟩, _⟩
              exact unsent sent _ (Prod.ext dealt rfl)

/-- No worker is lost in a run if and only if every receive succeeds, and every message is routed
to a handler that returns a response which can be put into a message. -/
theorem serving_throughout_iff {RouterFunc : Type} (assertions : Bool)
    (routers : TransRoutersType RouterFunc) (dealer : PackDealerMainSub)
    (labels : List (Nat × Action)) (final : AsynRep)
    (ran : Machine.run (step assertions routers) (init dealer) labels = some final) :
    Machine.Throughout (step assertions routers) Serving (init dealer) labels ↔
      Machine.Every (step assertions routers) (Admitted assertions routers) (init dealer)
        labels := by
  refine Machine.throughout_iff_every (fun rep => ∀ index, (rep.cons index).Fits) Serving
    (Admitted assertions routers) (fun fits serving stepped =>
      (serving_step fits serving stepped).1) (fun fits serving stepped =>
      (serving_step fits serving stepped).2) ?_ ?_ ran
  · exact fun _ _ => .inl rfl
  · exact ⟨rfl, fun _ => .inl ⟨rfl, rfl⟩⟩

/-- One request and its reply. -/
theorem serving_throughout_iff_request :
    Machine.Throughout (step true (registered [⟨6, 1, ()⟩])) Serving
        (init { mainc := 6, assc := 0 })
        [(0, .callback (some (packmaincmd3Seq 5 6 1 [] [65]))), (0, .messageTask),
          (0, .senddata (.returned [66]) 0 0), (0, .callback none)] ↔
      Machine.Every (step true (registered [⟨6, 1, ()⟩]))
        (Admitted true (registered [⟨6, 1, ()⟩])) (init { mainc := 6, assc := 0 })
        [(0, .callback (some (packmaincmd3Seq 5 6 1 [] [65]))), (0, .messageTask),
          (0, .senddata (.returned [66]) 0 0), (0, .callback none)] :=
  serving_throughout_iff true _ _ _ _ rfl

/-- A failed allocation leaves a worker with nothing outstanding; an empty response and a message
without a handler are used through a null pointer. -/
theorem serving_fails :
    (∃ final, Machine.run (step false (registered [⟨6, 1, ()⟩])) (init { mainc := 6, assc := 0 })
        [(0, .callback (some (packmaincmd3Seq 5 6 1 [] [65]))), (0, .messageTask),
          (0, .senddata (.returned [66]) 2 0)] = some final ∧
      (final.cons 0).outstanding = 0 ∧ (final.cons 0).tasks = 0) ∧
    (∃ final, Machine.run (step false (registered [⟨6, 1, ()⟩])) (init { mainc := 6, assc := 0 })
        [(0, .callback (some (packmaincmd3Seq 5 6 1 [] [65]))), (0, .messageTask),
          (0, .senddata (.returned []) 0 0)] = some final ∧ final.crashed = true) ∧
    ∃ final, Machine.run (step false (registered [⟨6, 1, ()⟩])) (init { mainc := 6, assc := 0 })
        [(0, .callback (some (packmaincmd3Seq 5 6 9 [] [65]))), (0, .messageTask),
          (0, .senddata (.returned [66]) 0 0)] = some final ∧ final.crashed = true :=
  ⟨⟨_, rfl, rfl, rfl⟩, ⟨_, rfl, rfl⟩, ⟨_, rfl, rfl⟩⟩

end AsynRep

end SM.Network
