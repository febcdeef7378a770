import Mathlib.Data.List.Induction
import SM.Configs.Routers

/-!
# What `addRouterTrans` reports

The value which `addRouterTrans` returns tells whether the main command was unknown. It tells
whether the router was added as long as no further assistant command is added to a main command
which is in the table: `addRouterTrans_truthful_iff`.
-/

namespace SM.Configs

variable {RouterFunc : Type}

/-- The overload for a command of the enumeration `MainCmd`, whose values are those of `int`. -/
def getRouterTransByMainCmd (routersTrans : TransRoutersType RouterFunc) (mainc : Int32) :
    Option (TransRouterElement RouterFunc) :=
  match routersTrans with
  | none => none
  | some routers => routers mainc.toInt

/-- A call puts an entry into the table that was not there. -/
def Adds (routersTrans : TransRoutersType RouterFunc) (router : RouterTrans RouterFunc) : Prop :=
  getRouterTrans routersTrans router.mainc router.assc = none ∧
    getRouterTrans (addRouterTrans routersTrans router).2 router.mainc router.assc =
      some router.func

/-- What the calls of `addRouterTrans` return tells what they did, and the first router of a key
is found. -/
structure Truthful (routers : List (RouterTrans RouterFunc)) : Prop where
  returned : ∀ earlier router later, routers = earlier ++ router :: later →
    ((addRouterTrans (registered earlier) router).1 = true ↔ Adds (registered earlier) router)
  refused : ∀ earlier router later, routers = earlier ++ router :: later →
    (addRouterTrans (registered earlier) router).1 = false →
      (addRouterTrans (registered earlier) router).2 = registered earlier
  others : ∀ earlier router later, routers = earlier ++ router :: later →
    ∀ mainc assc, ¬ (mainc = router.mainc ∧ assc = router.assc) →
      getRouterTrans (addRouterTrans (registered earlier) router).2 mainc assc =
        getRouterTrans (registered earlier) mainc assc
  found : ∀ mainc assc, getRouterTrans (registered routers) mainc assc =
    (routers.find? fun router => router.mainc = mainc ∧ router.assc = assc).map (·.func)
  foundByMainC : ∀ mainc assc,
    ((getRouterTransByMainC (registered routers) mainc).bind fun funcs => funcs assc) =
      (routers.find? fun router => router.mainc = mainc ∧ router.assc = assc).map (·.func)
  foundByMainCmd : ∀ (mainc : Int32) assc,
    ((getRouterTransByMainCmd (registered routers) mainc).bind fun funcs => funcs assc) =
      (routers.find? fun router => router.mainc = mainc.toInt ∧ router.assc = assc).map (·.func)

/-- A main command which was given before is given with its assistant commands only. -/
def NoFurtherAss (routers : List (RouterTrans RouterFunc)) : Prop :=
  ∀ earlier router later, routers = earlier ++ router :: later →
    (∃ known ∈ earlier, known.mainc = router.mainc) →
      ∃ known ∈ earlier, known.mainc = router.mainc ∧ known.assc = router.assc

/-- True is returned exactly for the first route of a main command. -/
theorem addRouterTrans_returns (routersTrans : TransRoutersType RouterFunc)
    (router : RouterTrans RouterFunc) :
    (addRouterTrans routersTrans router).1 = true ↔
      getRouterTransByMainC routersTrans router.mainc = none := by
  cases routersTrans with
  | none => simp [addRouterTrans, getRouterTransByMainC]
  | some routers =>
      cases funcs : routers router.mainc with
      | none => simp [addRouterTrans, getRouterTransByMainC, funcs]
      | some handlers =>
          cases handler : handlers router.assc <;>
            simp [addRouterTrans, getRouterTransByMainC, funcs, handler]

/-- An entry that is there already stays, with all others. -/
theorem addRouterTrans_of_found {routersTrans : TransRoutersType RouterFunc}
    {router : RouterTrans RouterFunc} {func : RouterFunc}
    (found : getRouterTrans routersTrans router.mainc router.assc = some func) :
    addRouterTrans routersTrans router = (false, routersTrans) := by
  obtain ⟨handlers, funcs, handler⟩ := Option.bind_eq_some_iff.mp found
  cases routersTrans with
  | none => cases funcs
  | some routers =>
      have main : routers router.mainc = some handlers := funcs
      simp [addRouterTrans, main, handler]

/-- After a registration a main command is unknown exactly when it was before and is not the one
registered. -/
theorem getRouterTransByMainC_add {routersTrans : TransRoutersType RouterFunc}
    {router : RouterTrans RouterFunc} {mainc : Int} :
    getRouterTransByMainC (addRouterTrans routersTrans router).2 mainc = none ↔
      getRouterTransByMainC routersTrans mainc = none ∧ router.mainc ≠ mainc := by
  obtain ⟨routers, before⟩ : ∃ routers : Int → Option (TransRouterElement RouterFunc),
      routersTrans.getD (fun _ => none) = routers := ⟨_, rfl⟩
  have old : getRouterTransByMainC routersTrans mainc = routers mainc := by
    rw [← before]
    cases routersTrans <;> rfl
  rw [old]
  simp only [addRouterTrans, before]
  by_cases main : router.mainc = mainc
  · subst main
    cases funcs : routers router.mainc with
    | none => simp [getRouterTransByMainC]
    | some handlers =>
        cases handler : handlers router.assc <;> simp [getRouterTransByMainC, funcs, handler]
  · have other : mainc ≠ router.mainc := Ne.symm main
    cases funcs : routers router.mainc with
    | none => simp [getRouterTransByMainC, Function.update_of_ne other, main]
    | some handlers =>
        cases handler : handlers router.assc <;>
          simp [getRouterTransByMainC, Function.update_of_ne other, handler, main]

/-- The last registration comes upon the table of those before it. -/
theorem registered_concat (routers : List (RouterTrans RouterFunc))
    (router : RouterTrans RouterFunc) :
    registered (routers ++ [router]) = (addRouterTrans (registered routers) router).2 := by
  rw [registered, List.foldl_append]
  rfl

/-- The main commands in the table are those which were given. -/
theorem getRouterTransByMainC_registered {routers : List (RouterTrans RouterFunc)} {mainc : Int} :
    getRouterTransByMainC (registered routers) mainc = none ↔
      ∀ router ∈ routers, router.mainc ≠ mainc := by
  induction routers using List.reverseRecOn with
  | nil => simp [registered, getRouterTransByMainC]
  | append_singleton routers router inductionHypothesis =>
      rw [registered_concat, getRouterTransByMainC_add, inductionHypothesis]
      simp [or_imp, forall_and]

/-- A lookup finds nothing exactly when no registration has both commands. -/
theorem getRouterTrans_registered_eq_none {routers : List (RouterTrans RouterFunc)}
    {mainc assc : Int} :
    getRouterTrans (registered routers) mainc assc = none ↔
      ∀ router ∈ routers, ¬ (router.mainc = mainc ∧ router.assc = assc) := by
  simp [getRouterTrans_registered]

/-- A registration adds a route exactly when a lookup found none before. -/
theorem adds_iff {routersTrans : TransRoutersType RouterFunc} {router : RouterTrans RouterFunc} :
    Adds routersTrans router ↔ getRouterTrans routersTrans router.mainc router.assc = none := by
  constructor
  · exact fun adds => adds.1
  · intro absent
    refine ⟨absent, ?_⟩
    rw [getRouterTrans_add, absent, if_pos ⟨rfl, rfl⟩, Option.none_or]

/-- The two lookups by a main command are one. -/
theorem getRouterTransByMainCmd_eq (routersTrans : TransRoutersType RouterFunc) (mainc : Int32) :
    getRouterTransByMainCmd routersTrans mainc = getRouterTransByMainC routersTrans mainc.toInt :=
  rfl

/-- Where every result is right, no main command comes with a second assistant command. -/
theorem Truthful.noFurtherAss {routers : List (RouterTrans RouterFunc)}
    (truthful : Truthful routers) : NoFurtherAss routers := by
  rintro earlier router later split ⟨known, member, main⟩
  have reported := truthful.returned earlier router later split
  rw [addRouterTrans_returns, adds_iff, getRouterTransByMainC_registered,
    getRouterTrans_registered_eq_none] at reported
  by_contra absent
  refine reported.mpr ?_ known member main
  rintro other present ⟨sameMain, sameAss⟩
  exact absent ⟨other, present, sameMain, sameAss⟩

/-- Where false is returned, the entry is there already. -/
theorem NoFurtherAss.exists_of_refused {routers earlier later : List (RouterTrans RouterFunc)}
    {router : RouterTrans RouterFunc} (noFurther : NoFurtherAss routers)
    (split : routers = earlier ++ router :: later)
    (refused : (addRouterTrans (registered earlier) router).1 ≠ true) :
    ∃ func, getRouterTrans (registered earlier) router.mainc router.assc = some func := by
  rw [ne_eq, addRouterTrans_returns, getRouterTransByMainC_registered] at refused
  push Not at refused
  obtain ⟨known, member, same⟩ := noFurther earlier router later split refused
  rw [← Option.ne_none_iff_exists', ne_eq, getRouterTrans_registered_eq_none]
  exact fun absent => absent known member same

/-- Where no main command comes with a second assistant command, every result is right. -/
theorem NoFurtherAss.truthful {routers : List (RouterTrans RouterFunc)}
    (noFurther : NoFurtherAss routers) : Truthful routers := by
  refine ⟨?_, ?_, ?_, ?_, ?_, ?_⟩
  · intro earlier router later split
    rw [adds_iff]
    constructor
    · intro returned
      rw [addRouterTrans_returns] at returned
      rw [getRouterTrans, returned, Option.bind_none]
    · intro absent
      by_contra refused
      obtain ⟨func, found⟩ := noFurther.exists_of_refused split refused
      rw [absent] at found
      cases found
  · intro earlier router later split returned
    have refused : (addRouterTrans (registered earlier) router).1 ≠ true := by
      rw [returned]
      exact Bool.false_ne_true
    obtain ⟨func, found⟩ := noFurther.exists_of_refused split refused
    rw [addRouterTrans_of_found found]
  · intro earlier router later split mainc assc other
    have apart : ¬ (router.mainc = mainc ∧ router.assc = assc) := by
      rintro ⟨rfl, rfl⟩
      exact other ⟨rfl, rfl⟩
    rw [getRouterTrans_add, if_neg apart, Option.or_none]
  · exact getRouterTrans_registered routers
  · exact getRouterTrans_registered routers
  · intro mainc assc
    rw [getRouterTransByMainCmd_eq]
    exact getRouterTrans_registered routers mainc.toInt assc

/-- The calls tell what they did if and only if no main command gets a further assistant
command. -/
theorem addRouterTrans_truthful_iff (routers : List (RouterTrans RouterFunc)) :
    Truthful routers ↔ NoFurtherAss routers :=
  ⟨Truthful.noFurtherAss, NoFurtherAss.truthful⟩

/-- A second assistant command of a main command is added, and false is returned. -/
theorem addRouterTrans_further_ass :
    let routers : List (RouterTrans Unit) := [⟨5, 1, ()⟩, ⟨5, 2, ()⟩]
    (addRouterTrans (registered (routers.take 1)) ⟨5, 2, ()⟩).1 = false ∧
      getRouterTrans (registered (routers.take 1)) 5 2 = none ∧
      getRouterTrans (registered routers) 5 2 = some () ∧ ¬ Truthful routers := by
  refine ⟨by decide, by decide, by decide, ?_⟩
  intro truthful
  have reported := truthful.returned [⟨5, 1, ()⟩] ⟨5, 2, ()⟩ [] rfl
  have adds : Adds (registered [⟨5, 1, ()⟩]) (⟨5, 2, ()⟩ : RouterTrans Unit) :=
    ⟨by decide, by decide⟩
  exact absurd (reported.mpr adds) (by decide)

end SM.Configs
