import Mathlib.Logic.Function.Basic
import SM.Lib.Keyed

/-!
# Routers

The table of handlers for transported requests, by main command and then by
assistant command. `getRouterTrans_registered` says which handler is found after
any calls of `addRouterTrans`.
-/

namespace SM.Configs

open SM.Lib

/-- `TransRouterElement`: the handlers of one main command. -/
abbrev TransRouterElement (RouterFunc : Type) := Int → Option RouterFunc

/-- `_routersTrans`, a null pointer until the first router is added. -/
abbrev TransRoutersType (RouterFunc : Type) := Option (Int → Option (TransRouterElement RouterFunc))

/-- A null pointer is returned for an unknown main command. -/
def getRouterTransByMainC {RouterFunc : Type} (routersTrans : TransRoutersType RouterFunc)
    (mainc : Int) : Option (TransRouterElement RouterFunc) :=
  match routersTrans with
  | none => none
  | some routers => routers mainc

def getRouterTrans {RouterFunc : Type} (routersTrans : TransRoutersType RouterFunc)
    (mainc assc : Int) : Option RouterFunc :=
  (getRouterTransByMainC routersTrans mainc).bind fun funcs => funcs assc

/-- The arguments of `addRouterTrans`. -/
structure RouterTrans (RouterFunc : Type) where
  mainc : Int
  assc : Int
  func : RouterFunc

variable {RouterFunc : Type}

/-- `addRouterTrans`: the value returned, and the table afterwards. A second handler of a main
command is added, but false is returned. -/
def addRouterTrans (routersTrans : TransRoutersType RouterFunc) (router : RouterTrans RouterFunc) :
    Bool × TransRoutersType RouterFunc :=
  let routers := routersTrans.getD fun _ => none
  match routers router.mainc with
  | some funcs =>
      if (funcs router.assc).isSome then (false, some routers)
      else
        (false, some (Function.update routers router.mainc
          (some (Function.update funcs router.assc (some router.func)))))
  | none =>
      (true, some (Function.update routers router.mainc
        (some (Function.update (fun _ => none) router.assc (some router.func)))))

/-- `_routersTrans` after the given calls. -/
def registered (routers : List (RouterTrans RouterFunc)) : TransRoutersType RouterFunc :=
  routers.foldl (fun routersTrans router => (addRouterTrans routersTrans router).2) none

/-- The first handler of a key stays. -/
theorem getRouterTrans_add (routersTrans : TransRoutersType RouterFunc)
    (router : RouterTrans RouterFunc) (mainc assc : Int) :
    getRouterTrans (addRouterTrans routersTrans router).2 mainc assc =
      (getRouterTrans routersTrans mainc assc).or
        (if router.mainc = mainc ∧ router.assc = assc then some router.func else none) := by
  obtain ⟨routers, before⟩ : ∃ routers : Int → Option (TransRouterElement RouterFunc),
      routersTrans.getD (fun _ => none) = routers := ⟨_, rfl⟩
  have old : getRouterTrans routersTrans mainc assc =
      (routers mainc).bind fun funcs => funcs assc := by
    rw [← before]
    cases routersTrans <;> rfl
  rw [old]
  simp only [addRouterTrans, before]
  by_cases main : router.mainc = mainc
  · subst main
    cases found : routers router.mainc with
    | none =>
        by_cases ass : router.assc = assc
        · simp [getRouterTrans, getRouterTransByMainC, ass]
        · simp [getRouterTrans, getRouterTransByMainC, ass, Function.update_of_ne (Ne.symm ass)]
    | some funcs =>
        by_cases ass : router.assc = assc
        · subst ass
          cases handler : funcs router.assc <;>
            simp [getRouterTrans, getRouterTransByMainC, found, handler]
        · simp only [ass, and_false, if_false, Option.or_none, Option.bind_some]
          split
          · simp [getRouterTrans, getRouterTransByMainC, found]
          · simp [getRouterTrans, getRouterTransByMainC, Function.update_of_ne (Ne.symm ass)]
  · have other : mainc ≠ router.mainc := Ne.symm main
    simp only [main, false_and, if_false, Option.or_none]
    split
    · split <;> simp [getRouterTrans, getRouterTransByMainC, Function.update_of_ne other]
    · simp [getRouterTrans, getRouterTransByMainC, Function.update_of_ne other]

/-- The handler of a key is the first one registered for it. -/
theorem getRouterTrans_registered (routers : List (RouterTrans RouterFunc)) (mainc assc : Int) :
    getRouterTrans (registered routers) mainc assc =
      (routers.find? fun router => router.mainc = mainc ∧ router.assc = assc).map (·.func) := by
  have first := lookup_foldl
    (fun (routersTrans : TransRoutersType RouterFunc) (key : Int × Int) =>
      getRouterTrans routersTrans key.1 key.2)
    (fun routersTrans router => (addRouterTrans routersTrans router).2)
    (fun key router => router.mainc = key.1 ∧ router.assc = key.2) (·.func)
  apply first _ routers none (mainc, assc)
  intro routersTrans router key
  simp only [getRouterTrans_add, decide_eq_true_eq]

/-- A handler which is found was registered for its main command. -/
theorem mem_of_getRouterTrans {routers : List (RouterTrans RouterFunc)} {mainc assc : Int}
    {func : RouterFunc} (found : getRouterTrans (registered routers) mainc assc = some func) :
    ⟨mainc, assc, func⟩ ∈ routers := by
  rw [getRouterTrans_registered, Option.map_eq_some_iff] at found
  obtain ⟨router, first, rfl⟩ := found
  have key := List.find?_some first
  rw [decide_eq_true_eq] at key
  obtain ⟨rfl, rfl⟩ := key
  exact List.mem_of_find?_eq_some first

end SM.Configs
