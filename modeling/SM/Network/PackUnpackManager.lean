import Mathlib.Logic.Function.Basic
import SM.Lib.Keyed
import SM.Network.PlatformPack

/-!
# Platform pack manager

`_platPacks` of `PackUnpackManager`, which keeps the first pack of a main command.
Packs are added under their own main command, so the one which `clone` copies for a
channel has the main command of the channel (`getMain_dealers`).
-/

namespace SM.Network

open SM.Lib

/-- `map<int, shared_ptr<PlatformPackInterface>>`. `clone` copies the pack of a main command. -/
abbrev PlatPacks := Int → Option PlatformPack

/-- The value returned, and the map afterwards. -/
def addPlatformPack (platPacks : PlatPacks) (mainc : Int) (pack : PlatformPack) :
    Bool × PlatPacks :=
  if (platPacks mainc).isSome then (false, platPacks)
  else (true, Function.update platPacks mainc (some pack))

def addPlatformDealer (platPacks : PlatPacks) (pack : PlatformPack) : Bool × PlatPacks :=
  addPlatformPack platPacks pack.getMain pack

/-- `_platPacks` after the given calls of `addPlatformDealer`. -/
def dealers (packs : List PlatformPack) : PlatPacks :=
  packs.foldl (fun platPacks pack => (addPlatformDealer platPacks pack).2) fun _ => none

/-- The first packer of a main command is kept. -/
theorem addPlatformDealer_apply (platPacks : PlatPacks) (pack : PlatformPack) (mainc : Int) :
    (addPlatformDealer platPacks pack).2 mainc =
      (platPacks mainc).or (if pack.getMain = mainc then some pack else none) := by
  simp only [addPlatformDealer, addPlatformPack]
  by_cases same : pack.getMain = mainc
  · subst same
    cases present : platPacks pack.getMain <;> simp [present]
  · simp only [if_neg same, Option.or_none]
    split
    · rfl
    · exact Function.update_of_ne (Ne.symm same) ..

/-- The pack of a main command is the first one with it. -/
theorem dealers_apply (packs : List PlatformPack) (mainc : Int) :
    dealers packs mainc = packs.find? fun pack => pack.getMain = mainc := by
  have first := lookup_foldl (fun (platPacks : PlatPacks) mainc => platPacks mainc)
    (fun platPacks pack => (addPlatformDealer platPacks pack).2)
    (fun mainc pack => pack.getMain = mainc) id
  rw [dealers, first ?_ packs, Option.map_id_fun, id, Option.none_or]
  intro platPacks pack mainc
  simp only [addPlatformDealer_apply, decide_eq_true_eq, id]

/-- A packer is found under its own main command. -/
theorem getMain_dealers {packs : List PlatformPack} {mainc : Int} {pack : PlatformPack}
    (found : dealers packs mainc = some pack) : pack.getMain = mainc := by
  rw [dealers_apply] at found
  simpa using List.find?_some found

end SM.Network
