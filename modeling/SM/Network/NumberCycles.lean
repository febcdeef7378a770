import Mathlib.Data.List.Nodup
import SM.Network.ReqNumbers

/-!
# How long a request number stays fresh

The results of consecutive calls of `newReq`, from any value that `_reqNo` can come to. Each end of
a channel counts through more than half of all numbers before it gives one again: `newReqs_fresh`.
-/

namespace SM.Network

open SM.Lib

namespace ChannelMode

/-- A call of `newReq` on a channel: the number returned, and `_reqNo` afterwards. -/
def newReqCall (cmode : ChannelMode) (reqNo : UInt32) : UInt32 × UInt32 :=
  let reqNo := cmode.newReq reqNo
  let ret := reqNo
  (ret, reqNo)

/-- Consecutive calls of `newReq`: the numbers returned, and `_reqNo` afterwards. -/
def newReqs (cmode : ChannelMode) : Nat → UInt32 → List UInt32 × UInt32
  | 0, reqNo => ([], reqNo)
  | count + 1, reqNo =>
      let (ret, reqNo) := cmode.newReqCall reqNo
      let (rets, reqNo) := cmode.newReqs count reqNo
      (ret :: rets, reqNo)

/-- From a value of `_reqNo` on, numbers stay fresh for half a cycle of `uint32_t`. -/
structure Fresh (cmode : ChannelMode) (reqNo : UInt32) : Prop where
  /-- Every call returns a number. -/
  counted : ∀ count, (cmode.newReqs count reqNo).1.length = count
  distinct : (cmode.newReqs (2 ^ 31) reqNo).1.Nodup
  initiative : cmode = .initiative → ∀ count, 0xffffffff ∉ (cmode.newReqs count reqNo).1
  passive : cmode = .passive → ∀ count, ∀ no ∈ (cmode.newReqs count reqNo).1, 0x7fffffff ≤ no
  /-- The number returned last is the value of `_reqNo`. -/
  current : ∀ count, (cmode.newReqs (count + 1) reqNo).1.getLast? =
    some (cmode.newReqs (count + 1) reqNo).2
  /-- More than 2^31 calls later a number may come back. -/
  comesBack : ∀ count earlier later no, earlier < later →
    (cmode.newReqs count reqNo).1[earlier]? = some no →
    (cmode.newReqs count reqNo).1[later]? = some no → 2 ^ 31 < later - earlier

variable {cmode : ChannelMode} {no : UInt32}

/-- One more call steps the counter. -/
theorem afterReqs_succ (cmode : ChannelMode) (start : Nat) :
    cmode.newReq (cmode.afterReqs start) = cmode.afterReqs (start + 1) :=
  (Function.iterate_succ_apply' cmode.newReq start cmode.firstReqNo).symm

/-- Some calls after `start` others return the values which `_reqNo` then has. -/
theorem newReqs_afterReqs (cmode : ChannelMode) (count start : Nat) :
    cmode.newReqs count (cmode.afterReqs start) =
      ((List.range count).map fun index => cmode.afterReqs (start + index + 1),
        cmode.afterReqs (start + count)) := by
  induction count generalizing start with
  | zero => rfl
  | succ count inductionHypothesis =>
      have position (index : Nat) : start + 1 + index + 1 = start + (index + 1) + 1 := by omega
      rw [newReqs, newReqCall]
      dsimp only
      rw [afterReqs_succ, inductionHypothesis, List.range_succ_eq_map, List.map_cons, List.map_map]
      simp only [Function.comp_def, position, Nat.add_zero]
      rw [Nat.add_assoc, Nat.add_comm 1 count]

/-- The calls return what the counter shows one after another. -/
theorem getElem?_newReqs {count start index : Nat}
    (found : (cmode.newReqs count (cmode.afterReqs start)).1[index]? = some no) :
    cmode.afterReqs (start + index + 1) = no := by
  rw [newReqs_afterReqs, List.getElem?_map, Option.map_eq_some_iff] at found
  obtain ⟨position, inside, rfl⟩ := found
  obtain ⟨_, value⟩ := List.getElem?_eq_some_iff.mp inside
  rw [List.getElem_range] at value
  rw [value]

/-- The numbers of an end are those of its cycle. -/
theorem afterReqs_bounds (cmode : ChannelMode) (count : Nat) :
    cmode.firstReqNo.toNat ≤ (cmode.afterReqs count).toNat ∧
      (cmode.afterReqs count).toNat ≤ cmode.lastReqNo.toNat := by
  have ordered := cmode.firstReqNo_le_lastReqNo
  have bound : count % (cmode.lastReqNo.toNat + 1 - cmode.firstReqNo.toNat) <
      cmode.lastReqNo.toNat + 1 - cmode.firstReqNo.toNat := Nat.mod_lt _ (by omega)
  rw [toNat_afterReqs, CyclicCounter.iterate_next ordered]
  omega

/-- Every number is in the range of its end. -/
theorem mem_newReqs_bounds {count start : Nat}
    (member : no ∈ (cmode.newReqs count (cmode.afterReqs start)).1) :
    cmode.firstReqNo.toNat ≤ no.toNat ∧ no.toNat ≤ cmode.lastReqNo.toNat := by
  rw [newReqs_afterReqs, List.mem_map] at member
  obtain ⟨index, -, rfl⟩ := member
  exact cmode.afterReqs_bounds _

/-- Either cycle has more than 2^31 numbers. -/
theorem half_lt_cycle (cmode : ChannelMode) :
    2 ^ 31 < cmode.lastReqNo.toNat + 1 - cmode.firstReqNo.toNat := by
  cases cmode <;> decide

/-- A number comes again after more than half of all only. -/
theorem half_lt_of_afterReqs_eq {earlier later : Nat} (before : earlier < later)
    (same : cmode.afterReqs earlier = cmode.afterReqs later) : 2 ^ 31 < later - earlier := by
  have values := congrArg UInt32.toNat same
  rw [toNat_afterReqs, toNat_afterReqs] at values
  exact Nat.lt_of_lt_of_le cmode.half_lt_cycle
    (CyclicCounter.cycle_le_of_iterate_eq cmode.firstReqNo_le_lastReqNo before values)

/-- Consecutive numbers are distinct, also where the counter falls back. -/
theorem newReqs_nodup {count start : Nat} (few : count ≤ 2 ^ 31) :
    (cmode.newReqs count (cmode.afterReqs start)).1.Nodup := by
  rw [newReqs_afterReqs]
  refine List.Nodup.map_on ?_ List.nodup_range
  intro first firstInside second secondInside same
  rw [List.mem_range] at firstInside secondInside
  rcases Nat.lt_trichotomy first second with before | equal | behind
  · have apart := half_lt_of_afterReqs_eq (by omega) same
    omega
  · exact equal
  · have apart := half_lt_of_afterReqs_eq (by omega) same.symm
    omega

/-- From every value that `_reqNo` comes to, the numbers of a channel stay fresh. -/
theorem newReqs_fresh (cmode : ChannelMode) (count : Nat) :
    cmode.Fresh (cmode.newReqs count cmode.firstReqNo).2 := by
  have reached : (cmode.newReqs count cmode.firstReqNo).2 = cmode.afterReqs count := by
    have calls := cmode.newReqs_afterReqs count 0
    rw [Nat.zero_add] at calls
    exact congrArg Prod.snd calls
  rw [reached]
  refine ⟨?_, ?_, ?_, ?_, ?_, ?_⟩
  · intro more
    rw [newReqs_afterReqs, List.length_map, List.length_range]
  · exact newReqs_nodup (Nat.le_refl _)
  · rintro rfl more member
    have high := (mem_newReqs_bounds member).2
    exact absurd high (by decide)
  · rintro rfl more no member
    exact UInt32.le_iff_toNat_le.mpr (mem_newReqs_bounds member).1
  · intro more
    rw [newReqs_afterReqs, List.range_succ, List.map_append, List.map_singleton,
      List.getLast?_concat, Nat.add_assoc]
  · intro more earlier later no before first second
    have same := (getElem?_newReqs first).trans (getElem?_newReqs second).symm
    have apart := half_lt_of_afterReqs_eq (by omega) same
    omega

end ChannelMode

end SM.Network
