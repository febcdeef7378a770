import SM.Lib.CyclicCounter
import SM.Network.ProcessSteps
import SM.Network.TwoEnds

/-!
# Request numbers

The numbers which `newReq` gives at the two ends of a channel. Each end counts in
a cycle of its own (`toNat_afterReqs`), and the cycles meet at two places, so
`newReq_separate_iff` says after how many calls a request of one end can have a
number which the other end waits for.
-/

namespace SM.Network

open SM.Lib

namespace ChannelMode

/-- `_reqNo` after some calls of `newReq`. -/
def afterReqs (cmode : ChannelMode) (count : Nat) : UInt32 :=
  cmode.newReq^[count] cmode.firstReqNo

/-- What the first calls of `newReq` return. -/
def reqNos (cmode : ChannelMode) (count : Nat) : List UInt32 :=
  (List.range count).map fun earlier => cmode.afterReqs (earlier + 1)

/-- The number after which `newReq` falls back to the constructor's value. -/
def lastReqNo : ChannelMode → UInt32
  | .initiative => 0xfffffffe
  | .passive => 0xffffffff

/-- Between its first and its last number `newReq` is a cyclic counter. -/
theorem toNat_newReq {cmode : ChannelMode} {reqNo : UInt32}
    (low : cmode.firstReqNo.toNat ≤ reqNo.toNat) (high : reqNo.toNat ≤ cmode.lastReqNo.toNat) :
    (cmode.newReq reqNo).toNat =
      CyclicCounter.next cmode.firstReqNo.toNat cmode.lastReqNo.toNat reqNo.toNat := by
  have half : halfMax.toNat = 0x7fffffff := rfl
  have top : (0xffffffff : UInt32).toNat = 0xffffffff := rfl
  have added : (reqNo + 1).toNat = (reqNo.toNat + 1) % 0x100000000 := by simp
  cases cmode with
  | initiative =>
      have first : (firstReqNo .initiative).toNat = 0 := rfl
      have last : (lastReqNo .initiative).toNat = 0xfffffffe := rfl
      rw [last] at high
      simp only [newReq, CyclicCounter.next, first, last, UInt32.le_iff_toNat_le, top, added]
      split <;> split <;> simp only [added, UInt32.toNat_zero] <;> omega
  | passive =>
      have first : (firstReqNo .passive).toNat = 0x7fffffff := rfl
      have last : (lastReqNo .passive).toNat = 0xffffffff := rfl
      rw [first] at low
      rw [last] at high
      simp only [newReq, CyclicCounter.next, first, last, UInt32.le_iff_toNat_le, half, added]
      split <;> split <;> simp only [added, half] <;> omega

/-- The numbers of an end are a range. -/
theorem firstReqNo_le_lastReqNo (cmode : ChannelMode) :
    cmode.firstReqNo.toNat ≤ cmode.lastReqNo.toNat := by
  cases cmode <;> decide

/-- The counter steps through the range of its end. -/
theorem toNat_afterReqs (cmode : ChannelMode) (count : Nat) :
    (cmode.afterReqs count).toNat =
      (CyclicCounter.next cmode.firstReqNo.toNat cmode.lastReqNo.toNat)^[count]
        cmode.firstReqNo.toNat := by
  have ordered := cmode.firstReqNo_le_lastReqNo
  induction count with
  | zero => rfl
  | succ count inductionHypothesis =>
      have value := inductionHypothesis
      rw [CyclicCounter.iterate_next ordered] at value
      have bound : count % (cmode.lastReqNo.toNat + 1 - cmode.firstReqNo.toNat) <
          cmode.lastReqNo.toNat + 1 - cmode.firstReqNo.toNat := Nat.mod_lt _ (by omega)
      rw [Function.iterate_succ_apply', ← inductionHypothesis, afterReqs,
        Function.iterate_succ_apply', ← afterReqs, toNat_newReq (by omega) (by omega)]

/-- A number was issued if the counter showed it after a call. -/
theorem mem_reqNos {cmode : ChannelMode} {count : Nat} {no : UInt32} :
    no ∈ cmode.reqNos count ↔ ∃ step, 0 < step ∧ step ≤ count ∧ cmode.afterReqs step = no := by
  simp only [reqNos, List.mem_map, List.mem_range]
  constructor
  · rintro ⟨earlier, inside, same⟩
    exact ⟨earlier + 1, by omega, inside, same⟩
  · rintro ⟨step, positive, inside, same⟩
    refine ⟨step - 1, by omega, ?_⟩
    rwa [Nat.sub_add_cancel positive]

/-- A number is given by the time at which the cycle of its end comes to it. -/
theorem mem_reqNos_iff {cmode : ChannelMode} {count : Nat} {no : UInt32} :
    no ∈ cmode.reqNos count ↔
      cmode.firstReqNo.toNat ≤ no.toNat ∧ no.toNat ≤ cmode.lastReqNo.toNat ∧
        CyclicCounter.arrival cmode.firstReqNo.toNat cmode.lastReqNo.toNat no.toNat ≤ count := by
  rw [mem_reqNos, ← CyclicCounter.exists_iterate_iff cmode.firstReqNo_le_lastReqNo]
  simp only [← toNat_afterReqs, UInt32.toNat_inj]

/-- The numbers which the initiative end has issued. -/
theorem mem_reqNos_initiative {count : Nat} {no : UInt32} :
    no ∈ reqNos .initiative count ↔ no.toNat ≤ 0xfffffffe ∧
      (if no.toNat = 0 then 0xffffffff else no.toNat) ≤ count := by
  rw [mem_reqNos_iff, CyclicCounter.arrival]
  have first : (firstReqNo .initiative).toNat = 0 := rfl
  have last : (lastReqNo .initiative).toNat = 0xfffffffe := rfl
  simp [first, last]

/-- The numbers which the passive end has issued. -/
theorem mem_reqNos_passive {count : Nat} {no : UInt32} :
    no ∈ reqNos .passive count ↔ 0x7fffffff ≤ no.toNat ∧
      (if no.toNat = 0x7fffffff then 0x80000001 else no.toNat - 0x7fffffff) ≤ count := by
  rw [mem_reqNos_iff, CyclicCounter.arrival]
  have first : (firstReqNo .passive).toNat = 0x7fffffff := rfl
  have last : (lastReqNo .passive).toNat = 0xffffffff := rfl
  have bound : no.toNat < 0x100000000 := no.toNat_lt
  simp only [first, last, Nat.reduceAdd, Nat.reduceSub]
  omega

/-- The cycles of the two ends meet where the initiative one comes to the half. -/
theorem reqNos_disjoint_iff (initiative passive : Nat) :
    (∀ no ∈ reqNos .initiative initiative, no ∉ reqNos .passive passive) ↔
      passive = 0 ∨ initiative < 0x7fffffff ∨
        initiative = 0x7fffffff ∧ passive ≤ 0x80000000 := by
  simp only [mem_reqNos_initiative, mem_reqNos_passive]
  constructor
  · intro disjoint
    have middle := disjoint 0x7fffffff
    have above := disjoint 0x80000000
    simp at middle above
    omega
  · rintro few no ⟨high, given⟩ ⟨low, taken⟩
    split at given <;> split at taken <;> omega

end ChannelMode

/-- The action calls `newReq` on a channel. -/
def Action.isReqrep (sock : UInt32) : Action → Bool
  | .reqrep other _ => other == sock
  | _ => false

/-- How often `newReq` is called on a channel. -/
def reqCount (sock : UInt32) (actions : List Action) : Nat :=
  actions.countP (Action.isReqrep sock)

namespace Process

variable {RouterFunc : Type} {config : ProcessConfig RouterFunc}
  {process next : Process RouterFunc} {action : Action} {sock no : UInt32}

/-! ## Numbers of a process -/

/-- Only a call on a channel steps the counter of this channel. -/
theorem reqNo_of_step (stepped : process.step config action = some next) (sock : UInt32) :
    next.reqNo sock =
      if action.isReqrep sock then process.nextReqNo config sock else process.reqNo sock := by
  have counted (other : UInt32) : (process.countReq config other).reqNo sock =
      if other == sock then process.nextReqNo config sock else process.reqNo sock := by
    simp only [countReq, beq_iff_eq, eq_comm (a := other)]
    split
    · rename_i same
      rw [same]
    · rfl
  obtain ⟨_, stepped⟩ := stepped_of_step stepped
  cases stepped with
  | reqrep prepared => exact counted _
  | reqrepCrashed refused assertions => exact counted _
  | reqrepInvalid refused assertions => exact counted _
  | _ => rfl

/-- The end of a call adds no entry. -/
theorem netRep_finishCall {index : Nat} {call : ReqCall} {ret : Option Utils.Bytes}
    (there : (process.finishCall config index call ret).router.netRepSignals sock no ≠ none) :
    process.router.netRepSignals sock no ≠ none := by
  intro absent
  apply there
  cases assertions : config.assertions with
  | false => simpa [finishCall, setCall, assertions] using absent
  | true =>
      simp only [finishCall, setCall, assertions, if_true, MessageRouter.finishReqRep,
        SignalTable.set]
      split
      · rfl
      · exact absent

/-- A call becomes pending when it is made. -/
theorem netRep_of_step (stepped : process.step config action = some next)
    (there : next.router.netRepSignals sock no ≠ none) :
    process.router.netRepSignals sock no ≠ none ∨
      action.isReqrep sock = true ∧ no = process.nextReqNo config sock := by
  obtain ⟨_, stepped⟩ := stepped_of_step stepped
  cases stepped with
  | @reqrep other req router prepared =>
      simp only [MessageRouter.prepareReqRep, Option.ite_none_right_eq_some] at prepared
      obtain ⟨absent, prepared⟩ := prepared
      cases prepared
      by_cases same : sock = other ∧ no = process.nextReqNo config other
      · obtain ⟨rfl, rfl⟩ := same
        exact .inr ⟨by simp [Action.isReqrep], rfl⟩
      · have kept := @SignalTable.set_of_ne _ process.router.netRepSignals _ _ _ _ same
          (some .waiting)
        exact .inl (kept ▸ there)
  | @recvRep other msg waiting =>
      refine .inl ?_
      by_cases same : sock = other ∧ no = msg.no
      · obtain ⟨rfl, rfl⟩ := same
        simp [waiting]
      · have kept := @SignalTable.set_of_ne _ process.router.netRepSignals _ _ _ _ same
          (some (.sent msg))
        exact kept ▸ there
  | wakeSendFailed found stage signalled => exact .inl (netRep_finishCall there)
  | wakeRep found stage signalled => exact .inl (netRep_finishCall there)
  | prepareReply found stage prepared =>
      simp only [MessageRouter.prepareAppRep, Option.ite_none_right_eq_some] at prepared
      obtain ⟨absent, prepared⟩ := prepared
      cases prepared
      exact .inl there
  | @dispatchClosed packet dataio turn idle front opened done =>
      rcases closePacket_router config { process with dataio := dataio } packet turn with
        same | ⟨rep, waiting, signalled⟩
      · exact .inl (same ▸ there)
      · rw [signalled] at there
        exact .inl there
  | @handlerDone packet plat func strreq outcome calling =>
      rcases closePacket_router config process packet (DispatcherConfig.closeCall plat outcome) with
        same | ⟨rep, waiting, signalled⟩
      · exact .inl (same ▸ there)
      · rw [signalled] at there
        exact .inl there
  | _ => exact .inl there

/-- The counter of a channel stands after some calls, and only their numbers are pending. -/
structure Issued (config : ProcessConfig RouterFunc) (sock : UInt32) (count : Nat)
    (process : Process RouterFunc) : Prop where
  reqNo : process.reqNo sock = (config.cmode sock).afterReqs count
  pending : ∀ no, process.router.netRepSignals sock no ≠ none →
    no ∈ (config.cmode sock).reqNos count

/-- Before the first call no number was issued. -/
theorem Issued.start (config : ProcessConfig RouterFunc) (sock : UInt32) :
    Issued config sock 0 (Process.start config) where
  reqNo := rfl
  pending _ there := absurd rfl there

/-- The next number is the one after those issued. -/
theorem Issued.nextReqNo {count : Nat} (issued : Issued config sock count process) :
    process.nextReqNo config sock = (config.cmode sock).afterReqs (count + 1) := by
  rw [Process.nextReqNo, issued.reqNo, ChannelMode.afterReqs, ChannelMode.afterReqs,
    Function.iterate_succ_apply']

/-- Every step counts the calls on its channel. -/
theorem Issued.step {count : Nat} (issued : Issued config sock count process)
    (stepped : process.step config action = some next) :
    Issued config sock (count + if action.isReqrep sock then 1 else 0) next := by
  have counter := reqNo_of_step stepped sock
  constructor
  · rw [counter, issued.nextReqNo, issued.reqNo]
    cases action.isReqrep sock <;> rfl
  · intro no there
    rw [ChannelMode.mem_reqNos]
    rcases netRep_of_step stepped there with before | ⟨called, rfl⟩
    · obtain ⟨time, positive, inside, same⟩ := ChannelMode.mem_reqNos.mp (issued.pending no before)
      exact ⟨time, positive, Nat.le_add_right_of_le inside, same⟩
    · exact ⟨count + 1, by omega, by simp [called], issued.nextReqNo.symm⟩

/-- Every run counts the calls on its channel. -/
theorem Issued.run {count : Nat} {actions : List Action}
    (issued : Issued config sock count process)
    (ran : Machine.run (Process.step config) process actions = some next) :
    Issued config sock (count + reqCount sock actions) next := by
  induction actions generalizing process count with
  | nil =>
      cases ran
      exact issued
  | cons action actions inductionHypothesis =>
      obtain ⟨middle, stepped, ran⟩ := Machine.run_cons.mp ran
      have rest := inductionHypothesis (issued.step stepped) ran
      rw [reqCount, List.countP_cons, Nat.add_comm (List.countP ..), ← Nat.add_assoc]
      exact rest

end Process

/-- After so many calls at each end no number was given by both, so a request of the other end has
no number which is pending. -/
structure Separate (RouterFunc : Type) (calls : ChannelMode → Nat) : Prop where
  disjoint : ∀ no ∈ ChannelMode.reqNos .initiative (calls .initiative),
    no ∉ ChannelMode.reqNos .passive (calls .passive)
  reply : ∀ (mode : ChannelMode) (config : ProcessConfig RouterFunc) (sock : UInt32)
    (actions : List Action) (process : Process RouterFunc), config.cmode sock = mode →
    Machine.run (Process.step config) (Process.start config) actions = some process →
    reqCount sock actions = calls mode →
    ∀ no, process.router.netRepSignals sock no ≠ none → no ∉ mode.peer.reqNos (calls mode.peer)

/-- The two ends give different numbers if and only if one has not come to the half of the other. -/
theorem newReq_separate_iff (RouterFunc : Type) (calls : ChannelMode → Nat) :
    Separate RouterFunc calls ↔
      calls .passive = 0 ∨ calls .initiative < 0x7fffffff ∨
        calls .initiative = 0x7fffffff ∧ calls .passive ≤ 0x80000000 := by
  rw [← ChannelMode.reqNos_disjoint_iff]
  constructor
  · intro separate
    exact separate.disjoint
  · intro disjoint
    refine ⟨disjoint, ?_⟩
    rintro mode config sock actions process mine ran counted no pending
    have issued := ((Process.Issued.start config sock).run ran).pending no pending
    rw [Nat.zero_add, counted, mine] at issued
    cases mode with
    | initiative => exact disjoint no issued
    | passive =>
        intro given
        exact disjoint no given issued

/-- The 2^31st request of the initiative end has the number of the first passive one. -/
theorem newReq_meets :
    ¬ Separate Unit (fun mode => match mode with | .initiative => 0x80000000 | .passive => 1) := by
  intro separate
  have initiative : (0x80000000 : UInt32) ∈ ChannelMode.reqNos .initiative 0x80000000 := by
    rw [ChannelMode.mem_reqNos_initiative]
    decide
  have passive : (0x80000000 : UInt32) ∈ ChannelMode.reqNos .passive 1 := by
    rw [ChannelMode.mem_reqNos_passive]
    decide
  exact separate.disjoint _ initiative passive

end SM.Network
