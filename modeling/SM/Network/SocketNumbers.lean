import Mathlib.Data.List.Nodup
import SM.Network.LocalNetManager

/-!
# Socket numbers

What the counters and the maps of `LocalNetManager` hold after any creating
calls: a number counts the channels of its counter (`Numbered`), and a map leads
to the first channel kept under a number (`Indexed`). `socketNumbers_nodup_iff`
and `sendPack_sentOnce_iff` follow: when numbers are distinct, and when every
channel can be sent to.
-/

namespace SM.Network
namespace LocalNetManager

/-- The channel is numbered by `_Index` if and only if the given one is. -/
def SameCounter (kind : ChannelKind) (transport : Transport) : Bool :=
  decide (transport.kind = .fullDuplex) == decide (kind = .fullDuplex)

/-- How many channels were numbered by the counter of a kind. -/
def countOf (transports : List Transport) (kind : ChannelKind) : Nat :=
  transports.countP (SameCounter kind)

/-- The counters count channels, and a channel has the value its counter had. -/
structure Numbered (manager : LocalNetManager) : Prop where
  index : manager.index = UInt32.ofNat (countOf manager.transports .fullDuplex)
  sockNo : manager.sockNo = UInt32.ofNat (countOf manager.transports .tcp)
  given : ∀ position transport, manager.transports[position]? = some transport →
    transport.sockNo =
      UInt32.ofNat (countOf (manager.transports.take position) transport.kind + 1)

/-- Each map leads to the first channel of its kind kept under a number. -/
def Indexed (manager : LocalNetManager) : Prop :=
  ∀ kind no, manager.table kind no = manager.transports.idxOf? ⟨kind, no, true⟩

/-- One more end counts for its own counter. -/
theorem countOf_append (transports : List Transport) (transport : Transport) (kind : ChannelKind) :
    countOf (transports ++ [transport]) kind =
      countOf transports kind + if SameCounter kind transport then 1 else 0 := by
  simp [countOf, List.countP_append, List.countP_cons]

/-- Before the first end both counters are as they should be. -/
theorem new_numbered : Numbered new where
  index := rfl
  sockNo := rfl
  given position transport found := by simp [new] at found

variable {kind : ChannelKind} {kept : Bool} {manager next : LocalNetManager}

/-- TCP ends, requests and replies count together. -/
theorem countOf_eq (transports : List Transport) (kind : ChannelKind) :
    countOf transports kind =
      countOf transports (if kind = .fullDuplex then .fullDuplex else .tcp) := by
  cases kind <;> rfl

/-- The next number is the count of the ends so far, and one. -/
theorem Numbered.nextNo (numbered : Numbered manager) (kind : ChannelKind) :
    manager.nextNo kind = UInt32.ofNat (countOf manager.transports kind + 1) := by
  rw [countOf_eq]
  cases kind <;> simp [LocalNetManager.nextNo, numbered.index, numbered.sockNo]

/-- Every construction keeps the counters. -/
theorem Numbered.construct (numbered : Numbered manager)
    (constructs : Constructs kind kept manager next) : Numbered next := by
  constructor
  · rw [constructs.index, constructs.transports, countOf_append, numbered.index]
    cases kind <;> simp [SameCounter]
  · rw [constructs.sockNo, constructs.transports, countOf_append, numbered.sockNo]
    cases kind <;> simp [SameCounter]
  · intro position transport found
    rw [constructs.transports] at found ⊢
    by_cases earlier : position < manager.transports.length
    · rw [List.getElem?_append_left earlier] at found
      rw [List.take_append_of_le_length (by omega)]
      exact numbered.given position transport found
    · have last : position = manager.transports.length := by
        have bound := (List.getElem?_eq_some_iff.mp found).1
        simp only [List.length_append, List.length_singleton] at bound
        omega
      subst last
      simp only [List.getElem?_concat_length, Option.some.injEq] at found
      subst found
      rw [List.take_left, numbered.nextNo]

/-- An end which is added is found behind the others. -/
theorem idxOf?_concat (transports : List Transport) (transport sought : Transport) :
    (transports ++ [transport]).idxOf? sought =
      (transports.idxOf? sought).or
        (if transport = sought then some transports.length else none) := by
  simp [List.idxOf?, List.findIdx?_append, List.findIdx?_cons]

/-- Every construction keeps the tables. -/
theorem Indexed.construct (indexed : Indexed manager)
    (constructs : Constructs kind kept manager next) : Indexed next := by
  intro other no
  rw [constructs.table, constructs.transports, idxOf?_concat, ← indexed other no]
  split
  · rename_i same
    obtain ⟨rfl, rfl⟩ := same
    simp [insertNew_apply]
  · rename_i different
    have other : ¬ (⟨kind, manager.nextNo kind, kept⟩ : Transport) = ⟨other, no, true⟩ := by
      intro equal
      injection equal with kinds _ kepts
      exact different ⟨kepts, kinds.symm⟩
    simp [other]

/-- After any calls the counters are as they should be. -/
theorem numbered_after (calls : List CreateCall) : Numbered (after calls) :=
  (after_constructs calls).preserves (fun first numbered => numbered.construct first) new_numbered

/-- After any calls the tables have every end under its number which was first with it. -/
theorem indexed_after (calls : List CreateCall) : Indexed (after calls) := by
  refine (after_constructs calls).preserves (fun first indexed => indexed.construct first) ?_
  intro kind no
  cases kind <;> rfl

/-- The channels after the calls are the constructed ones. -/
theorem transports_after (calls : List CreateCall) :
    (after calls).transports.map (fun transport => (transport.kind, transport.kept)) =
      calls.flatMap CreateCall.constructions := by
  have general {constructions : List (ChannelKind × Bool)} {manager next : LocalNetManager}
      (constructs : ConstructsAll constructions manager next) :
      next.transports.map (fun transport => (transport.kind, transport.kept)) =
        manager.transports.map (fun transport => (transport.kind, transport.kept)) ++
          constructions := by
    induction constructs with
    | nil => simp
    | cons first _ inductionHypothesis => simp [inductionHypothesis, first.transports]
  exact general (after_constructs calls)

/-! ## Distinct numbers -/

/-- The call numbers at least one channel by `newSockNo`. -/
def usesSockNo : CreateCall → Bool
  | .createPair => false
  | .createTcpChannel => true
  | .createRep cur opened outcomes _ => opened && decide (0 < cur) && !outcomes.isEmpty
  | .createReq => true

/-- The ends are those which the calls construct. -/
theorem mem_transports_iff (calls : List CreateCall) (construction : ChannelKind × Bool) :
    (∃ transport ∈ (after calls).transports, (transport.kind, transport.kept) = construction) ↔
      ∃ call ∈ calls, construction ∈ call.constructions := by
  rw [← List.mem_flatMap, ← transports_after, List.mem_map]

/-- A context is an end of a reply. -/
theorem kind_of_mem_contexts {cur : Int} {i : UInt16} {outcomes : List RepOutcome}
    {construction : ChannelKind × Bool} (member : construction ∈ contexts cur i outcomes) :
    construction.1 = .rep := by
  fun_induction contexts cur i outcomes with
  | case1 => cases member
  | case2 => cases member
  | case3 i outcomes stop inductionHypothesis =>
      rcases List.mem_cons.mp member with rfl | member
      · rfl
      · exact inductionHypothesis member
  | case4 => rw [List.mem_singleton.mp member]

/-- Contexts are constructed where some are asked for and the loop has turned. -/
theorem contexts_ne_nil_iff (cur : Int) (outcomes : List RepOutcome) :
    contexts cur 0 outcomes ≠ [] ↔ 0 < cur ∧ outcomes ≠ [] := by
  cases outcomes with
  | nil => simp [contexts]
  | cons outcome outcomes =>
      simp only [contexts]
      split
      · rename_i stop
        simp at stop
        simp
        omega
      · rename_i go
        simp at go
        split <;> simp [go]

/-- A channel numbered by `_Index` comes from `createPair`, and is kept. -/
theorem createPair_of_constructs {call : CreateCall} {kept : Bool}
    (constructed : (ChannelKind.fullDuplex, kept) ∈ call.constructions) :
    call = .createPair ∧ kept = true := by
  cases call with
  | createPair => simpa [CreateCall.constructions] using constructed
  | createTcpChannel => simp [CreateCall.constructions] at constructed
  | createRep cur opened outcomes listening =>
      simp only [CreateCall.constructions] at constructed
      split at constructed
      · cases kind_of_mem_contexts constructed
      · cases constructed
  | createReq => simp [CreateCall.constructions] at constructed

/-- There is an end of a pair exactly when a pair was created. -/
theorem exists_fullDuplex_iff (calls : List CreateCall) :
    (∃ transport ∈ (after calls).transports, transport.kind = .fullDuplex ∧ transport.kept = true) ↔
      CreateCall.createPair ∈ calls := by
  have mem := mem_transports_iff calls (.fullDuplex, true)
  simp only [Prod.mk.injEq] at mem
  rw [mem]
  constructor
  · rintro ⟨call, member, constructed⟩
    rwa [(createPair_of_constructs constructed).1] at member
  · intro member
    exact ⟨_, member, by simp [CreateCall.constructions]⟩

/-- The ends of a pair are entered. -/
theorem kept_of_fullDuplex {calls : List CreateCall} {transport : Transport}
    (member : transport ∈ (after calls).transports) (pair : transport.kind = .fullDuplex) :
    transport.kept = true := by
  obtain ⟨call, _, constructed⟩ :=
    (mem_transports_iff calls (.fullDuplex, transport.kept)).mp ⟨transport, member, by rw [pair]⟩
  exact (createPair_of_constructs constructed).2

/-- Any other channel comes from a call which draws from `newSockNo`. -/
theorem constructs_newSockNo_iff (call : CreateCall) :
    (∃ construction ∈ call.constructions, construction.1 ≠ .fullDuplex) ↔
      usesSockNo call = true := by
  cases call with
  | createPair => simp [CreateCall.constructions, usesSockNo]
  | createTcpChannel => simp [CreateCall.constructions, usesSockNo]
  | createRep cur opened outcomes listening =>
      cases opened with
      | false => simp [CreateCall.constructions, usesSockNo]
      | true =>
          simp only [CreateCall.constructions, if_true, usesSockNo, Bool.true_and,
            Bool.and_eq_true, decide_eq_true_eq, Bool.not_eq_true', List.isEmpty_eq_false_iff]
          rw [← contexts_ne_nil_iff cur outcomes]
          constructor
          · rintro ⟨construction, constructed, _⟩ none
            rw [none] at constructed
            cases constructed
          · intro nonempty
            obtain ⟨construction, constructed⟩ := List.exists_mem_of_ne_nil _ nonempty
            refine ⟨construction, constructed, ?_⟩
            rw [kind_of_mem_contexts constructed]
            decide
  | createReq => simp [CreateCall.constructions, usesSockNo]

/-- There is an end of the other counter exactly when a call uses it. -/
theorem exists_newSockNo_iff (calls : List CreateCall) :
    (∃ transport ∈ (after calls).transports, transport.kind ≠ .fullDuplex) ↔
      ∃ call ∈ calls, usesSockNo call = true := by
  constructor
  · rintro ⟨transport, member, other⟩
    obtain ⟨call, callMember, constructed⟩ :=
      (mem_transports_iff calls _).mp ⟨transport, member, rfl⟩
    exact ⟨call, callMember, (constructs_newSockNo_iff call).mp ⟨_, constructed, other⟩⟩
  · rintro ⟨call, callMember, uses⟩
    obtain ⟨construction, constructed, other⟩ := (constructs_newSockNo_iff call).mpr uses
    obtain ⟨transport, member, rfl⟩ :=
      (mem_transports_iff calls construction).mpr ⟨call, callMember, constructed⟩
    exact ⟨transport, member, other⟩

/-- Ends of one counter have their counters in common. -/
theorem sameCounter_eq {transport : Transport} (same : SameCounter kind transport = true) :
    SameCounter transport.kind = SameCounter kind := by
  funext other
  simp only [SameCounter, beq_iff_eq] at same ⊢
  rw [same]

/-- When one counter numbers all channels, they are numbered in order. -/
theorem Numbered.of_sameCounter (numbered : Numbered manager)
    (same : ∀ transport ∈ manager.transports, SameCounter kind transport = true) {position : Nat}
    {transport : Transport} (found : manager.transports[position]? = some transport) :
    transport.sockNo = UInt32.ofNat (position + 1) := by
  rw [numbered.given position transport found, countOf,
    sameCounter_eq (same transport (List.mem_of_getElem? found))]
  have all : (manager.transports.take position).countP (SameCounter kind) = position := by
    rw [List.countP_eq_length.mpr fun other member => same other (List.mem_of_mem_take member),
      List.length_take]
    have bound := (List.getElem?_eq_some_iff.mp found).1
    omega
  rw [all]

/-- The first channel of each counter has number 1. -/
theorem Numbered.exists_one (numbered : Numbered manager) (kind : ChannelKind)
    (uses : ∃ transport ∈ manager.transports, SameCounter kind transport = true) :
    ∃ (position : Nat) (transport : Transport), manager.transports[position]? = some transport ∧
      SameCounter kind transport = true ∧ transport.sockNo = 1 := by
  have bound := List.findIdx_lt_length.mpr uses
  have holds := List.findIdx_getElem (w := bound)
  have found := List.getElem?_eq_getElem bound
  refine ⟨_, _, found, holds, ?_⟩
  have none : (manager.transports.take (manager.transports.findIdx (SameCounter kind))).countP
      (SameCounter kind) = 0 := by
    refine List.countP_eq_zero.mpr fun other member => ?_
    obtain ⟨earlier, earlierBound, rfl⟩ := List.mem_take_iff_getElem.mp member
    exact Bool.not_eq_true _ ▸ List.not_of_lt_findIdx (by omega)
  rw [numbered.given _ _ found, countOf, sameCounter_eq holds, none]
  rfl

/-- Fewer ends than numbers, of one counter, have different numbers. -/
theorem nodup_of_sameCounter (numbered : Numbered manager) (kind : ChannelKind)
    (few : manager.transports.length < 2 ^ 32)
    (same : ∀ transport ∈ manager.transports, SameCounter kind transport = true) :
    manager.socketNumbers.Nodup := by
  refine List.pairwise_iff_getElem.mpr fun first second firstBound secondBound earlier equal => ?_
  simp only [socketNumbers, List.length_map] at firstBound secondBound
  simp only [socketNumbers, List.getElem_map] at equal
  rw [numbered.of_sameCounter same (List.getElem?_eq_getElem firstBound),
    numbered.of_sameCounter same (List.getElem?_eq_getElem secondBound)] at equal
  have values := congrArg UInt32.toNat equal
  rw [UInt32.toNat_ofNat_of_lt' (by simp only [UInt32.size]; omega),
    UInt32.toNat_ofNat_of_lt' (by simp only [UInt32.size]; omega)] at values
  omega

/-- Distinct numbers stand at distinct positions. -/
theorem position_of_sockNo (nodup : manager.socketNumbers.Nodup) {first second : Nat}
    {left right : Transport} (firstFound : manager.transports[first]? = some left)
    (secondFound : manager.transports[second]? = some right)
    (same : left.sockNo = right.sockNo) : first = second := by
  have firstNo : manager.socketNumbers[first]? = some left.sockNo := by
    simp [socketNumbers, firstFound]
  have secondNo : manager.socketNumbers[second]? = some right.sockNo := by
    simp [socketNumbers, secondFound]
  obtain ⟨_, firstEq⟩ := List.getElem?_eq_some_iff.mp firstNo
  obtain ⟨_, secondEq⟩ := List.getElem?_eq_some_iff.mp secondNo
  exact (List.Nodup.getElem_inj_iff nodup).mp (firstEq.trans (same.trans secondEq.symm))

/-- With fewer than 2^32 channels, numbers of one counter are distinct. -/
theorem nodup_of_unmixed {calls : List CreateCall} (few : (after calls).transports.length < 2 ^ 32)
    (unmixed : ¬ (CreateCall.createPair ∈ calls ∧ ∃ call ∈ calls, usesSockNo call = true)) :
    (after calls).socketNumbers.Nodup := by
  by_cases pairs : CreateCall.createPair ∈ calls
  · refine nodup_of_sameCounter (numbered_after calls) .fullDuplex few fun transport member => ?_
    by_contra other
    refine unmixed ⟨pairs, (exists_newSockNo_iff calls).mp ⟨transport, member, ?_⟩⟩
    simpa [SameCounter] using other
  · refine nodup_of_sameCounter (numbered_after calls) .tcp few fun transport member => ?_
    have other : transport.kind ≠ .fullDuplex := fun isPair =>
      pairs ((exists_fullDuplex_iff calls).mp
        ⟨transport, member, isPair, kept_of_fullDuplex member isPair⟩)
    simp [SameCounter, other]

/-- With fewer than 2^31 numbers given, they are pairwise distinct if and only if not both
counters are used. -/
theorem socketNumbers_nodup_iff (calls : List CreateCall)
    (few : (after calls).transports.length < 2 ^ 31) :
    (after calls).socketNumbers.Nodup ↔
      ¬ (CreateCall.createPair ∈ calls ∧ ∃ call ∈ calls, usesSockNo call = true) := by
  constructor
  · rintro nodup ⟨pairs, others⟩
    obtain ⟨pair, pairMember, isPair, _⟩ := (exists_fullDuplex_iff calls).mpr pairs
    obtain ⟨other, otherMember, notPair⟩ := (exists_newSockNo_iff calls).mpr others
    obtain ⟨first, left, firstFound, firstKind, firstNo⟩ :=
      (numbered_after calls).exists_one .fullDuplex
        ⟨pair, pairMember, by simp [SameCounter, isPair]⟩
    obtain ⟨second, right, secondFound, secondKind, secondNo⟩ :=
      (numbered_after calls).exists_one .tcp ⟨other, otherMember, by simp [SameCounter, notPair]⟩
    -- Both have number 1, so they are one channel, but only one of them is an end of a pair.
    have same := position_of_sockNo nodup firstFound secondFound (firstNo.trans secondNo.symm)
    rw [same, secondFound, Option.some.injEq] at firstFound
    rw [firstFound] at secondKind
    simp only [SameCounter, beq_iff_eq] at firstKind secondKind
    exact absurd (firstKind.symm.trans secondKind) (by decide)
  · intro unmixed
    exact nodup_of_unmixed (by omega) unmixed

/-- A rep socket with two contexts and a tcp channel. -/
theorem socketNumbers_nodup_iff_two :
    (after [.createRep 2 true [.ready, .ready] true, .createTcpChannel]).socketNumbers.Nodup ↔
      ¬ (CreateCall.createPair ∈
          [CreateCall.createRep 2 true [.ready, .ready] true, .createTcpChannel] ∧
        ∃ call ∈ [CreateCall.createRep 2 true [.ready, .ready] true, .createTcpChannel],
          usesSockNo call = true) :=
  socketNumbers_nodup_iff _ (by decide)

/-- The first end of a pair and the first tcp channel both have number 1. -/
theorem socketNumbers_pair_tcp :
    ¬ (after [.createPair, .createTcpChannel]).socketNumbers.Nodup := by
  decide

/-! ## Sending -/

/-- The channel of a number is handed the message once, and its sender is told once. -/
def SentOnce (manager : LocalNetManager) (channel : Nat) : Prop :=
  ∀ transport, manager.transports[channel]? = some transport → transport.kept = true →
    ∀ sendMessage msg, manager.sendPack sendMessage transport.sockNo msg =
      (true, [.sendMessage channel msg,
        .notifySendNetComplete transport.sockNo msg.no (sendMessage channel msg)])

/-- No two channels were kept under one number. -/
def DistinctNumbers (manager : LocalNetManager) : Prop :=
  ∀ (first second : Nat) (left right : Transport), manager.transports[first]? = some left →
    manager.transports[second]? = some right → left.kept = true → right.kept = true →
    left.sockNo = right.sockNo → first = second

/-- The channel which `sendPack` finds. -/
def lookup (manager : LocalNetManager) (sock : UInt32) : Option Nat :=
  (manager.table .tcp sock).or ((manager.table .rep sock).or (manager.table .req sock))

/-- A message goes to the end which is found, and nobody is told where none is. -/
theorem sendPack_eq (manager : LocalNetManager) (sendMessage : Nat → NMessage → Bool)
    (sock : UInt32) (msg : NMessage) :
    manager.sendPack sendMessage sock msg =
      match manager.lookup sock with
      | some channel => (true, [.sendMessage channel msg,
          .notifySendNetComplete sock msg.no (sendMessage channel msg)])
      | none => (false, []) := by
  simp only [sendPack, sendTcp, sendRep, sendReq, lookup, table]
  cases tcp : manager.channelsTcp sock with
  | some channel => simp [sendVia, tcp]
  | none =>
      cases rep : manager.channelsRep sock with
      | some channel => simp [sendVia, tcp, rep]
      | none => cases req : manager.channelsReq sock <;> simp [sendVia, tcp, rep, req]

/-- What a table has under a number is an end with this number. -/
theorem Indexed.found (indexed : Indexed manager) {no : UInt32} {channel : Nat}
    (listed : manager.table kind no = some channel) :
    manager.transports[channel]? = some ⟨kind, no, true⟩ := by
  rw [indexed kind no] at listed
  obtain ⟨bound, equal, _⟩ := List.idxOf?_eq_some_iff.mp listed
  rw [List.getElem?_eq_getElem bound, equal]

/-- What a lookup finds is in one of three tables. -/
theorem lookup_cases {sock : UInt32} {channel : Nat}
    (found : manager.lookup sock = some channel) :
    ∃ kind, kind ≠ .fullDuplex ∧ manager.table kind sock = some channel := by
  simp only [lookup, Option.or_eq_some_iff] at found
  rcases found with tcp | ⟨_, rep | ⟨_, req⟩⟩
  · exact ⟨.tcp, by decide, tcp⟩
  · exact ⟨.rep, by decide, rep⟩
  · exact ⟨.req, by decide, req⟩

/-- An end which is in one of the three tables, and the only one with its number, is found. -/
theorem lookup_eq_some {sock : UInt32} {channel : Nat} (notPair : kind ≠ .fullDuplex)
    (listed : manager.table kind sock = some channel)
    (only : ∀ other position, manager.table other sock = some position → position = channel) :
    manager.lookup sock = some channel := by
  have first (other : ChannelKind) :
      manager.table other sock = none ∨ manager.table other sock = some channel := by
    cases here : manager.table other sock with
    | none => exact .inl rfl
    | some position => exact .inr (by rw [only other position here])
  simp only [lookup]
  rcases first .tcp with tcp | tcp <;> rcases first .rep with rep | rep <;>
    rcases first .req with req | req <;> cases kind <;> simp_all

/-- An entered end sends its messages exactly when a lookup finds it. -/
theorem sentOnce_iff {channel : Nat} {transport : Transport}
    (found : manager.transports[channel]? = some transport) (kept : transport.kept = true) :
    manager.SentOnce channel ↔ manager.lookup transport.sockNo = some channel := by
  constructor
  · intro once
    have sent := once transport found kept (fun _ _ => true) ⟨0, []⟩
    rw [sendPack_eq] at sent
    cases looked : manager.lookup transport.sockNo with
    | none => simp [looked] at sent
    | some other =>
        simp only [looked, Prod.mk.injEq, List.cons.injEq, Effect.sendMessage.injEq] at sent
        rw [sent.2.1.1]
  · intro looked other otherFound _ sendMessage msg
    obtain rfl : transport = other := Option.some.inj (found.symm.trans otherFound)
    rw [sendPack_eq, looked]

/-- No end of a pair is found. -/
theorem pair_not_sentOnce {calls : List CreateCall} (pair : CreateCall.createPair ∈ calls) :
    ∃ channel, ¬ (after calls).SentOnce channel := by
  obtain ⟨transport, member, isPair, kept⟩ := (exists_fullDuplex_iff calls).mpr pair
  obtain ⟨channel, found⟩ := List.mem_iff_getElem?.mp member
  refine ⟨channel, fun once => ?_⟩
  obtain ⟨kind, notPair, listed⟩ := lookup_cases ((sentOnce_iff found kept).mp once)
  have other := (indexed_after calls).found listed
  rw [found, Option.some.injEq] at other
  rw [other] at isPair
  exact notPair isPair

/-- Where numbers are different every other end is found. -/
theorem sentOnce_of_distinct (indexed : Indexed manager) (distinct : manager.DistinctNumbers)
    {channel : Nat} {transport : Transport}
    (found : manager.transports[channel]? = some transport) (kept : transport.kept = true)
    (notPair : transport.kind ≠ .fullDuplex) : manager.SentOnce channel := by
  rw [sentOnce_iff found kept]
  have only (other : ChannelKind) (position : Nat)
      (listed : manager.table other transport.sockNo = some position) : position = channel :=
    distinct position channel _ _ (indexed.found listed) found rfl kept rfl
  have member : (⟨transport.kind, transport.sockNo, true⟩ : Transport) ∈ manager.transports := by
    rw [← kept]
    exact List.mem_of_getElem? found
  obtain ⟨position, listed⟩ : ∃ position,
      manager.table transport.kind transport.sockNo = some position := by
    rw [indexed]
    exact Option.isSome_iff_exists.mp (List.isSome_idxOf?.mpr member)
  refine lookup_eq_some notPair ?_ only
  rw [listed, only _ _ listed]

/-- Numbers without a repetition are different. -/
theorem distinct_of_nodup (nodup : manager.socketNumbers.Nodup) : manager.DistinctNumbers :=
  fun _ _ _ _ firstFound secondFound _ _ same =>
    position_of_sockNo nodup firstFound secondFound same

/-- Every end sends its messages exactly when there is no pair and the numbers are different. -/
theorem sentOnce_iff_distinct (calls : List CreateCall) :
    (∀ channel, (after calls).SentOnce channel) ↔
      CreateCall.createPair ∉ calls ∧ (after calls).DistinctNumbers := by
  constructor
  · intro once
    refine ⟨fun pair => ?_, ?_⟩
    · obtain ⟨channel, never⟩ := pair_not_sentOnce pair
      exact never (once channel)
    · intro first second left right firstFound secondFound leftKept rightKept same
      have firstLooked := (sentOnce_iff firstFound leftKept).mp (once first)
      have secondLooked := (sentOnce_iff secondFound rightKept).mp (once second)
      rw [same, secondLooked] at firstLooked
      exact (Option.some.inj firstLooked).symm
  · rintro ⟨noPair, distinct⟩ channel transport found kept
    refine sentOnce_of_distinct (indexed_after calls) distinct found kept ?_ transport found kept
    intro isPair
    exact noPair ((exists_fullDuplex_iff calls).mp
      ⟨transport, List.mem_of_getElem? found, isPair, kept⟩)

/-- Every channel can be sent to if and only if none comes from `createPair` and no number is
given twice, which with fewer than 2^32 numbers the first implies. -/
theorem sendPack_sentOnce_iff (calls : List CreateCall) :
    ((∀ channel, (after calls).SentOnce channel) ↔
      CreateCall.createPair ∉ calls ∧ (after calls).DistinctNumbers) ∧
    ((after calls).transports.length < 2 ^ 32 →
      ((∀ channel, (after calls).SentOnce channel) ↔ CreateCall.createPair ∉ calls)) := by
  refine ⟨sentOnce_iff_distinct calls, fun few => ?_⟩
  rw [sentOnce_iff_distinct calls, and_iff_left_iff_imp]
  intro noPair
  exact distinct_of_nodup (nodup_of_unmixed few fun both => noPair both.1)

/-- A tcp channel and a req channel. -/
theorem sendPack_sentOnce_iff_two :
    (∀ channel, (after [.createTcpChannel, .createReq]).SentOnce channel) ↔
      CreateCall.createPair ∉ [CreateCall.createTcpChannel, CreateCall.createReq] :=
  (sendPack_sentOnce_iff [.createTcpChannel, .createReq]).2 (by decide)

/-- A message for the first end of a pair is handed to the tcp channel of the same number,
and one for the second end to none. -/
theorem sendPack_pair :
    ¬ (∀ channel, (after [.createPair, .createTcpChannel]).SentOnce channel) ∧
      (after [.createPair, .createTcpChannel]).sendPack (fun _ _ => true) 1 ⟨7, []⟩ =
        (true, [.sendMessage 2 ⟨7, []⟩, .notifySendNetComplete 1 7 true]) ∧
      (after [.createPair, .createTcpChannel]).sendPack (fun _ _ => true) 2 ⟨7, []⟩ =
        (false, []) := by
  refine ⟨fun once => ?_, by decide, by decide⟩
  have sent := once 1 ⟨.fullDuplex, 2, true⟩ (by decide) rfl (fun _ _ => true) ⟨7, []⟩
  revert sent
  decide

end LocalNetManager
end SM.Network
