import SM.Configs.Routers
import SM.Utils.HeadDecoders

/-!
# Pack dealers with a main and an assistant command

`PackDealerMainSub` takes the head off a packet and puts one on a response. `dealmsg` looks the
handler of the packet's assistant command up, runs it, and packs what it returns.
`dealmsg_packed_iff` says when it comes to that.
-/

namespace SM.Network

open SM.Configs SM.Utils

/-- The members of `PackDealerMainSub` and `PackDealerCommon`. -/
structure PackDealerMainSub where
  mainc : Int
  assc : Int
  seqnumreq : UInt32 := 0
  seqnumrep : UInt32 := 0
deriving DecidableEq

/-- How a handler ends. -/
inductive HandlerEnd where
  | returned (rep : Bytes)
  | null
  | threw
deriving DecidableEq

/-- How `dealmsg` ends. -/
inductive DealEnd where
  | packed (rep : Bytes)
  | null
  /-- An assertion fails, or a null pointer is used. -/
  | crashed
deriving DecidableEq

namespace PackDealerMainSub

/-- `unpack` from a string, with the number that `seqnum` points to: the bytes returned, unless it
is a null pointer, the number and the dealer. `none` is a failed assertion. The decoder copies
the body and leaves it in the string, from where it is copied again. -/
def unpack (assertions : Bool) (dealer : PackDealerMainSub) (seqnum : UInt32) (pack : Bytes) :
    Option (Option Bytes × UInt32 × PackDealerMainSub) :=
  let unpacked := uppackmaincmd3SeqString ⟨seqnum, 1, 0xffff, 0⟩ pack []
  let head := unpacked.head
  if assertions ∧ (head.assc = 0xffff ∨ dealer.mainc ≠ head.mainc ∨ unpacked.bret = false) then
    none
  else if unpacked.bret = false ∨ dealer.mainc ≠ head.mainc then some (none, head.seqnum, dealer)
  else some (some (unpacked.msg ++ unpacked.src), head.seqnum, { dealer with assc := head.assc })

def pack (dealer : PackDealerMainSub) (seqnum : UInt32) (msg : Bytes) (assc : Int) : Bytes :=
  packmaincmd3Seq seqnum dealer.mainc assc [] msg

/-- What is done with what the handler returned. -/
def respond (dealer : PackDealerMainSub) : HandlerEnd → DealEnd
  | .returned rep =>
      if rep = [] then .null else .packed (dealer.pack dealer.seqnumreq rep dealer.assc)
  | .null => .crashed
  | .threw => .crashed

/-- `dealmsg`, with the end of the handler in case there is one. -/
def dealmsg {RouterFunc : Type} (assertions : Bool) (routers : TransRoutersType RouterFunc)
    (dealer : PackDealerMainSub) (msg : Bytes) (handler : HandlerEnd) :
    DealEnd × PackDealerMainSub :=
  match dealer.unpack assertions dealer.seqnumreq msg with
  | none => (.crashed, dealer)
  | some (pstrreq, seqnumreq, dealer) =>
      let dealer := { dealer with seqnumreq }
      match getRouterTransByMainC routers dealer.mainc with
      | none => (.crashed, dealer)
      | some funcs =>
          match funcs dealer.assc with
          | none => (if assertions then .crashed else .null, dealer)
          | some _ =>
              match pstrreq with
              | none => (.crashed, dealer)
              | some _ => (dealer.respond handler, dealer)

variable {assertions : Bool} {dealer after : PackDealerMainSub} {seqnum seqnum' : UInt32}
  {msg body : Bytes}

/-! ## Heads -/

/-- A packed message starts with its sequence number. -/
theorem packmaincmd3Seq_head (mainc assc : Int) (msg : Bytes) :
    htonl seqnum <+: packmaincmd3Seq seqnum mainc assc [] msg := by
  simp [packmaincmd3Seq, packuint32String, packuint16String]

/-- The main command of a packet. -/
def headMainc (pack : Bytes) : Int := (ntohs ((pack.drop 4).take 2)).toNat

def headAssc (pack : Bytes) : Int := (ntohs ((pack.drop 6).take 2)).toNat

/-- What is long enough for a head is unpacked. -/
theorem uppackmaincmd3_of_length (head : CommandHead) (src dst : Bytes) (enough : 12 ≤ src.length) :
    uppackmaincmd3SeqString head src dst =
      ⟨true, ⟨ntohl (src.take 4), headMainc src, headAssc src,
        (ntohl ((src.drop 8).take 4)).toNat⟩, src.drop 12, dst ++ src.drop 12⟩ :=
  @HeadLayout.unpack_of_length .seqMainAss .string src head dst (by decide) enough

/-- A packet without a whole head is not unpacked, and assigns nothing. -/
theorem uppackmaincmd3_of_short (head : CommandHead) (src dst : Bytes) (short : src.length < 12) :
    (uppackmaincmd3SeqString head src dst).bret = false ∧
      (uppackmaincmd3SeqString head src dst).head = head := by
  obtain ⟨erased, _, _, refused⟩ := HeadLayout.seqMainAss_erases head dst short
  exact ⟨congrArg Unpacked.bret refused, congrArg Unpacked.head refused⟩

/-- What a dealer takes off a packet, and from which packets. -/
theorem unpack_some_iff :
    dealer.unpack assertions seqnum msg = some (some body, seqnum', after) ↔
      (12 ≤ msg.length ∧ headMainc msg = dealer.mainc ∧
        (assertions = true → headAssc msg ≠ 0xffff)) ∧
      body = msg.drop 12 ++ msg.drop 12 ∧ seqnum' = ntohl (msg.take 4) ∧
      after = { dealer with assc := headAssc msg } := by
  by_cases enough : 12 ≤ msg.length
  · rw [unpack, uppackmaincmd3_of_length _ _ _ enough]
    by_cases main : headMainc msg = dealer.mainc
    · by_cases unassigned : assertions = true ∧ headAssc msg = 0xffff
      · simp [main, unassigned]
      · have whole : 12 ≤ msg.length ∧ headMainc msg = dealer.mainc ∧
            (assertions = true → headAssc msg ≠ 0xffff) :=
          ⟨enough, main, fun checked none => unassigned ⟨checked, none⟩⟩
        rw [and_iff_right whole]
        simp only [main, ne_eq, not_true, Bool.true_eq_false, or_false, unassigned, if_false,
          List.nil_append, Option.some.injEq, Prod.mk.injEq]
        simp only [eq_comm]
    · simp [main, Ne.symm main]
  · obtain ⟨failed, same⟩ :=
      uppackmaincmd3_of_short ⟨seqnum, 1, 0xffff, 0⟩ msg [] (Nat.lt_of_not_le enough)
    refine iff_of_false ?_ fun holds => enough holds.1.1
    simp only [unpack, failed, true_or, or_true, if_true]
    split <;> exact fun found => by simp at found

/-- The packets which are dealt with: their head is whole and names a handler of the channel. -/
structure Routed {RouterFunc : Type} (assertions : Bool) (routers : TransRoutersType RouterFunc)
    (mainc : Int) (msg : Bytes) : Prop where
  whole : 12 ≤ msg.length
  main : headMainc msg = mainc
  assigned : assertions = true → headAssc msg ≠ 0xffff
  known : getRouterTrans routers mainc (headAssc msg) ≠ none

/-- A response is packed for a routed packet whose handler returns one that is not empty. -/
theorem dealmsg_packed_iff {RouterFunc : Type} {routers : TransRoutersType RouterFunc}
    {handler : HandlerEnd} :
    (∃ rep, (dealmsg assertions routers dealer msg handler).1 = .packed rep) ↔
      Routed assertions routers dealer.mainc msg ∧
        ∃ rep, handler = .returned rep ∧ rep ≠ [] := by
  constructor
  · rintro ⟨rep, packed⟩
    rw [dealmsg] at packed
    split at packed
    · cases packed
    · next pstrreq number opened unpacked =>
        dsimp only at packed
        split at packed
        · cases packed
        · next funcs found =>
            split at packed
            · split at packed <;> cases packed
            · next func known =>
                split at packed
                · cases packed
                · next body =>
                    obtain ⟨⟨whole, main, assigned⟩, _, _, rfl⟩ := unpack_some_iff.mp unpacked
                    refine ⟨⟨whole, main, assigned, ?_⟩, ?_⟩
                    · simp [getRouterTrans, found, known]
                    · cases handler with
                      | returned rep =>
                          refine ⟨rep, rfl, ?_⟩
                          rintro rfl
                          cases packed
                      | null => cases packed
                      | threw => cases packed
  · rintro ⟨⟨whole, main, assigned, known⟩, rep, rfl, filled⟩
    have unpacked := (@unpack_some_iff assertions dealer _ dealer.seqnumreq _ msg _).mpr
      ⟨⟨whole, main, assigned⟩, rfl, rfl, rfl⟩
    rw [dealmsg, unpacked]
    cases found : getRouterTransByMainC routers dealer.mainc with
    | none => exact absurd (by rw [getRouterTrans, found]; rfl) known
    | some funcs =>
        rw [getRouterTrans, found, Option.bind_some] at known
        obtain ⟨func, known⟩ := Option.ne_none_iff_exists'.mp known
        simp only [found, known, respond, filled, if_false]
        exact ⟨_, rfl⟩

end PackDealerMainSub

end SM.Network
