import SM.Network.PackDealerMainSub

/-!
# Packing and unpacking by the dealers

`PackDealerMainSub` unpacks strings and views, `PackDealerNoHead` has a length alone in front of
its messages, and `PackDealerNoMain` an assistant command and a length. `undoesPack_iff` and
`decodesPacked_iff` say when what was packed comes out again.
-/

namespace SM.Network

open SM.Configs SM.Utils

/-! ## Main and assistant command -/

namespace PackDealerMainSub

/-- `unpack` from a view, with the number that `seqnum` points to. -/
def unpackView (assertions : Bool) (dealer : PackDealerMainSub) (seqnum : UInt32) (pack : Bytes) :
    Option (Option Bytes × UInt32 × PackDealerMainSub) :=
  let unpacked := uppackmaincmd3SeqView ⟨seqnum, 1, 0xffff, 0⟩ pack []
  let head := unpacked.head
  if assertions ∧ (unpacked.bret = false ∨ head.mainc ≠ dealer.mainc) then none
  else if unpacked.bret = false ∨ head.mainc ≠ dealer.mainc then some (none, head.seqnum, dealer)
  else some (some unpacked.msg, head.seqnum, { dealer with assc := head.assc })

/-- `unpack` from a view, with the dealer's own number. -/
def unpackOwn (assertions : Bool) (dealer : PackDealerMainSub) (pack : Bytes) :
    Option (Option Bytes × PackDealerMainSub) :=
  let unpacked := uppackmaincmd3SeqView ⟨dealer.seqnumreq, 1, 0xffff, 0⟩ pack []
  let head := unpacked.head
  let dealer := { dealer with seqnumreq := head.seqnum }
  if assertions ∧ (unpacked.bret = false ∨ head.mainc ≠ dealer.mainc) then none
  else if unpacked.bret = false ∨ head.mainc ≠ dealer.mainc then some (none, dealer)
  else some (some unpacked.msg, { dealer with assc := head.assc })

/-- Every overload returns the message that was packed, and takes over its number and command. -/
structure UndoesPack (assertions : Bool) (dealer : PackDealerMainSub) (dst seqnum : UInt32)
    (msg : Bytes) (assc : UInt16) : Prop where
  string : dealer.unpack assertions dst (dealer.pack seqnum msg assc.toNat) =
    some (some msg, seqnum, { dealer with assc := assc.toNat })
  view : dealer.unpackView assertions dst (dealer.pack seqnum msg assc.toNat) =
    some (some msg, seqnum, { dealer with assc := assc.toNat })
  own : dealer.unpackOwn assertions (dealer.pack seqnum msg assc.toNat) =
    some (some msg, { dealer with seqnumreq := seqnum, assc := assc.toNat })

variable {assertions : Bool} {dealer : PackDealerMainSub} {dst seqnum : UInt32} {msg : Bytes}
  {assc : UInt16}

/-- What the decoders find in a packet of the dealer. -/
theorem unpack_pack (kind : SourceKind) (head : CommandHead)
    (mainc : 0 ≤ dealer.mainc ∧ dealer.mainc < 0x10000) :
    HeadLayout.seqMainAss.unpack kind head (dealer.pack seqnum msg assc.toNat) [] =
      ⟨true, ⟨seqnum, dealer.mainc, assc.toNat, (UInt32.ofNat msg.length).toNat⟩,
        if kind = .string then msg else dealer.pack seqnum msg assc.toNat, msg⟩ := by
  have bound := assc.toNat_lt
  have small : (assc.toNat : Int) < 0x10000 := by omega
  exact @unpack_pack_seqMainAss head ⟨seqnum, dealer.mainc, assc.toNat, 0⟩ msg [] kind mainc
    ⟨Int.natCast_nonneg _, small⟩

/-- The command which stands for none is 0xffff. -/
theorem toNat_eq_unassigned : ((assc.toNat : Int) = 0xffff) ↔ assc = 0xffff := by
  rw [← UInt16.toNat_inj]
  exact Int.ofNat_inj

/-- The body is in the string still when it is copied from there. -/
theorem unpack_string_pack (mainc : 0 ≤ dealer.mainc ∧ dealer.mainc < 0x10000) :
    dealer.unpack assertions dst (dealer.pack seqnum msg assc.toNat) =
      if assertions ∧ assc = 0xffff then none
      else some (some (msg ++ msg), seqnum, { dealer with assc := assc.toNat }) := by
  have unpacked : uppackmaincmd3SeqString ⟨dst, 1, 0xffff, 0⟩
      (dealer.pack seqnum msg assc.toNat) [] = _ :=
    @unpack_pack dealer seqnum msg assc .string ⟨dst, 1, 0xffff, 0⟩ mainc
  simp [unpack, unpacked, toNat_eq_unassigned]

/-- A packed view is unpacked to itself with its number and its command. -/
theorem unpack_view_pack (mainc : 0 ≤ dealer.mainc ∧ dealer.mainc < 0x10000) :
    dealer.unpackView assertions dst (dealer.pack seqnum msg assc.toNat) =
      some (some msg, seqnum, { dealer with assc := assc.toNat }) := by
  have unpacked : uppackmaincmd3SeqView ⟨dst, 1, 0xffff, 0⟩
      (dealer.pack seqnum msg assc.toNat) [] = _ :=
    @unpack_pack dealer seqnum msg assc .view ⟨dst, 1, 0xffff, 0⟩ mainc
  simp [unpackView, unpacked]

/-- A packed string is unpacked to itself with its number and its command. -/
theorem unpack_own_pack (mainc : 0 ≤ dealer.mainc ∧ dealer.mainc < 0x10000) :
    dealer.unpackOwn assertions (dealer.pack seqnum msg assc.toNat) =
      some (some msg, { dealer with seqnumreq := seqnum, assc := assc.toNat }) := by
  have unpacked : uppackmaincmd3SeqView ⟨dealer.seqnumreq, 1, 0xffff, 0⟩
      (dealer.pack seqnum msg assc.toNat) [] = _ :=
    @unpack_pack dealer seqnum msg assc .view ⟨dealer.seqnumreq, 1, 0xffff, 0⟩ mainc
  simp [unpackOwn, unpacked]

/-- A packet is only unpacked by a dealer whose main command fits the two bytes for it. -/
theorem mainc_of_unpackView {number : UInt32} {pack body : Bytes} {after : PackDealerMainSub}
    (unpacked : dealer.unpackView assertions dst pack = some (some body, number, after)) :
    0 ≤ dealer.mainc ∧ dealer.mainc < 0x10000 := by
  rw [unpackView] at unpacked
  split at unpacked
  · cases unpacked
  · split at unpacked
    · cases unpacked
    · next accepted =>
        rw [not_or, Bool.not_eq_false, not_not] at accepted
        obtain ⟨bret, same⟩ := accepted
        have enough : HeadLayout.seqMainAss.width ≤ pack.length := by
          refine Nat.le_of_not_lt fun short => ?_
          have refused := @HeadLayout.refused_of_short .seqMainAss .view pack
            ⟨dst, 1, 0xffff, 0⟩ [] (by decide) short
          exact Bool.false_ne_true (refused.symm.trans bret)
        have read : uppackmaincmd3SeqView ⟨dst, 1, 0xffff, 0⟩ pack [] = _ :=
          @HeadLayout.unpack_of_length .seqMainAss .view pack ⟨dst, 1, 0xffff, 0⟩ [] (by decide)
            enough
        rw [read] at same
        have head : dealer.mainc = (ntohs ((pack.drop 4).take 2)).toNat := same.symm
        have bound := (ntohs ((pack.drop 4).take 2)).toNat_lt
        omega

/-- The overload of strings returns the message twice, and refuses the command `0xffff`. A main
command that does not fit two bytes comes out as another one. -/
theorem undoesPack_iff (assertions : Bool) (dealer : PackDealerMainSub) (dst seqnum : UInt32)
    (msg : Bytes) (assc : UInt16) :
    UndoesPack assertions dealer dst seqnum msg assc ↔
      msg = [] ∧ (assertions = true → assc ≠ 0xffff) ∧
        0 ≤ dealer.mainc ∧ dealer.mainc < 0x10000 := by
  constructor
  · intro undoes
    have mainc := mainc_of_unpackView undoes.view
    have string := undoes.string
    rw [unpack_string_pack mainc] at string
    split at string
    · cases string
    · next assigned =>
        simp only [Option.some.injEq, Prod.mk.injEq, and_true] at string
        exact ⟨List.append_left_eq_self.mp string, fun on none => assigned ⟨on, none⟩, mainc⟩
  · rintro ⟨rfl, assigned, mainc⟩
    refine ⟨?_, unpack_view_pack mainc, unpack_own_pack mainc⟩
    rw [unpack_string_pack mainc, if_neg fun both => assigned both.1 both.2, List.append_nil]

/-- A body of one byte comes out of the string as two, and out of the view as one. -/
theorem undoesPack_echo :
    unpack false ⟨4, 0xffff, 0, 0⟩ 0 (pack ⟨4, 0xffff, 0, 0⟩ 7 [65] 2) =
        some (some [65, 65], 7, ⟨4, 2, 0, 0⟩) ∧
      unpackView false ⟨4, 0xffff, 0, 0⟩ 0 (pack ⟨4, 0xffff, 0, 0⟩ 7 [65] 2) =
        some (some [65], 7, ⟨4, 2, 0, 0⟩) ∧
      ¬ UndoesPack false ⟨4, 0xffff, 0, 0⟩ 0 7 [65] 2 := by
  refine ⟨by decide, by decide, ?_⟩
  intro undoes
  exact absurd undoes.string (by decide)

end PackDealerMainSub

/-! ## Length alone -/

namespace PackDealerNoHead

/-- `pack` appends the message to a packet that has it already. -/
def pack (msg : Bytes) : Bytes := packmaincmd3Len [] msg ++ msg

/-- `unpack` from a string. A packet without a length gives the empty message. -/
def unpack (pack : Bytes) : Bytes := (uppackmaincmd3LenString ⟨0, 0, 0, 0⟩ pack []).msg

/-- `unpack` from a view. -/
def unpackView (pack : Bytes) : Bytes := (uppackmaincmd3LenView ⟨0, 0, 0, 0⟩ pack []).msg

theorem unpack_pack (msg : Bytes) : unpack (pack msg) = msg ++ msg := by
  simp [unpack, pack, packmaincmd3Len, packuint32String, uppackmaincmd3LenString]

theorem unpackView_pack (msg : Bytes) : unpackView (pack msg) = msg ++ msg := by
  simp [unpackView, pack, packmaincmd3Len, packuint32String, uppackmaincmd3LenView]

end PackDealerNoHead

/-! ## Assistant command and length -/

/-- The member of `PackDealerNoMain`. The constructors leave it without a value, and only `setAssc`
assigns it. -/
structure PackDealerNoMain where
  assc : UInt16
deriving DecidableEq

/-- `MainCmd::DefaultMain` -/
def defaultMain : Int := 3

namespace PackDealerNoMain

def pack (msg : Bytes) (assc : UInt16) : Bytes := packmaincmd3Ass assc.toNat [] msg

/-- `unpack` from a string. The assistant command of the packet goes to a local. -/
def unpack (pack : Bytes) : Bytes := (uppackmaincmd3AssString ⟨0, 0, 0xffff, 0⟩ pack []).msg

/-- What is done with what the handler returned. An exception leaves a null pointer. -/
def respond (dealer : PackDealerNoMain) : HandlerEnd → DealEnd
  | .returned rep => if rep = [] then .null else .packed (pack rep dealer.assc)
  | .null => .null
  | .threw => .null

/-- `dealmsg`: the handler that was run and what it was given, and the response. -/
def dealmsg {RouterFunc : Type} (assertions : Bool) (routers : TransRoutersType RouterFunc)
    (dealer : PackDealerNoMain) (msg : Bytes) (handler : HandlerEnd) :
    Option (RouterFunc × Bytes) × DealEnd :=
  match getRouterTransByMainC routers defaultMain with
  | none => (none, .crashed)
  | some funcs =>
      match funcs dealer.assc.toNat with
      | none => (none, if assertions then .crashed else .null)
      | some func => (some (func, unpack msg), dealer.respond handler)

theorem unpack_pack (msg : Bytes) (assc : UInt16) : unpack (pack msg assc) = msg := by
  simp [unpack, pack, packmaincmd3Ass, packuint32String, packuint16String, uppackmaincmd3AssString]

/-- A packet tells its assistant command. -/
theorem pack_inj {msg : Bytes} {left right : UInt16} : pack msg left = pack msg right ↔
    left = right := by
  constructor
  · intro same
    have commands := congrArg (List.take 2) same
    simp only [pack, packmaincmd3Ass, packuint32String, packuint16String, List.nil_append,
      List.append_assoc, List.take_left' (length_htons _), ofInt_toNat] at commands
    rw [← ntohs_htons left, commands, ntohs_htons]
  · rintro rfl
    rfl

variable {RouterFunc : Type} {assertions : Bool} {routers : TransRoutersType RouterFunc}
  {dealer : PackDealerNoMain} {msg : Bytes} {handler : HandlerEnd}

/-- The handler that is run is the one of the dealer's own assistant command. -/
theorem dealmsg_ran : (dealmsg assertions routers dealer msg handler).1 =
    (getRouterTrans routers defaultMain dealer.assc.toNat).map (·, unpack msg) := by
  rw [dealmsg, getRouterTrans]
  cases getRouterTransByMainC routers defaultMain with
  | none => rfl
  | some funcs =>
      rw [Option.bind_some]
      cases found : funcs dealer.assc.toNat <;> simp [found]

/-- A message of a known command is answered by its handler. -/
theorem dealmsg_response
    (known : getRouterTrans routers defaultMain dealer.assc.toNat ≠ none) :
    (dealmsg assertions routers dealer msg handler).2 = dealer.respond handler := by
  obtain ⟨func, found⟩ := Option.ne_none_iff_exists'.mp known
  rw [getRouterTrans, Option.bind_eq_some_iff] at found
  obtain ⟨funcs, main, found⟩ := found
  simp only [dealmsg, main, found]

end PackDealerNoMain

/-- What `PackDealerNoHead` and `PackDealerNoMain` pack comes out again, and is dealt with under the
command in it. -/
structure DecodesPacked {RouterFunc : Type} (assertions : Bool)
    (routers : TransRoutersType RouterFunc) (dealer : PackDealerNoMain) (msg : Bytes)
    (assc : UInt16) : Prop where
  noHead : PackDealerNoHead.unpack (PackDealerNoHead.pack msg) = msg
  noHeadView : PackDealerNoHead.unpackView (PackDealerNoHead.pack msg) = msg
  noMain : PackDealerNoMain.unpack (PackDealerNoMain.pack msg assc) = msg
  handled : ∀ handler,
    (dealer.dealmsg assertions routers (PackDealerNoMain.pack msg assc) handler).1 =
      (getRouterTrans routers defaultMain assc.toNat).map (·, msg)
  answered : getRouterTrans routers defaultMain assc.toNat ≠ none → ∀ rep, rep ≠ [] →
    (dealer.dealmsg assertions routers (PackDealerNoMain.pack msg assc) (.returned rep)).2 =
      .packed (PackDealerNoMain.pack rep assc)

/-- The dealer's own assistant command does for that of a packet. -/
def Stands {RouterFunc : Type} (routers : TransRoutersType RouterFunc) (dealer : PackDealerNoMain)
    (assc : UInt16) : Prop :=
  dealer.assc = assc ∨
    getRouterTrans routers defaultMain dealer.assc.toNat = none ∧
      getRouterTrans routers defaultMain assc.toNat = none

/-- A packed message is decoded if and only if it is empty and its command is known or none. -/
theorem decodesPacked_iff {RouterFunc : Type} (assertions : Bool)
    (routers : TransRoutersType RouterFunc) (dealer : PackDealerNoMain) (msg : Bytes)
    (assc : UInt16) :
    DecodesPacked assertions routers dealer msg assc ↔ msg = [] ∧ Stands routers dealer assc := by
  constructor
  · intro decodes
    refine ⟨List.append_left_eq_self.mp ((PackDealerNoHead.unpack_pack msg).symm.trans
      decodes.noHead), ?_⟩
    have handled := decodes.handled .null
    rw [PackDealerNoMain.dealmsg_ran, PackDealerNoMain.unpack_pack] at handled
    cases known : getRouterTrans routers defaultMain assc.toNat with
    | none =>
        rw [known, Option.map_none, Option.map_eq_none_iff] at handled
        exact Or.inr ⟨handled, known⟩
    | some func =>
        have found : getRouterTrans routers defaultMain dealer.assc.toNat ≠ none := by
          intro unknown
          rw [unknown, known] at handled
          cases handled
        -- Any response but the empty one is packed, and shows the command.
        have answered := decodes.answered (by rw [known]; exact Option.some_ne_none _) [0]
          (List.cons_ne_nil _ _)
        rw [PackDealerNoMain.dealmsg_response found] at answered
        exact Or.inl (PackDealerNoMain.pack_inj.mp (DealEnd.packed.inj answered))
  · rintro ⟨rfl, stands⟩
    refine ⟨PackDealerNoHead.unpack_pack [], PackDealerNoHead.unpackView_pack [],
      PackDealerNoMain.unpack_pack [] assc, ?_, ?_⟩
    · intro handler
      rw [PackDealerNoMain.dealmsg_ran, PackDealerNoMain.unpack_pack]
      rcases stands with rfl | ⟨own, sent⟩
      · rfl
      · rw [own, sent]
    · intro known rep filled
      rcases stands with rfl | ⟨_, sent⟩
      · rw [PackDealerNoMain.dealmsg_response known, PackDealerNoMain.respond, if_neg filled]
      · exact absurd sent known

/-- Assistant command 2 comes with the message, and the dealer runs the handler of command 1. -/
theorem decodesPacked_stale :
    PackDealerNoHead.unpack (PackDealerNoHead.pack [65]) = [65, 65] ∧
      PackDealerNoMain.dealmsg false
          (registered [⟨defaultMain, 1, "first"⟩, ⟨defaultMain, 2, "second"⟩]) ⟨1⟩
          (PackDealerNoMain.pack [65] 2) (.returned [66]) =
        (some ("first", [65]), .packed (PackDealerNoMain.pack [66] 1)) ∧
      ¬ DecodesPacked false
        (registered [⟨defaultMain, 1, "first"⟩, ⟨defaultMain, 2, "second"⟩]) ⟨1⟩ [65] 2 := by
  refine ⟨by decide, rfl, ?_⟩
  intro decodes
  exact absurd decodes.noHead (by decide)

end SM.Network
