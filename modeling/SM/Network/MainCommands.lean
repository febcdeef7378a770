import SM.Network.Dispatcher
import SM.Network.PackUnpackManager

/-!
# Main commands of a channel

The dispatcher clones the platform pack of the main command of the channel, and
then overwrites the main command by the one in the packet. `ownMain_iff` says for
which packets the handler is nevertheless one of the main command of the channel.
-/

namespace SM.Network

open SM.Configs SM.Utils

/-- The head of a packet. -/
def headMain (body : Bytes) : Int := intOfBits (ntohl (body.take 4))

def headAss (body : Bytes) : Int := intOfBits (ntohl ((body.drop 4).take 4))

/-- The dispatcher after the given calls of `addPlatformDealer` and `addRouterTrans`. -/
def dispatcherOf {RouterFunc : Type} (assertions : Bool) (packs : List PlatformPack)
    (routers : List (RouterTrans RouterFunc)) : DispatcherConfig RouterFunc where
  assertions := assertions
  platPacks := dealers packs
  routersTrans := registered routers

/-- Whatever handlers are registered, a packet on a channel runs one of the main command of the
channel or none. -/
def OwnMain (assertions : Bool) (packs : List PlatformPack) (mainc : Int) (body : Bytes) : Prop :=
  ∀ (RouterFunc : Type) (routers : List (RouterTrans RouterFunc)) (plat : PlatformPack)
    (func : RouterFunc) (strreq : Bytes),
    (dispatcherOf assertions packs routers).openPacket mainc body = .calling plat func strreq →
    ∃ assc, ⟨mainc, assc, func⟩ ∈ routers

/-- The head of two commands is read from eight bytes. -/
theorem PlatformPack.unpack_mainAss (main ass : UInt32) {body : Bytes}
    (enough : 8 ≤ body.length) :
    (PlatformPack.mainAss main ass).unpack (body.take 8) =
      (true, .mainAss (ntohl (body.take 4)) (ntohl ((body.drop 4).take 4))) := by
  have whole : (body.take 8).length = 8 := by
    rw [List.length_take]
    omega
  have first : unpackuint32 (body.take 8) 0 =
      (true, (body.take 8).drop 4, ntohl (body.take 4)) := by
    rw [unpackuint32, if_neg (by omega), List.take_take]
    rfl
  have second (dst : UInt32) : unpackuint32 ((body.take 8).drop 4) dst =
      (true, ((body.drop 4).take 4).drop 4, ntohl ((body.drop 4).take 4)) := by
    rw [unpackuint32, if_neg (by rw [List.length_drop]; omega), List.drop_take, List.take_take]
    rfl
  simp only [unpack, whole, ne_eq, not_true, if_false, first, second]

variable {RouterFunc : Type} {config : DispatcherConfig RouterFunc} {mainc : Int} {body : Bytes}
  {plat : PlatformPack} {func : RouterFunc} {strreq : Bytes}

/-- A handler is called exactly when its route is registered. -/
theorem findFunc_calling_iff {found : PlatformPack} :
    config.findFunc found strreq = .calling plat func body ↔
      getRouterTrans config.routersTrans found.getMain found.getAss = some func ∧
        found = plat ∧ strreq = body := by
  simp only [DispatcherConfig.findFunc, getRouterTrans]
  cases getRouterTransByMainC config.routersTrans found.getMain with
  | none => simp
  | some funcs =>
      rw [Option.bind_some]
      cases handler : funcs found.getAss with
      | none => simp [handler, DispatcherConfig.failAssert]
      | some first =>
          simp only [handler, DispatchTurn.calling.injEq, Option.some.injEq]
          exact and_left_comm

/-- When a handler is run, and on what. -/
theorem openPacket_calling_iff :
    config.openPacket mainc body = .calling plat func strreq ↔
      ∃ pack, config.platPacks mainc = some pack ∧ 0 < pack.len ∧ pack.len ≤ body.length ∧
        config.unpackHead pack body = (true, plat) ∧
        getRouterTrans config.routersTrans plat.getMain plat.getAss = some func ∧
        body.drop plat.len = strreq := by
  simp only [DispatcherConfig.openPacket]
  cases found : config.platPacks mainc with
  | none => simp [DispatcherConfig.failAssert]
  | some pack =>
      simp only [Option.some.injEq, exists_eq_left']
      by_cases head : 0 < pack.len
      · by_cases short : body.length < pack.len
        · have missing : ¬ pack.len ≤ body.length := by omega
          simp [head, short, missing]
        · have enough : pack.len ≤ body.length := by omega
          simp only [head, short, enough, if_true, if_false, true_and]
          rcases unpacked : config.unpackHead pack body with ⟨flag, opened⟩
          cases flag with
          | false => simp
          | true =>
              simp only [findFunc_calling_iff, Prod.mk.injEq, true_and]
              constructor
              · rintro ⟨handler, rfl, same⟩
                exact ⟨rfl, handler, same⟩
              · rintro ⟨rfl, handler, same⟩
                exact ⟨handler, rfl, same⟩
      · simp [head]

/-- A packer with a head has two commands. -/
theorem PlatformPack.eq_mainAss {pack : PlatformPack} (head : 0 < pack.len) :
    ∃ main ass, pack = .mainAss main ass := by
  cases pack with
  | mainAss main ass => exact ⟨main, ass, rfl⟩
  | noMainAss main => cases head

variable {assertions : Bool} {packs : List PlatformPack} {routers : List (RouterTrans RouterFunc)}
  {main ass : UInt32}

/-- A packet with a head runs the handler which its head names. -/
theorem openPacket_head (found : dealers packs mainc = some (.mainAss main ass))
    (enough : 8 ≤ body.length)
    (handler : getRouterTrans (registered routers) (headMain body) (headAss body) = some func) :
    (dispatcherOf true packs routers).openPacket mainc body =
      .calling (.mainAss (ntohl (body.take 4)) (ntohl ((body.drop 4).take 4))) func
        (body.drop 8) := by
  rw [openPacket_calling_iff]
  refine ⟨_, found, Nat.zero_lt_succ 7, enough, ?_, handler, rfl⟩
  simp only [DispatcherConfig.unpackHead, dispatcherOf, if_true]
  exact PlatformPack.unpack_mainAss main ass enough

/-- The main command of an unpacked head. -/
theorem getMain_unpackHead {pack : PlatformPack} (found : dealers packs mainc = some pack)
    (head : 0 < pack.len) (enough : pack.len ≤ body.length)
    (opened : (dispatcherOf assertions packs routers).unpackHead pack body = (true, plat)) :
    plat.getMain = if assertions then headMain body else mainc := by
  obtain ⟨main, ass, rfl⟩ := PlatformPack.eq_mainAss head
  cases assertions with
  | false =>
      simp only [DispatcherConfig.unpackHead, dispatcherOf, Bool.false_eq_true, if_false,
        Prod.mk.injEq, true_and] at opened ⊢
      rw [← opened]
      exact getMain_dealers found
  | true =>
      have unpacked := PlatformPack.unpack_mainAss main ass enough
      simp only [DispatcherConfig.unpackHead, dispatcherOf, if_true, PlatformPack.len, unpacked,
        Prod.mk.injEq, true_and] at opened ⊢
      rw [← opened]
      rfl

/-- With one handler, for the head of the packet, the head has to name the main command. -/
theorem headMain_of_ownMain (own : OwnMain true packs mainc body)
    (found : dealers packs mainc = some (.mainAss main ass)) (enough : 8 ≤ body.length) :
    headMain body = mainc := by
  have handler : getRouterTrans (registered [⟨headMain body, headAss body, ()⟩]) (headMain body)
      (headAss body) = some () := by
    simp [getRouterTrans_registered]
  obtain ⟨assc, member⟩ := own Unit _ _ () _ (openPacket_head found enough handler)
  simp only [List.mem_singleton, RouterTrans.mk.injEq] at member
  exact member.1.symm

/-- A packet runs a handler of its own channel for every table of handlers if and only if the
assertion with the unpacking is not evaluated, the channel has no head, the packet is shorter than
one, or the head names the main command of the channel. -/
theorem ownMain_iff (assertions : Bool) (packs : List PlatformPack) (mainc : Int)
    (body : Bytes) :
    OwnMain assertions packs mainc body ↔
      assertions = false ∨ (∀ pack, dealers packs mainc = some pack → pack.len = 0) ∨
        body.length < 8 ∨ headMain body = mainc := by
  constructor
  · intro own
    by_cases silent : assertions = false
    · exact .inl silent
    by_cases headless : ∀ pack, dealers packs mainc = some pack → pack.len = 0
    · exact .inr (.inl headless)
    by_cases short : body.length < 8
    · exact .inr (.inr (.inl short))
    rw [Bool.not_eq_false] at silent
    subst silent
    simp only [not_forall] at headless
    obtain ⟨pack, found, head⟩ := headless
    obtain ⟨main, ass, rfl⟩ := PlatformPack.eq_mainAss (Nat.pos_of_ne_zero head)
    exact .inr (.inr (.inr (headMain_of_ownMain own found (Nat.le_of_not_lt short))))
  · rintro allowed RouterFunc routers plat func strreq calling
    obtain ⟨pack, found, head, enough, opened, handler, _⟩ := openPacket_calling_iff.mp calling
    refine ⟨plat.getAss, ?_⟩
    have own : plat.getMain = mainc := by
      rw [getMain_unpackHead found head enough opened]
      rcases allowed with silent | headless | short | same
      · simp [silent]
      · exact absurd (headless pack found) (Nat.ne_of_gt head)
      · obtain ⟨main, ass, rfl⟩ := PlatformPack.eq_mainAss head
        exact absurd enough (Nat.not_le_of_lt short)
      · rw [same, ite_self]
    have member := mem_of_getRouterTrans handler
    rwa [own] at member

/-- A packet for main command 7 runs a handler of 7 on a channel of main command 6. -/
theorem ownMain_foreign : ¬ OwnMain true [.mainAss 6 0] 6 [0, 0, 0, 7, 0, 0, 0, 1] := by
  intro own
  obtain ⟨assc, member⟩ := own Unit [⟨7, 1, ()⟩] (.mainAss 7 1) () [] (by
    rw [openPacket_calling_iff]
    exact ⟨.mainAss 6 0, rfl, by decide, by decide, rfl, rfl, rfl⟩)
  simp at member

end SM.Network
