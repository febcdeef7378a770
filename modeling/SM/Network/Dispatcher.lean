import SM.Configs.Routers
import SM.Network.MessageRouter
import SM.Network.PlatformPack

/-!
# Dispatcher

One turn of the second loop of `MessageRouter::start`: from a packet taken off
`_dataio` to the reply given to `notifyRecvAppRep`. The turn is suspended while
the handler runs, so it comes in two parts, `openPacket` and `closePacket`.
`dispatcher_answers_iff` shows which packets the loop survives and answers.
-/

namespace SM.Network

open SM.Configs SM.Utils

/-- A packet of `_dataio`. -/
structure IoPacket where
  sock : UInt32
  mainc : Int
  msg : NMessage
deriving DecidableEq

/-- What the loop runs with. `assertions` is false when the program was built with `NDEBUG`. -/
structure DispatcherConfig (RouterFunc : Type) where
  assertions : Bool
  /-- `_platPacks`. -/
  platPacks : Int → Option PlatformPack
  routersTrans : TransRoutersType RouterFunc

/-- Why the loop does not come to its next packet. -/
inductive Halt where
  | assertion
  | nullPointer
  /-- `co_return` in the loop body. -/
  | returned
deriving DecidableEq

/-- A turn when it is suspended or done. -/
inductive DispatchTurn (RouterFunc : Type) where
  /-- The handler is awaited. -/
  | calling (plat : PlatformPack) (func : RouterFunc) (strreq : Bytes)
  | replying (strrep : Bytes)
  /-- An exception went to the handlers of `END_ASIO`. -/
  | swallowed
  | halted (reason : Halt)

/-- How the awaited handler ends. -/
inductive HandlerOutcome where
  | value (ret : Bytes)
  | null
  | thrown
deriving DecidableEq

variable {RouterFunc : Type}

namespace DispatcherConfig

/-- The end of an `assert` which fails. Without assertions the loop goes on as given. -/
def failAssert (config : DispatcherConfig RouterFunc) (without : Halt) : DispatchTurn RouterFunc :=
  .halted (if config.assertions then .assertion else without)

/-- The ranges of the body which the turn forms, as positions of begin and end. The first
one stands inside `assert`. -/
def views (config : DispatcherConfig RouterFunc) (mainc : Int) (body : Bytes) : List (Nat × Nat) :=
  match config.platPacks mainc with
  | none => []
  | some plat =>
      if 0 < plat.len then
        (if config.assertions then [(0, plat.len)] else []) ++ [(plat.len, body.length)]
      else []

/-- `assert(plat->unpack(..))`, which is not evaluated without assertions. -/
def unpackHead (config : DispatcherConfig RouterFunc) (plat : PlatformPack) (body : Bytes) :
    Bool × PlatformPack :=
  if config.assertions then plat.unpack (body.take plat.len) else (true, plat)

/-- The lookup of the handler for an unpacked head. -/
def findFunc (config : DispatcherConfig RouterFunc) (plat : PlatformPack) (strreq : Bytes) :
    DispatchTurn RouterFunc :=
  match getRouterTransByMainC config.routersTrans plat.getMain with
  | none => .halted .nullPointer
  | some funcs =>
      match funcs plat.getAss with
      | none => config.failAssert .returned
      | some func => .calling plat func strreq

/-- The turn up to the call of the handler. A body shorter than the head gives `std::string` a
negative length, which throws. -/
def openPacket (config : DispatcherConfig RouterFunc) (mainc : Int) (body : Bytes) :
    DispatchTurn RouterFunc :=
  match config.platPacks mainc with
  | none => config.failAssert .nullPointer
  | some plat =>
      if 0 < plat.len then
        if body.length < plat.len then .swallowed
        else
          match config.unpackHead plat body with
          | (false, _) => .halted .assertion
          | (true, plat) => config.findFunc plat (body.drop plat.len)
      else .replying body

/-- The turn after the handler: the head is packed in front of the result. -/
def closeCall (plat : PlatformPack) : HandlerOutcome → DispatchTurn RouterFunc
  | .value ret => .replying ((plat.pack (List.replicate plat.len 0)).2 ++ ret)
  | .null => .halted .nullPointer
  | .thrown => .swallowed

end DispatcherConfig

/-- What a turn did. -/
structure TurnResult where
  views : List (Nat × Nat)
  /-- The replies which `notifyRecvAppRep` signalled. -/
  replies : List (UInt32 × NMessage)
  halt : Option Halt
  router : MessageRouter

namespace DispatcherConfig

/-- `assert(notifyRecvAppRep(..))`, which is not evaluated without assertions. -/
def reply (config : DispatcherConfig RouterFunc) (router : MessageRouter) (packet : IoPacket)
    (strrep : Bytes) : List (UInt32 × NMessage) × Option Halt × MessageRouter :=
  if config.assertions then
    match router.notifyRecvAppRep packet.sock ⟨packet.msg.no, strrep⟩ with
    | (true, router) => ([(packet.sock, ⟨packet.msg.no, strrep⟩)], none, router)
    | (false, router) => ([], some .assertion, router)
  else ([], none, router)

/-- The end of a turn which no longer waits for the handler. -/
def closePacket (config : DispatcherConfig RouterFunc) (router : MessageRouter)
    (packet : IoPacket) : DispatchTurn RouterFunc → List (UInt32 × NMessage) × Option Halt × MessageRouter
  | .replying strrep => config.reply router packet strrep
  | .halted reason => ([], some reason, router)
  | _ => ([], none, router)

end DispatcherConfig

/-- A packet with the outcome of its handler. Before the packet was taken, reply coroutines have
called `prepareAppRep` for the given sockets and numbers. -/
structure DispatcherInput where
  prepared : List (UInt32 × UInt32)
  packet : IoPacket
  outcome : HandlerOutcome

/-- The router when the packet is taken. -/
def DispatcherInput.arrive (input : DispatcherInput) (router : MessageRouter) : MessageRouter :=
  input.prepared.foldl (fun router key => (router.prepareAppRep key.1 key.2).getD router) router

namespace DispatcherConfig

/-- One turn of the loop. -/
def turn (config : DispatcherConfig RouterFunc) (router : MessageRouter)
    (input : DispatcherInput) : TurnResult :=
  let packet := input.packet
  let done : DispatchTurn RouterFunc :=
    match config.openPacket packet.mainc packet.msg.body with
    | .calling plat _ _ => closeCall plat input.outcome
    | other => other
  let (replies, halt, router) := config.closePacket (input.arrive router) packet done
  ⟨config.views packet.mainc packet.msg.body, replies, halt, router⟩

end DispatcherConfig

/-- The turn stays inside the body, signals one reply for its packet and goes on. -/
def TurnResult.Answers (result : TurnResult) (packet : IoPacket) : Prop :=
  (∀ view ∈ result.views, view.1 ≤ view.2 ∧ view.2 ≤ packet.msg.body.length) ∧
    (∃ strrep, result.replies = [(packet.sock, ⟨packet.msg.no, strrep⟩)]) ∧
    result.halt = none

namespace DispatcherConfig

/-- Every packet of a run is survived and answered. -/
def Answers (config : DispatcherConfig RouterFunc) : MessageRouter → List DispatcherInput → Prop
  | _, [] => True
  | router, input :: inputs =>
      (config.turn router input).Answers input.packet ∧
        config.Answers (config.turn router input).router inputs

/-- The packet can be handled: its main command has a platform pack, which has no head or
finds a complete head and a handler for it that returns a string. -/
def Handled (config : DispatcherConfig RouterFunc) (mainc : Int) (body : Bytes)
    (outcome : HandlerOutcome) : Prop :=
  ∃ plat, config.platPacks mainc = some plat ∧ (plat.len = 0 ∨
    plat.len ≤ body.length ∧
      (∃ funcs func, getRouterTransByMainC config.routersTrans
          (plat.unpack (body.take plat.len)).2.getMain = some funcs ∧
        funcs (plat.unpack (body.take plat.len)).2.getAss = some func) ∧
      ∃ ret, outcome = .value ret)

/-- At every packet assertions are evaluated, the packet can be handled, and the coroutine
which waits for its reply was not answered before. -/
def Answerable (config : DispatcherConfig RouterFunc) :
    MessageRouter → List DispatcherInput → Prop
  | _, [] => True
  | router, input :: inputs =>
      (config.assertions = true ∧
        config.Handled input.packet.mainc input.packet.msg.body input.outcome ∧
        (input.arrive router).appRepSignals input.packet.sock input.packet.msg.no =
          some .waiting) ∧
        config.Answerable (config.turn router input).router inputs

/-! ## Which packets are answered -/

variable {config : DispatcherConfig RouterFunc} {router : MessageRouter} {input : DispatcherInput}
  {packet : IoPacket} {mainc : Int} {body : Bytes} {outcome : HandlerOutcome}

/-- The turn of a packet whose handler is done. -/
def settle (config : DispatcherConfig RouterFunc) (mainc : Int) (body : Bytes)
    (outcome : HandlerOutcome) : DispatchTurn RouterFunc :=
  match config.openPacket mainc body with
  | .calling plat _ _ => closeCall plat outcome
  | other => other

/-- A reply is passed on exactly when its notice is evaluated and its entry waits. -/
theorem reply_answers_iff (strrep : Bytes) :
    (∃ rep, (config.reply router packet strrep).1 = [(packet.sock, ⟨packet.msg.no, rep⟩)]) ∧
        (config.reply router packet strrep).2.1 = none ↔
      config.assertions = true ∧
        router.appRepSignals packet.sock packet.msg.no = some .waiting := by
  cases assertions : config.assertions with
  | false => simp [reply, assertions]
  | true =>
      by_cases waiting : router.appRepSignals packet.sock packet.msg.no = some .waiting
      · simp [reply, assertions, MessageRouter.notifyRecvAppRep, waiting,
          SignalTable.notify_of_waiting waiting]
      · simp [reply, assertions, MessageRouter.notifyRecvAppRep, waiting,
          SignalTable.notify_of_not_waiting waiting]

/-- A turn answers its packet exactly when it has a reply and its entry waits. -/
theorem closePacket_answers_iff (config : DispatcherConfig RouterFunc) (router : MessageRouter)
    (packet : IoPacket) (done : DispatchTurn RouterFunc) :
    (∃ rep, (config.closePacket router packet done).1 = [(packet.sock, ⟨packet.msg.no, rep⟩)]) ∧
        (config.closePacket router packet done).2.1 = none ↔
      (∃ strrep, done = .replying strrep) ∧ config.assertions = true ∧
        router.appRepSignals packet.sock packet.msg.no = some .waiting := by
  cases done with
  | replying strrep => simpa [closePacket] using reply_answers_iff strrep
  | calling plat func strreq => simp [closePacket]
  | swallowed => simp [closePacket]
  | halted reason => simp [closePacket]

/-- The turn for a complete head depends only on whether it has a handler. -/
theorem findFunc_cases (config : DispatcherConfig RouterFunc) (plat : PlatformPack)
    (strreq : Bytes) :
    (∃ funcs func, getRouterTransByMainC config.routersTrans plat.getMain = some funcs ∧
        funcs plat.getAss = some func ∧
        config.findFunc plat strreq = .calling plat func strreq) ∨
      (¬ ∃ funcs func, getRouterTransByMainC config.routersTrans plat.getMain = some funcs ∧
        funcs plat.getAss = some func) ∧
        ∃ reason, config.findFunc plat strreq = .halted reason := by
  simp only [findFunc]
  cases routers : getRouterTransByMainC config.routersTrans plat.getMain with
  | none => exact .inr ⟨by simp, _, rfl⟩
  | some funcs =>
      cases handler : funcs plat.getAss with
      | none =>
          refine .inr ⟨by simp [handler], if config.assertions then .assertion else .returned, ?_⟩
          simp [handler, failAssert]
      | some func => exact .inl ⟨funcs, func, rfl, handler, by simp [handler]⟩

/-- Which packets come to a reply. -/
theorem settle_replying_iff (assertions : config.assertions = true) :
    (∃ strrep, config.settle mainc body outcome = .replying strrep) ↔
      config.Handled mainc body outcome := by
  cases found : config.platPacks mainc with
  | none => simp [settle, openPacket, Handled, found, failAssert]
  | some plat =>
      simp only [settle, openPacket, Handled, found, Option.some.injEq, exists_eq_left']
      by_cases head : 0 < plat.len
      · have some : plat.len ≠ 0 := by omega
        by_cases short : body.length < plat.len
        · have missing : ¬ plat.len ≤ body.length := by omega
          simp [head, short, some, missing]
        · have enough : plat.len ≤ body.length := by omega
          have unpacked : config.unpackHead plat body =
              (true, (plat.unpack (body.take plat.len)).2) := by
            rw [unpackHead, if_pos assertions, ← PlatformPack.unpack_take enough]
          simp only [head, short, if_true, if_false, unpacked, some, false_or, enough, true_and]
          rcases findFunc_cases config (plat.unpack (body.take plat.len)).2
              (body.drop (plat.unpack (body.take plat.len)).2.len) with
            ⟨funcs, func, routers, handler, turn⟩ | ⟨noHandler, reason, turn⟩
          · rw [turn]
            cases outcome <;> simp [closeCall, routers, handler]
          · rw [turn]
            constructor
            · rintro ⟨strrep, replying⟩
              cases replying
            · rintro ⟨hasHandler, _⟩
              exact absurd hasHandler noHandler
      · have none : plat.len = 0 := by omega
        simp [none]

/-- A packet which comes to a reply has its views inside the body. -/
theorem views_inside (handled : config.Handled mainc body outcome) :
    ∀ view ∈ config.views mainc body, view.1 ≤ view.2 ∧ view.2 ≤ body.length := by
  obtain ⟨plat, found, none | ⟨enough, _⟩⟩ := handled
  · simp [views, found, none]
  · simp only [views, found]
    intro view member
    split at member
    · rcases List.mem_append.mp member with inHead | inRest
      · split at inHead
        · rw [List.mem_singleton.mp inHead]
          exact ⟨Nat.zero_le _, enough⟩
        · cases inHead
      · rw [List.mem_singleton.mp inRest]
        exact ⟨enough, Nat.le_refl _⟩
    · cases member

/-- A turn answers its packet exactly when a handler returns and the entry of the packet waits. -/
theorem turn_answers_iff :
    (config.turn router input).Answers input.packet ↔
      config.assertions = true ∧
        config.Handled input.packet.mainc input.packet.msg.body input.outcome ∧
        (input.arrive router).appRepSignals input.packet.sock input.packet.msg.no =
          some .waiting := by
  have close := closePacket_answers_iff config (input.arrive router) input.packet
    (config.settle input.packet.mainc input.packet.msg.body input.outcome)
  constructor
  · rintro ⟨_, answered⟩
    obtain ⟨replying, assertions, waiting⟩ := close.mp answered
    exact ⟨assertions, (settle_replying_iff assertions).mp replying, waiting⟩
  · rintro ⟨assertions, handled, waiting⟩
    refine ⟨views_inside handled, close.mpr ?_⟩
    exact ⟨(settle_replying_iff assertions).mpr handled, assertions, waiting⟩

/-- The loop survives and answers every packet of a run if and only if every packet can be
answered in the state in which it is taken. -/
theorem dispatcher_answers_iff {RouterFunc : Type} (config : DispatcherConfig RouterFunc)
    (router : MessageRouter) (inputs : List DispatcherInput) :
    config.Answers router inputs ↔ config.Answerable router inputs := by
  induction inputs generalizing router with
  | nil => exact Iff.rfl
  | cons input inputs inductionHypothesis =>
      exact and_congr turn_answers_iff (inductionHypothesis _)

/-- One main command, whose only handler has assistant command 2. -/
def single : DispatcherConfig Unit where
  assertions := true
  platPacks mainc := if mainc = 1 then some (.mainAss 1 0) else none
  routersTrans := some fun mainc => if mainc = 1 then some fun assc =>
    if assc = 2 then some () else none else none

/-- A packet which its reply coroutine waits for. -/
def awaited (body : Bytes) (outcome : HandlerOutcome) : DispatcherInput :=
  ⟨[(3, 4)], ⟨3, 1, ⟨4, body⟩⟩, outcome⟩

/-- A body of three bytes and a handler that throws are not replied to; a head without a
handler ends the program. -/
theorem dispatcher_unanswered :
    ¬ single.Answers .new [awaited [1, 2, 3] (.value [])] ∧
      ¬ single.Answers .new [awaited [0, 0, 0, 1, 0, 0, 0, 2] .thrown] ∧
      ¬ single.Answers .new [awaited [0, 0, 0, 1, 0, 0, 0, 9] (.value [])] := by
  have short : (single.turn .new (awaited [1, 2, 3] (.value []))).replies = [] := by decide
  have thrown : (single.turn .new (awaited [0, 0, 0, 1, 0, 0, 0, 2] .thrown)).replies = [] := by
    decide
  have unknown : (single.turn .new (awaited [0, 0, 0, 1, 0, 0, 0, 9] (.value []))).halt =
      some .assertion := by decide
  refine ⟨?_, ?_, ?_⟩
  · rintro ⟨⟨_, ⟨strrep, replied⟩, _⟩, _⟩
    rw [short] at replied
    cases replied
  · rintro ⟨⟨_, ⟨strrep, replied⟩, _⟩, _⟩
    rw [thrown] at replied
    cases replied
  · rintro ⟨⟨_, _, running⟩, _⟩
    rw [unknown] at running
    cases running

end DispatcherConfig
end SM.Network
