import SM.Network.ProcessViews

/-!
# One exchange

What becomes of one call of `reqrep`, from the call to its return. A `Place` says
where its request or reply stands and whether the call was told of its send. It
determines what the two processes and the two wires hold of its number: `caller`,
`server`, `onWire` and `onWireBack`.
-/

namespace SM.Network

open SM.Configs SM.Utils

variable {RouterFunc : Type}

/-- The body starts with a complete head whose commands have a handler. -/
def DispatcherConfig.HasHandler (config : DispatcherConfig RouterFunc) (mainc : Int)
    (body : Bytes) : Prop :=
  ∃ plat, config.platPacks mainc = some plat ∧ 0 < plat.len ∧ plat.len ≤ body.length ∧
    ∃ funcs func, getRouterTransByMainC config.routersTrans
        (plat.unpack (body.take plat.len)).2.getMain = some funcs ∧
      funcs (plat.unpack (body.take plat.len)).2.getAss = some func

/-- The reply of the dispatcher to a body, for some result of the handler it is given to. -/
def DispatcherConfig.RepliesTo (config : DispatcherConfig RouterFunc) (mainc : Int)
    (body strrep : Bytes) : Prop :=
  ∃ plat func strreq ret, config.openPacket mainc body = .calling plat func strreq ∧
    (DispatcherConfig.closeCall plat (.value ret) : DispatchTurn RouterFunc) = .replying strrep

/-- A body with a handler is given to it. -/
theorem DispatcherConfig.HasHandler.calling {config : DispatcherConfig RouterFunc} {mainc : Int}
    {body : Bytes} (assertions : config.assertions = true)
    (handler : config.HasHandler mainc body) :
    ∃ plat func strreq, config.openPacket mainc body = .calling plat func strreq := by
  obtain ⟨plat, found, head, enough, funcs, func, routers, registered⟩ := handler
  have unpacked : config.unpackHead plat body =
      (true, (plat.unpack (body.take plat.len)).2) := by
    rw [unpackHead, if_pos assertions, ← PlatformPack.unpack_take enough]
  refine ⟨(plat.unpack (body.take plat.len)).2, func,
    body.drop (plat.unpack (body.take plat.len)).2.len, ?_⟩
  have long : ¬ body.length < plat.len := Nat.not_lt.mpr enough
  simp [openPacket, found, head, long, unpacked, findFunc, routers, registered]

/-- A body with a handler has a head. -/
theorem DispatcherConfig.HasHandler.eight_le {config : DispatcherConfig RouterFunc} {mainc : Int}
    {body : Bytes} (handler : config.HasHandler mainc body) : 8 ≤ body.length := by
  obtain ⟨plat, _, head, enough, _⟩ := handler
  cases plat with
  | mainAss main ass => exact enough
  | noMainAss main => cases head

/-- Only a pack with a head is called with. -/
theorem DispatcherConfig.len_of_calling {config : DispatcherConfig RouterFunc} {mainc : Int}
    {body strreq : Bytes} {plat : PlatformPack} {func : RouterFunc}
    (opened : config.openPacket mainc body = .calling plat func strreq) : plat.len = 8 := by
  have found {plat other : PlatformPack} {strreq other' : Bytes} {func : RouterFunc}
      (calls : config.findFunc plat other' = .calling other func strreq) : other = plat := by
    simp only [findFunc, failAssert] at calls
    split at calls
    · cases calls
    · split at calls <;> cases calls
      rfl
  unfold openPacket at opened
  split at opened
  · simp only [failAssert] at opened
    cases opened
  · rename_i pack _
    split at opened
    · rename_i head
      split at opened
      · cases opened
      · cases pack with
        | noMainAss main => cases head
        | mainAss main ass =>
            simp only [unpackHead, PlatformPack.unpack] at opened
            split at opened
            · cases opened
            · rename_i unpacked
              rw [found opened]
              split at unpacked
              · split at unpacked <;> cases unpacked
                rfl
              · cases unpacked
                rfl
    · cases opened

/-- The reply of a handler has a head in front. -/
theorem DispatcherConfig.RepliesTo.eight_le {config : DispatcherConfig RouterFunc} {mainc : Int}
    {body strrep : Bytes} (replies : config.RepliesTo mainc body strrep) : 8 ≤ strrep.length := by
  obtain ⟨plat, func, strreq, ret, opened, closed⟩ := replies
  have head := config.len_of_calling opened
  cases plat with
  | noMainAss main => cases head
  | mainAss main ass =>
      simp only [closeCall, PlatformPack.pack, head, List.length_replicate, ne_eq, not_true,
        if_false, DispatchTurn.replying.injEq] at closed
      have size := congrArg List.length closed
      simp only [packuint32, List.length_append, length_htonl] at size
      omega

/-- What the caller knows of the send of its request. -/
inductive Notice where
  /-- The frame is sent and the sender loop not resumed. -/
  | unsent
  /-- The send-complete signal stands in the router. -/
  | signalled
  /-- The call waits for its reply. -/
  | seen

/-- Where the request or the reply stands once the request is on the wire. -/
inductive Transit (RouterFunc : Type) where
  | wire
  | spawned
  | queueing
  | dataio
  | calling (plat : PlatformPack) (func : RouterFunc) (strreq : Bytes)
  | answered (strrep : Bytes)
  | replying (strrep : Bytes)
  | wireBack (strrep : Bytes)
  | arrived (strrep : Bytes)

/-- The stages of an exchange. -/
inductive Place (RouterFunc : Type) where
  /-- No call has the number. -/
  | unissued
  | queueing (req : Bytes)
  | dataapp (req : Bytes)
  | sending (req : Bytes)
  | sent (req : Bytes) (notice : Notice) (transit : Transit RouterFunc)
  | returned (req strrep : Bytes)

namespace Notice

def callStage : Notice → CallStage
  | unsent | signalled => .waitSend
  | seen => .waitRep

def sender (sock : UInt32) (msg : NMessage) : Notice → SenderStage
  | unsent => .sent sock msg true
  | signalled | seen => .idle

def sendComplete : Notice → Signal Bool
  | unsent => .waiting
  | signalled | seen => .sent true

end Notice

namespace Transit

/-- The caller's entry for the reply. -/
def netRep (no : UInt32) : Transit RouterFunc → Signal NMessage
  | arrived strrep => .sent ⟨no, strrep⟩
  | _ => .waiting

/-- The view of the process which serves the request. -/
def server (sock : UInt32) (mainc : Int) (msg : NMessage) : Transit RouterFunc → View RouterFunc
  | wire => {}
  | spawned => { replies := [⟨sock, msg, false, .spawned⟩] }
  | queueing => { replies := [⟨sock, msg, true, .queueing⟩], appRep := some .waiting }
  | dataio => {
      replies := [⟨sock, msg, true, .waiting⟩]
      appRep := some .waiting
      dataio := [⟨sock, mainc, msg⟩] }
  | calling plat func strreq => {
      replies := [⟨sock, msg, true, .waiting⟩]
      appRep := some .waiting
      dispatcher := .calling ⟨sock, mainc, msg⟩ plat func strreq }
  | answered strrep => {
      replies := [⟨sock, msg, true, .waiting⟩]
      appRep := some (.sent ⟨msg.no, strrep⟩)
      handled := [⟨sock, msg, strrep⟩] }
  | replying strrep => {
      replies := [⟨sock, msg, true, .sending ⟨msg.no, strrep⟩⟩]
      appRep := some (.sent ⟨msg.no, strrep⟩)
      handled := [⟨sock, msg, strrep⟩] }
  | wireBack strrep | arrived strrep => {
      replies := [⟨sock, msg, true, .finished⟩]
      appRep := some (.sent ⟨msg.no, strrep⟩)
      handled := [⟨sock, msg, strrep⟩] }

def onWire (msg : NMessage) : Transit RouterFunc → List NMessage
  | wire => [msg]
  | _ => []

def onWireBack (no : UInt32) : Transit RouterFunc → List NMessage
  | wireBack strrep => [⟨no, strrep⟩]
  | _ => []

/-- What is held of the request belongs to it. -/
def Sound (config : DispatcherConfig RouterFunc) (mainc : Int) (req : Bytes) :
    Transit RouterFunc → Prop
  | calling plat func strreq => config.openPacket mainc req = .calling plat func strreq
  | answered strrep | replying strrep | wireBack strrep | arrived strrep =>
      config.RepliesTo mainc req strrep
  | _ => True

end Transit

namespace Place

/-- The view of the process which makes the call. -/
def caller (sock no : UInt32) : Place RouterFunc → View RouterFunc
  | unissued => {}
  | queueing req => {
      calls := [⟨sock, no, req, true, .queueing⟩]
      sendComplete := some .waiting
      netRep := some .waiting }
  | dataapp req => {
      calls := [⟨sock, no, req, true, .waitSend⟩]
      dataapp := [(sock, ⟨no, req⟩)]
      sendComplete := some .waiting
      netRep := some .waiting }
  | sending req => {
      calls := [⟨sock, no, req, true, .waitSend⟩]
      sender := .sending sock ⟨no, req⟩
      sendComplete := some .waiting
      netRep := some .waiting }
  | sent req notice transit => {
      calls := [⟨sock, no, req, true, notice.callStage⟩]
      sender := notice.sender sock ⟨no, req⟩
      sendComplete := some notice.sendComplete
      netRep := some (transit.netRep no) }
  | returned req strrep => { calls := [⟨sock, no, req, true, .returned (some strrep)⟩] }

/-- The view of the process which serves the request. -/
def server (sock : UInt32) (mainc : Int) (no : UInt32) : Place RouterFunc → View RouterFunc
  | sent req _ transit => transit.server sock mainc ⟨no, req⟩
  | returned req strrep => (Transit.arrived strrep).server sock mainc ⟨no, req⟩
  | _ => {}

/-- The frames from the caller to the server. -/
def onWire (no : UInt32) : Place RouterFunc → List NMessage
  | sent req _ transit => transit.onWire ⟨no, req⟩
  | _ => []

/-- The frames from the server to the caller. -/
def onWireBack (no : UInt32) : Place RouterFunc → List NMessage
  | sent _ _ transit => transit.onWireBack no
  | _ => []

/-- The request has a handler, and what is held of it belongs to it. -/
def Sound (config : DispatcherConfig RouterFunc) (mainc : Int) : Place RouterFunc → Prop
  | unissued => True
  | queueing req | dataapp req | sending req => config.HasHandler mainc req
  | sent req _ transit => config.HasHandler mainc req ∧ transit.Sound config mainc req
  | returned req strrep => config.RepliesTo mainc req strrep

end Place
end SM.Network
