import SM.Network.MainCommands

/-!
# Database connections

`DBConnectManager::executeQuery` up to the send of its request and from the reply
on. Between them stands the dispatcher of the database server: `executeQuery_correct`
follows one query through the encoder and the decoder at each end.
-/

namespace SM.Database

open SM.Configs SM.Network SM.Utils

/-- `MainCmd::DBQuery`. -/
def dbQuery : Int := 6

/-- How `executeQuery` comes to its request. -/
inductive QueryStart where
  /-- The request is given to `executeQueryTCP` or `executeQueryNNG`. -/
  | sending (packer : PlatformPack) (pstrreq : Bytes)
  /-- `co_return bret` after a failed `pack`. -/
  | refused
  /-- An assertion failed or a null pointer was dereferenced. -/
  | aborted
deriving DecidableEq

/-- `executeQuery` up to its request, which is resized before the assistant command is set. -/
def startQuery (assertions : Bool) (platPacks : PlatPacks) (op : Int32) (strreq : Bytes) :
    QueryStart :=
  match platPacks dbQuery with
  | none => .aborted
  | some packer =>
      let pstrreq := List.replicate packer.len 0
      match (packer.setAss op).pack pstrreq with
      | (true, pstrreq) => .sending (packer.setAss op) (pstrreq ++ strreq)
      | (false, _) => if assertions then .aborted else .refused

/-- What `executeQuery` makes of the reply. -/
inductive QueryEnd where
  /-- `sendDBQueryExecFailed`. -/
  | execFailed
  /-- The text goes to `my_json_parse_from_string`. -/
  | parsing (text : Bytes)
  /-- The text would end before it begins. -/
  | outOfRange
deriving DecidableEq

def finishQuery (packer : PlatformPack) (platformRep : Option Bytes) : QueryEnd :=
  match platformRep with
  | none => .execFailed
  | some platformRep =>
      if platformRep.length < packer.headLen then .outOfRange
      else .parsing (platformRep.drop packer.headLen)

/-- The head of a database query. -/
def queryHead (op : Int32) : Bytes := packuint32 6 ++ packuint32 op.toUInt32

/-- The head of a query has eight bytes. -/
@[simp] theorem length_queryHead (op : Int32) : (queryHead op).length = 8 := by
  simp [queryHead, packuint32]

/-- A pack with main command `DBQuery` has its bits. -/
theorem main_of_dbQuery {main ass : UInt32}
    (own : (PlatformPack.mainAss main ass).getMain = dbQuery) : main = 6 := by
  rw [← UInt32.toNat_inj]
  simp only [PlatformPack.getMain, intOfBits, dbQuery] at own
  have bound := main.toNat_lt
  split at own <;> simp only [UInt32.reduceToNat] <;> omega

/-- A query is packed behind the head of the database and its operation. -/
theorem startQuery_eq {packs : List PlatformPack} {main ass : UInt32}
    (dealer : dealers packs dbQuery = some (.mainAss main ass)) (assertions : Bool) (op : Int32)
    (strreq : Bytes) :
    startQuery assertions (dealers packs) op strreq =
      .sending (.mainAss 6 op.toUInt32) (queryHead op ++ strreq) := by
  have own := main_of_dbQuery (getMain_dealers dealer)
  subst own
  simp [startQuery, dealer, PlatformPack.setAss, PlatformPack.pack, PlatformPack.len, queryHead]

/-- The head of a query is unpacked to what it was packed from. -/
theorem unpack_queryHead (main ass : UInt32) (op : Int32) (strreq : Bytes) :
    (PlatformPack.mainAss main ass).unpack ((queryHead op ++ strreq).take 8) =
      (true, .mainAss 6 op.toUInt32) := by
  rw [PlatformPack.unpack_mainAss main ass (by simp)]
  have first : (queryHead op ++ strreq).take 4 = htonl 6 := by
    simp [queryHead, packuint32, List.append_assoc]
  have second : ((queryHead op ++ strreq).drop 4).take 4 = htonl op.toUInt32 := by
    simp [queryHead, packuint32, List.append_assoc]
  rw [first, second, ntohl_htonl, ntohl_htonl]

variable {RouterFunc : Type} {packs : List PlatformPack} {routers : List (RouterTrans RouterFunc)}
  {main ass : UInt32} {func : RouterFunc}

/-- The server runs the handler of the query on the text of the query. -/
theorem openPacket_query (dealer : dealers packs dbQuery = some (.mainAss main ass)) {op : Int32}
    (handler : getRouterTrans (registered routers) dbQuery op.toInt = some func)
    (strreq : Bytes) :
    (dispatcherOf true packs routers).openPacket dbQuery (queryHead op ++ strreq) =
      .calling (.mainAss 6 op.toUInt32) func strreq := by
  rw [openPacket_calling_iff]
  refine ⟨_, dealer, Nat.zero_lt_succ 7, by simp [PlatformPack.len], ?_, ?_, ?_⟩
  · simp only [DispatcherConfig.unpackHead, dispatcherOf, if_true, PlatformPack.len]
    exact unpack_queryHead main ass op strreq
  · simp only [PlatformPack.getAss, intOfBits_toUInt32]
    exact handler
  · exact List.drop_left' (length_queryHead op)

/-- What the handler of a query returns is packed behind the head of its request. -/
theorem closeCall_query (op : Int32) (ret : Bytes) :
    (DispatcherConfig.closeCall (.mainAss 6 op.toUInt32) (.value ret) : DispatchTurn RouterFunc) =
      .replying (queryHead op ++ ret) := by
  simp [DispatcherConfig.closeCall, PlatformPack.pack, PlatformPack.len, queryHead]

/-- The server replies to a query with its head and the result of the handler. -/
theorem turn_query (dealer : dealers packs dbQuery = some (.mainAss main ass)) {op : Int32}
    (handler : getRouterTrans (registered routers) dbQuery op.toInt = some func)
    (strreq ret : Bytes) (router : MessageRouter) {input : DispatcherInput} {sock no : UInt32}
    (packet : input.packet = ⟨sock, dbQuery, ⟨no, queryHead op ++ strreq⟩⟩)
    (outcome : input.outcome = .value ret)
    (awaited : (input.arrive router).appRepSignals sock no = some .waiting) :
    ((dispatcherOf true packs routers).turn router input).replies =
        [(sock, ⟨no, queryHead op ++ ret⟩)] ∧
      ((dispatcherOf true packs routers).turn router input).halt = none := by
  have opened := openPacket_query dealer handler strreq
  have evaluated : (dispatcherOf true packs routers).assertions = true := rfl
  simp only [DispatcherConfig.turn, packet, opened, outcome, closeCall_query,
    DispatcherConfig.closePacket, DispatcherConfig.reply, evaluated, if_true,
    MessageRouter.notifyRecvAppRep, SignalTable.notify_of_waiting awaited, and_self]

/-- A query runs the handler of its operation on its text, and the output of the handler goes to
the parser of the client; request and reply have the same head. -/
theorem executeQuery_correct {RouterFunc : Type} (clientPacks serverPacks : List PlatformPack)
    (routers : List (RouterTrans RouterFunc)) (op : Int32) (strreq ret : Bytes)
    (func : RouterFunc)
    (client : ∃ main ass, dealers clientPacks dbQuery = some (.mainAss main ass))
    (server : ∃ main ass, dealers serverPacks dbQuery = some (.mainAss main ass))
    (handler : getRouterTrans (registered routers) dbQuery op.toInt = some func) :
    ∃ packer request plat,
      startQuery true (dealers clientPacks) op strreq = .sending packer request ∧
      (dispatcherOf true serverPacks routers).openPacket dbQuery request =
        .calling plat func strreq ∧
      ∀ (router : MessageRouter) (input : DispatcherInput) (sock no : UInt32),
        input.packet = ⟨sock, dbQuery, ⟨no, request⟩⟩ → input.outcome = .value ret →
        (input.arrive router).appRepSignals sock no = some .waiting →
        ∃ reply, ((dispatcherOf true serverPacks routers).turn router input).replies =
            [(sock, ⟨no, reply⟩)] ∧
          ((dispatcherOf true serverPacks routers).turn router input).halt = none ∧
          finishQuery packer (some reply) = .parsing ret ∧ request.take 8 = reply.take 8 := by
  obtain ⟨main, ass, client⟩ := client
  obtain ⟨main', ass', server⟩ := server
  refine ⟨_, _, _, startQuery_eq client true op strreq, openPacket_query server handler strreq, ?_⟩
  intro router input sock no packet outcome awaited
  obtain ⟨replies, halt⟩ := turn_query server handler strreq ret router packet outcome awaited
  refine ⟨_, replies, halt, ?_, ?_⟩
  · have whole : ¬ (queryHead op ++ ret).length < 8 := by simp
    simp only [finishQuery, PlatformPack.headLen, whole, if_false, QueryEnd.parsing.injEq]
    exact List.drop_left' (length_queryHead op)
  · rw [List.take_left' (length_queryHead op), List.take_left' (length_queryHead op)]

/-- A query with operation -1 reaches its handler, and its reply comes back. -/
theorem executeQuery_correct_negative :
    ∃ packer request plat,
      startQuery true (dealers [.mainAss 6 0]) (-1) [123, 125] = .sending packer request ∧
      (dispatcherOf true [.mainAss 6 0] [⟨6, -1, ()⟩]).openPacket dbQuery request =
        .calling plat () [123, 125] ∧
      ∀ (router : MessageRouter) (input : DispatcherInput) (sock no : UInt32),
        input.packet = ⟨sock, dbQuery, ⟨no, request⟩⟩ → input.outcome = .value [91, 93] →
        (input.arrive router).appRepSignals sock no = some .waiting →
        ∃ reply, ((dispatcherOf true [.mainAss 6 0] [⟨6, -1, ()⟩]).turn router input).replies =
            [(sock, ⟨no, reply⟩)] ∧
          ((dispatcherOf true [.mainAss 6 0] [⟨6, -1, ()⟩]).turn router input).halt = none ∧
          finishQuery packer (some reply) = .parsing [91, 93] ∧ request.take 8 = reply.take 8 :=
  executeQuery_correct [.mainAss 6 0] [.mainAss 6 0] [⟨6, -1, ()⟩] (-1) [123, 125] [91, 93] ()
    ⟨6, 0, rfl⟩ ⟨6, 0, rfl⟩ rfl

end SM.Database
