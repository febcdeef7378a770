import SM.Inc.ReqReps
import SM.Inc.TemplateFuncs

/-!
# Route templates

A template makes a route from the functions of a class. The JSON reader and writer
and `executeQuery` are parameters of a route; its calls of `executeQuery` are
recorded in `RouterRun`. `answers_iff` says which templates answer with what the
database replied.
-/

namespace SM.Inc

open SM.Utils

/-- What a route calls. -/
structure RouterCalls (Req Rep : Type) where
  myJsonParseFromString : Bytes → Option Req
  myToString : Rep → Bytes
  /-- The reply after a query, which was given the request, the reply and an operation. -/
  executeQuery : Req → Rep → Int32 → Rep

/-- The lambda of a route, after `co_return`. -/
structure RouterRun (Req Rep : Type) where
  queries : List (Req × Int32)
  ret : Rep
  strret : Bytes

variable {Req Rep : Type} [Request Req] [Reply Rep]

/-- A token in the header replaces the one of the request. -/
def withToken (token : Bytes) (req : Req) : Req :=
  if token.isEmpty then req else Request.setToken token req

/-- `T_ROUTER_NEED_CACHE_DB_JSON`. -/
def routerNeedCacheDbJson (localQuery : Req → Rep) (assdb : Int32) (calls : RouterCalls Req Rep)
    (msg token : Bytes) : RouterRun Req Rep :=
  match calls.myJsonParseFromString msg with
  | none =>
      let ret := Reply.setCode StatusCode.invalidJson.toInt Reply.initial
      ⟨[], ret, calls.myToString ret⟩
  | some req =>
      let req := withToken token req
      let ret := localQuery req
      if Reply.code ret = StatusCode.needNextRouter.toInt then
        let ret := calls.executeQuery req ret assdb
        ⟨[(req, assdb)], ret, calls.myToString ret⟩
      else ⟨[], ret, calls.myToString ret⟩

/-- `T_ROUTER_NEED_DB_JSON`. -/
def routerNeedDbJson (assdb : Int32) (calls : RouterCalls Req Rep) (msg token : Bytes) :
    RouterRun Req Rep :=
  let answer (queries : List (Req × Int32)) (ret : Rep) : RouterRun Req Rep :=
    ⟨queries, ret,
      if Reply.code ret = StatusCode.needNextRouter.toInt then [] else calls.myToString ret⟩
  match calls.myJsonParseFromString msg with
  | none => answer [] (Reply.setCode StatusCode.invalidJson.toInt Reply.initial)
  | some req =>
      let req := withToken token req
      answer [(req, assdb)] (calls.executeQuery req Reply.initial assdb)

/-- The token which a route checks. -/
theorem token_withToken (token : Bytes) (req : Req) :
    Request.token (withToken token req) = if token.isEmpty then Request.token req else token := by
  unfold withToken
  split
  · rfl
  · exact Request.token_setToken token req

variable {localQuery : Req → Rep} {assdb : Int32} {calls : RouterCalls Req Rep} {msg token : Bytes}
  {req : Req}

/-- The database is asked if and only if the local query says so. -/
theorem queries_ne_nil_iff (parses : calls.myJsonParseFromString msg = some req) :
    (routerNeedCacheDbJson localQuery assdb calls msg token).queries ≠ [] ↔
      Reply.code (localQuery (withToken token req)) = StatusCode.needNextRouter.toInt := by
  simp only [routerNeedCacheDbJson, parses]
  split <;> simp_all

/-- Without a query the reply is that of the local query. -/
theorem ret_of_local (parses : calls.myJsonParseFromString msg = some req)
    (final : Reply.code (localQuery (withToken token req)) ≠ StatusCode.needNextRouter.toInt) :
    (routerNeedCacheDbJson localQuery assdb calls msg token).ret =
      localQuery (withToken token req) := by
  simp only [routerNeedCacheDbJson, parses, final, if_false]

/-- What is sent is the reply as text. -/
theorem strret_eq :
    (routerNeedCacheDbJson localQuery assdb calls msg token).strret =
      calls.myToString (routerNeedCacheDbJson localQuery assdb calls msg token).ret := by
  unfold routerNeedCacheDbJson
  cases calls.myJsonParseFromString msg with
  | none => rfl
  | some req =>
      dsimp only
      split <;> rfl

/-! ## Functions with several parameters -/

/-- The parameters of a function, of which the first one has a token. -/
structure Parameters where
  first : Codec
  rest : List Codec
  request : Request first.Arg

namespace Parameters

/-- The parameters as a tuple. -/
abbrev codecs (parameters : Parameters) : List Codec :=
  parameters.first :: parameters.rest

/-- A token in the header replaces the one of the first argument. -/
def withToken (parameters : Parameters) (token : Bytes) (args : Tuple parameters.codecs) :
    Tuple parameters.codecs :=
  letI := parameters.request
  (SM.Inc.withToken token args.1, args.2)

end Parameters

section Overloads

variable {DBReq Inst : Type} (parameters : Parameters)

/-- The body which the overloads of `T_ROUTER_NEED_DBREQ_DB_JSON` have in common. -/
def routerNeedDbreqDbJson (callable : Callable) (func : Tuple callable.args → DBReq)
    (replace : Tuple callable.args → Tuple callable.args) (assdb : Int32)
    (calls : RouterCalls DBReq Rep) (msg : StringView) : RouterRun DBReq Rep :=
  let ret : Rep := Reply.initial
  match unpackArgs callable msg with
  | (false, _) =>
      let ret := Reply.setCode StatusCode.invalidJson.toInt ret
      ⟨[], ret, calls.myToString ret⟩
  | (true, req) =>
      let dbreq := func (replace req)
      -- The branch declares a reply of its own, so the query does not change the one that is sent.
      let _ret := calls.executeQuery dbreq Reply.initial assdb
      ⟨[(dbreq, assdb)], ret, calls.myToString ret⟩

/-- `T_ROUTER_NEED_DBREQ_DB_JSON` for a member function. -/
def routerNeedDbreqDbJsonMember (func : Inst → Tuple parameters.codecs → DBReq) (inst : Inst)
    (assdb : Int32) (calls : RouterCalls DBReq Rep) (msg : StringView) (token : Bytes) :
    RouterRun DBReq Rep :=
  routerNeedDbreqDbJson (.member Inst parameters.codecs) (func inst) (parameters.withToken token)
    assdb calls msg

/-- `T_ROUTER_NEED_DBREQ_DB_JSON` for a function. -/
def routerNeedDbreqDbJsonFunction (func : Tuple parameters.codecs → DBReq) (assdb : Int32)
    (calls : RouterCalls DBReq Rep) (msg : StringView) (token : Bytes) : RouterRun DBReq Rep :=
  routerNeedDbreqDbJson (.function parameters.codecs) func (parameters.withToken token) assdb calls
    msg

/-- `ROUTER_QUERY`, where `invalidJSON` is the text of an `invalidJSONRep`. Its loop is that of
`unpackArgs` over any number of parameters. In the source the request and the reply of the database
have one type. -/
def routerQuery (func : Tuple parameters.codecs → DBReq) (invalidJSON : Bytes) (asstype : Int32)
    (calls : RouterCalls DBReq Rep) (msg : StringView) (token : Bytes) : RouterRun DBReq Rep :=
  let ret : Rep := Reply.initial
  let walked := forEach parameters.codecs ⟨msg, 0, true, 0⟩
  if !walked.1.bret then ⟨[], ret, invalidJSON⟩
  else
    let dbreq := func (parameters.withToken token walked.2)
    -- A reply of its own again.
    let _ret := calls.executeQuery dbreq Reply.initial asstype
    ⟨[(dbreq, asstype)], ret, calls.myToString ret⟩

end Overloads

/-! ## The answers of the templates -/

/-- A route which asks the database, by the template that makes it. -/
inductive QueryRoute (DBReq Rep : Type) where
  | needDbJson
  | needCacheDbJson (localQuery : DBReq → Rep)
  | needDbreqDbJsonMember (parameters : Parameters) (Inst : Type)
      (func : Inst → Tuple parameters.codecs → DBReq) (inst : Inst)
  | needDbreqDbJsonFunction (parameters : Parameters) (func : Tuple parameters.codecs → DBReq)
  | routerQuery (parameters : Parameters) (func : Tuple parameters.codecs → DBReq)
      (invalidJSON : Bytes)

namespace QueryRoute

/-- The templates which declare the reply a second time. -/
def redeclares : QueryRoute Req Rep → Bool
  | needDbJson | needCacheDbJson _ => false
  | needDbreqDbJsonMember .. | needDbreqDbJsonFunction .. | routerQuery .. => true

def run (route : QueryRoute Req Rep) (op : Int32) (calls : RouterCalls Req Rep)
    (msg : StringView) (token : Bytes) : RouterRun Req Rep :=
  match route with
  | needDbJson => routerNeedDbJson op calls msg.text token
  | needCacheDbJson localQuery => routerNeedCacheDbJson localQuery op calls msg.text token
  | needDbreqDbJsonMember parameters _ func inst =>
      routerNeedDbreqDbJsonMember parameters func inst op calls msg token
  | needDbreqDbJsonFunction parameters func =>
      routerNeedDbreqDbJsonFunction parameters func op calls msg token
  | routerQuery parameters func invalidJSON =>
      SM.Inc.routerQuery parameters func invalidJSON op calls msg token

/-- The arguments if all of them parse, with the token of the header in the first one. -/
def received (parameters : Parameters) (token : Bytes) :
    Bool × Tuple parameters.codecs → Option (Tuple parameters.codecs)
  | (false, _) => none
  | (true, args) => some (parameters.withToken token args)

/-- The request which the database has to be asked, if the parameters parse and the local query
does not answer it. -/
def passedOn (route : QueryRoute Req Rep) (calls : RouterCalls Req Rep) (msg : StringView)
    (token : Bytes) : Option Req :=
  match route with
  | needDbJson => (calls.myJsonParseFromString msg.text).map (withToken token)
  | needCacheDbJson localQuery =>
      ((calls.myJsonParseFromString msg.text).map (withToken token)).filter fun req =>
        Reply.code (localQuery req) = StatusCode.needNextRouter.toInt
  | needDbreqDbJsonMember parameters Inst func inst =>
      (received parameters token (unpackArgs (.member Inst parameters.codecs) msg)).map (func inst)
  | needDbreqDbJsonFunction parameters func =>
      (received parameters token (unpackArgs (.function parameters.codecs) msg)).map func
  | routerQuery parameters func _ =>
      let walked := forEach parameters.codecs ⟨msg, 0, true, 0⟩
      (received parameters token (walked.1.bret, walked.2)).map func

/-- What `executeQuery` leaves in the reply that it is given. -/
def left (route : QueryRoute Req Rep) (calls : RouterCalls Req Rep) (op : Int32) (req : Req) :
    Rep :=
  match route with
  | needCacheDbJson localQuery => calls.executeQuery req (localQuery req) op
  | _ => calls.executeQuery req Reply.initial op

/-- The text for a reply of the database. -/
def text (route : QueryRoute Req Rep) (calls : RouterCalls Req Rep) (rep : Rep) : Bytes :=
  match route with
  | needDbJson =>
      if Reply.code rep = StatusCode.needNextRouter.toInt then [] else calls.myToString rep
  | _ => calls.myToString rep

/-- A route asks the database once and answers with its reply. -/
structure Answers (route : QueryRoute Req Rep) (op : Int32) (calls : RouterCalls Req Rep)
    (msg : StringView) (token : Bytes) (req : Req) : Prop where
  queries : (route.run op calls msg token).queries = [(req, op)]
  strret : (route.run op calls msg token).strret = route.text calls (route.left calls op req)

variable {route : QueryRoute Req Rep} {op : Int32} {msg : StringView}

/-- A route which only queries answers with the reply of its query. -/
theorem run_needDbJson (asks : passedOn (.needDbJson : QueryRoute Req Rep) calls msg token =
    some req) : Answers .needDbJson op calls msg token req := by
  obtain ⟨parsed, parses, rfl⟩ := Option.map_eq_some_iff.mp asks
  constructor
  · simp only [run, routerNeedDbJson, parses]
  · simp only [run, routerNeedDbJson, parses]
    rfl

/-- A route with a cache answers with the reply of its query, where it passes the request on. -/
theorem run_needCacheDbJson (asks : passedOn (.needCacheDbJson localQuery) calls msg token =
    some req) : Answers (.needCacheDbJson localQuery) op calls msg token req := by
  obtain ⟨found, next⟩ := Option.filter_eq_some_iff.mp asks
  obtain ⟨parsed, parses, rfl⟩ := Option.map_eq_some_iff.mp found
  have asksNext := of_decide_eq_true next
  constructor
  · simp only [run, routerNeedCacheDbJson, parses, asksNext, if_true]
  · simp only [run, routerNeedCacheDbJson, parses, asksNext, if_true]
    rfl

/-- What a template sends that declares the reply a second time. -/
def unassigned (calls : RouterCalls Req Rep) (op : Int32) (req : Req) : RouterRun Req Rep :=
  ⟨[(req, op)], Reply.initial, calls.myToString Reply.initial⟩

omit [Request Req] in
/-- A route which builds its request leaves the reply of its query unassigned. -/
theorem run_dbreq {callable : Callable} {func : Tuple callable.args → Req}
    {replace : Tuple callable.args → Tuple callable.args} {args : Tuple callable.args}
    (unpacks : unpackArgs callable msg = (true, args)) :
    routerNeedDbreqDbJson callable func replace op calls msg =
      unassigned calls op (func (replace args)) := by
  simp only [routerNeedDbreqDbJson, unpacks]
  rfl

/-- The arguments which arrive are those read, with the token in its place. -/
theorem received_eq_some {parameters : Parameters} {unpacked : Bool × Tuple parameters.codecs}
    {args : Tuple parameters.codecs} (given : received parameters token unpacked = some args) :
    ∃ read, unpacked = (true, read) ∧ parameters.withToken token read = args := by
  obtain ⟨bret, read⟩ := unpacked
  cases bret with
  | false => cases given
  | true => exact ⟨read, rfl, Option.some.inj given⟩

/-- A route which declares its reply again leaves the outer one unassigned. -/
theorem run_redeclares (redeclared : route.redeclares = true)
    (asks : route.passedOn calls msg token = some req) :
    route.run op calls msg token = unassigned calls op req := by
  cases route with
  | needDbJson => cases redeclared
  | needCacheDbJson localQuery => cases redeclared
  | needDbreqDbJsonMember parameters Inst func inst =>
      obtain ⟨args, given, rfl⟩ := Option.map_eq_some_iff.mp asks
      obtain ⟨read, unpacks, rfl⟩ := received_eq_some given
      exact run_dbreq unpacks
  | needDbreqDbJsonFunction parameters func =>
      obtain ⟨args, given, rfl⟩ := Option.map_eq_some_iff.mp asks
      obtain ⟨read, unpacks, rfl⟩ := received_eq_some given
      exact run_dbreq unpacks
  | routerQuery parameters func invalidJSON =>
      obtain ⟨args, given, rfl⟩ := Option.map_eq_some_iff.mp asks
      obtain ⟨read, walked, rfl⟩ := received_eq_some given
      obtain ⟨bret, rfl⟩ := Prod.mk.inj walked
      simp only [run, SM.Inc.routerQuery, bret]
      rfl

/-- Such a route answers its query exactly when what is left of the reply is written like the
initial one. -/
theorem answers_redeclared (redeclared : route.redeclares = true)
    (asks : route.passedOn calls msg token = some req) :
    route.Answers op calls msg token req ↔
      calls.myToString (route.left calls op req) = calls.myToString Reply.initial := by
  have sent : route.run op calls msg token = unassigned calls op req :=
    run_redeclares redeclared asks
  have shown : route.text calls (route.left calls op req) =
      calls.myToString (route.left calls op req) := by
    cases route <;> first | rfl | cases redeclared
  constructor
  · intro answers
    rw [← shown, ← answers.strret, sent]
    rfl
  · intro same
    refine ⟨by rw [sent]; rfl, ?_⟩
    rw [shown, same, sent]
    rfl

end QueryRoute

/-- A route answers with the reply of the database if its template declares one reply, and
otherwise only where the text is that of a reply which nobody assigned. -/
theorem QueryRoute.answers_iff (route : QueryRoute Req Rep) (op : Int32)
    (calls : RouterCalls Req Rep) (msg : StringView) (token : Bytes) (req : Req)
    (asks : route.passedOn calls msg token = some req) :
    route.Answers op calls msg token req ↔
      (route.redeclares = true →
        calls.myToString (route.left calls op req) = calls.myToString Reply.initial) := by
  cases redeclared : route.redeclares with
  | true => simp [answers_redeclared redeclared asks]
  | false =>
      refine iff_of_true ?_ fun other => Bool.noConfusion other
      cases route with
      | needDbJson => exact run_needDbJson asks
      | needCacheDbJson localQuery => exact run_needCacheDbJson asks
      | needDbreqDbJsonMember => cases redeclared
      | needDbreqDbJsonFunction => cases redeclared
      | routerQuery => cases redeclared

/-- The JSON of a reply with nothing but a code of five digits. -/
def codeText (code : Int32) : Bytes :=
  let digits := (List.range 5).reverse.map fun place =>
    48 + UInt8.ofNat (code.toNatClampNeg / 10 ^ place % 10)
  [123, 34, 99, 111, 100, 101, 34, 58] ++ digits ++ [125]

/-- A request which is read from the empty object. -/
def emptyReq : Parameters where
  first := .ofText (fun _ => [123, 125])
    (fun text => if text = [123, 125] then some ⟨[], [], [], []⟩ else none)
    (⟨[], [], [], []⟩ : DelSysAdminReq)
  rest := []
  request := inferInstanceAs (Request DelSysAdminReq)

/-- Removing all admins of nobody, as the database is asked. -/
def delRoute : QueryRoute DelSysAdminReq DelSysAdminRep :=
  .needDbreqDbJsonFunction emptyReq fun args => args.1

/-- The empty object, as a string in memory. -/
def braces : StringView := .within [] [123, 125] [0]

/-- Calls where the database cannot be reached. -/
def failedCalls : RouterCalls DelSysAdminReq DelSysAdminRep where
  myJsonParseFromString text := if text = [123, 125] then some ⟨[], [], [], []⟩ else none
  myToString rep := codeText rep.code
  executeQuery _ rep _ := { rep with code := StatusCode.sendDBQueryExecFailed.toInt }

/-- The client is told that a query succeeded which was never sent. -/
theorem QueryRoute.failed_query_answered_ok :
    delRoute.passedOn failedCalls braces [7] = some ⟨[], [], [7], []⟩ ∧
      (delRoute.run 10 failedCalls braces [7]).strret = codeText 20000 ∧
      ¬delRoute.Answers 10 failedCalls braces [7] ⟨[], [], [7], []⟩ := by
  refine ⟨rfl, by decide, ?_⟩
  intro answers
  exact absurd answers.strret (by decide)

/-- A query which fails. -/
theorem QueryRoute.answers_iff_failed :
    delRoute.Answers 10 failedCalls braces [7] ⟨[], [], [7], []⟩ ↔
      (delRoute.redeclares = true →
        failedCalls.myToString (delRoute.left failedCalls 10 ⟨[], [], [7], []⟩) =
          failedCalls.myToString Reply.initial) :=
  delRoute.answers_iff 10 failedCalls braces [7] ⟨[], [], [7], []⟩ rfl

end SM.Inc
