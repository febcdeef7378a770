import SM.Inc.HttpCmdTag

/-!
# Authorization routes

The routes of `DealAuth`. `lregist` and `llogin` send every request on to the
database; the other routes first check a token. `meets_iff` says when one of these
does with its token what it should do.
-/

namespace SM.Database

open SM.Inc SM.Utils

/-- `isjwttokenright`, whose parameter stands for the decoder and the verifier of `jwt`: false
also stands for an exception. -/
def isjwttokenright (verify : Bytes → Bool) (token : Bytes) : Bool :=
  if token.isEmpty then false else verify token

/-- The body of the routes which check a token. -/
def checked {Rep : Type} [Reply Rep] (verify : Bytes → Bool) (token : Bytes) : Rep :=
  let rep := Reply.initial
  let bret := isjwttokenright verify token
  if !bret then Reply.setCode StatusCode.jwtCheckFailed.toInt rep else rep

def lregist (_ : RegistReq) : RegistRep :=
  let rep : RegistRep := {}
  { rep with code := StatusCode.needNextRouter.toInt }

def llogin (_ : LoginReq) : LoginRep :=
  let rep : LoginRep := {}
  { rep with code := StatusCode.needNextRouter.toInt }

def laddSysAdmin (verify : Bytes → Bool) (req : AddSysAdminReq) : AddSysAdminRep :=
  checked verify req.token

def lgetSysAdmin (verify : Bytes → Bool) (req : GetSysAdminReq) : GetSysAdminRep :=
  checked verify req.token

def ldelSysAdmin (verify : Bytes → Bool) (req : DelSysAdminReq) : DelSysAdminRep :=
  checked verify req.token

def lgetUserGenInfo (verify : Bytes → Bool) (req : GetUserGenInfoReq) : GetUserGenInfoRep :=
  checked verify req.token

/-- The routes which check a token. -/
inductive GuardedRoute where
  | addSysAdmin
  | getSysAdmin
  | delSysAdmin
  | getUserGenInfo
deriving DecidableEq

namespace GuardedRoute

/-- The argument of the local query. -/
def Req : GuardedRoute → Type
  | addSysAdmin => AddSysAdminReq
  | getSysAdmin => GetSysAdminReq
  | delSysAdmin => DelSysAdminReq
  | getUserGenInfo => GetUserGenInfoReq

/-- The result of the local query. -/
def Rep : GuardedRoute → Type
  | addSysAdmin => AddSysAdminRep
  | getSysAdmin => GetSysAdminRep
  | delSysAdmin => DelSysAdminRep
  | getUserGenInfo => GetUserGenInfoRep

instance (route : GuardedRoute) : Request route.Req :=
  match route with
  | addSysAdmin => inferInstanceAs (Request AddSysAdminReq)
  | getSysAdmin => inferInstanceAs (Request GetSysAdminReq)
  | delSysAdmin => inferInstanceAs (Request DelSysAdminReq)
  | getUserGenInfo => inferInstanceAs (Request GetUserGenInfoReq)

instance (route : GuardedRoute) : Reply route.Rep :=
  match route with
  | addSysAdmin => inferInstanceAs (Reply AddSysAdminRep)
  | getSysAdmin => inferInstanceAs (Reply GetSysAdminRep)
  | delSysAdmin => inferInstanceAs (Reply DelSysAdminRep)
  | getUserGenInfo => inferInstanceAs (Reply GetUserGenInfoRep)

/-- The function which is given to `ROUTER_NEED_CACHE_DB_JSON3`. -/
def localQuery (verify : Bytes → Bool) : (route : GuardedRoute) → route.Req → route.Rep
  | addSysAdmin => laddSysAdmin verify
  | getSysAdmin => lgetSysAdmin verify
  | delSysAdmin => ldelSysAdmin verify
  | getUserGenInfo => lgetUserGenInfo verify

/-- The value of `AssDB` which is given to `ROUTER_NEED_CACHE_DB_JSON3`. -/
def assdb : GuardedRoute → Int32
  | addSysAdmin => 8
  | getSysAdmin => 9
  | delSysAdmin => 10
  | getUserGenInfo => 6

/-- A route, as the macro makes it. -/
def run (route : GuardedRoute) (verify : Bytes → Bool) (calls : RouterCalls route.Req route.Rep)
    (msg token : Bytes) : RouterRun route.Req route.Rep :=
  routerNeedCacheDbJson (route.localQuery verify) route.assdb calls msg token

/-- The token in force: the one of the header, or else the one of the request. -/
def effectiveToken (route : GuardedRoute) (token : Bytes) (req : route.Req) : Bytes :=
  if token.isEmpty then Request.token req else token

/-- The database is asked exactly for accepted tokens, and a rejected one is reported. -/
structure Meets (route : GuardedRoute) (verify : Bytes → Bool)
    (calls : RouterCalls route.Req route.Rep) (msg token : Bytes) (req : route.Req) : Prop where
  asks : (route.run verify calls msg token).queries ≠ [] ↔
    isjwttokenright verify (route.effectiveToken token req) = true
  rejects : isjwttokenright verify (route.effectiveToken token req) = false →
    Reply.code (route.run verify calls msg token).ret = StatusCode.jwtCheckFailed.toInt ∧
      (route.run verify calls msg token).strret =
        calls.myToString (route.run verify calls msg token).ret

end GuardedRoute

/-- A checked token decides between success and a failed check. -/
theorem code_checked {Rep : Type} [Reply Rep] (verify : Bytes → Bool) (token : Bytes) :
    Reply.code (checked verify token : Rep) =
      if isjwttokenright verify token then StatusCode.ok.toInt
      else StatusCode.jwtCheckFailed.toInt := by
  unfold checked
  cases isjwttokenright verify token <;> simp

/-- No route which checks a token asks for the next router. -/
theorem code_checked_ne {Rep : Type} [Reply Rep] (verify : Bytes → Bool) (token : Bytes) :
    Reply.code (checked verify token : Rep) ≠ StatusCode.needNextRouter.toInt := by
  rw [code_checked]
  split <;> rw [ne_eq, StatusCode.toInt_inj] <;> exact StatusCode.noConfusion

namespace GuardedRoute

/-- Every guarded route answers with the check of its token. -/
theorem localQuery_eq_checked (route : GuardedRoute) (verify : Bytes → Bool) (req : route.Req) :
    route.localQuery verify req = checked verify (Request.token req) := by
  cases route <;> rfl

/-- No guarded route hands its request on to the next router. -/
theorem code_localQuery_ne (route : GuardedRoute) (verify : Bytes → Bool) (req : route.Req) :
    Reply.code (route.localQuery verify req) ≠ StatusCode.needNextRouter.toInt := by
  rw [localQuery_eq_checked]
  exact code_checked_ne verify _

variable {route : GuardedRoute} {calls : RouterCalls route.Req route.Rep} {msg : Bytes}
  {req : route.Req}

/-- A route which checks a token never asks the database. -/
theorem queries_run (parses : calls.myJsonParseFromString msg = some req)
    (verify : Bytes → Bool) (token : Bytes) : (route.run verify calls msg token).queries = [] :=
  Decidable.not_not.mp (mt (queries_ne_nil_iff parses).mp (code_localQuery_ne route verify _))

/-- The code of the answer is decided by the token which counts for the route. -/
theorem code_run (parses : calls.myJsonParseFromString msg = some req)
    (verify : Bytes → Bool) (token : Bytes) :
    Reply.code (route.run verify calls msg token).ret =
      if isjwttokenright verify (route.effectiveToken token req) then StatusCode.ok.toInt
      else StatusCode.jwtCheckFailed.toInt := by
  rw [run, ret_of_local parses (code_localQuery_ne route verify _), localQuery_eq_checked,
    code_checked, token_withToken, effectiveToken]

end GuardedRoute

/-- A route does what it should do if and only if the token is rejected. -/
theorem GuardedRoute.meets_iff (route : GuardedRoute) (verify : Bytes → Bool)
    (calls : RouterCalls route.Req route.Rep) (msg token : Bytes) (req : route.Req)
    (parses : calls.myJsonParseFromString msg = some req) :
    route.Meets verify calls msg token req ↔
      isjwttokenright verify (route.effectiveToken token req) = false := by
  constructor
  · intro meets
    have never := meets.asks
    rw [queries_run parses] at never
    simpa using never
  · intro rejected
    refine ⟨by simp [queries_run parses, rejected], ?_⟩
    intro _
    refine ⟨?_, strret_eq⟩
    rw [code_run parses, rejected]
    rfl

/-- Calls which read every text as one request and write every reply as the empty text. -/
def fixedCalls {Req Rep : Type} (req : Req) : RouterCalls Req Rep where
  myJsonParseFromString _ := some req
  myToString _ := []
  executeQuery _ rep _ := rep

/-- A token which no verifier accepts. -/
theorem GuardedRoute.meets_iff_rejected :
    GuardedRoute.Meets .getSysAdmin (fun _ => false) (fixedCalls ⟨[], [], [7]⟩) [] []
        ⟨[], [], [7]⟩ ↔
      isjwttokenright (fun _ => false)
        (GuardedRoute.effectiveToken .getSysAdmin [] ⟨[], [], [7]⟩) = false :=
  GuardedRoute.meets_iff .getSysAdmin (fun _ => false) (fixedCalls ⟨[], [], [7]⟩) [] []
    ⟨[], [], [7]⟩ rfl

/-- With an accepted token no administrator is added, and the reply has the code `ok`. -/
theorem GuardedRoute.meets_accepted :
    ((GuardedRoute.run .addSysAdmin (fun _ => true) (fixedCalls ⟨[], [], [7], []⟩) [] []).queries =
        [] ∧
      Reply.code (GuardedRoute.run .addSysAdmin (fun _ => true)
        (fixedCalls ⟨[], [], [7], []⟩) [] []).ret = StatusCode.ok.toInt) ∧
      ¬ GuardedRoute.Meets .addSysAdmin (fun _ => true) (fixedCalls ⟨[], [], [7], []⟩) [] []
        ⟨[], [], [7], []⟩ := by
  refine ⟨⟨rfl, rfl⟩, ?_⟩
  intro meets
  exact meets.asks.mpr rfl rfl

end SM.Database
