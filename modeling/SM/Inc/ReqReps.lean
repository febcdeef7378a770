import SM.Utils.PackInt

/-!
# Requests and replies

The records of the user routes, with the fields that are reflected to JSON. Every
reply starts with the status code `ok`.
-/

namespace SM.Inc

open SM.Utils

/-- `statusCode`. -/
inductive StatusCode where
  | ok
  | invalidUserOrPhone
  | sqlExecuteFailed
  | jwtCheckFailed
  | registNameRepeat
  | wrongUserOrPhoneOrPass
  | invalidJson
  | networkError
  | sendDBQueryExecFailed
  | needNextRouter
  | maxCommStatusCode
deriving DecidableEq

/-- `magic_enum::enum_integer`. -/
def StatusCode.toInt : StatusCode → Int32
  | .ok => 20000
  | .invalidUserOrPhone => 30000
  | .sqlExecuteFailed => 30001
  | .jwtCheckFailed => 30002
  | .registNameRepeat => 30003
  | .wrongUserOrPhoneOrPass => 30004
  | .invalidJson => 40000
  | .networkError => 40001
  | .sendDBQueryExecFailed => 40002
  | .needNextRouter => 50000
  | .maxCommStatusCode => 80000

/-- Different codes have different numbers. -/
theorem StatusCode.toInt_inj (left right : StatusCode) :
    left.toInt = right.toInt ↔ left = right := by
  constructor
  · intro same
    cases left <;> cases right <;> first | rfl | exact absurd same (by decide)
  · intro same
    rw [same]

/-- What the route templates use of a request. -/
class Request (Req : Type) where
  token : Req → Bytes
  setToken : Bytes → Req → Req
  token_setToken : ∀ value req, token (setToken value req) = value

/-- What the route templates use of a reply; `initial` is a reply which nobody assigned. -/
class Reply (Rep : Type) where
  initial : Rep
  code : Rep → Int32
  setCode : Int32 → Rep → Rep
  code_initial : code initial = StatusCode.ok.toInt
  code_setCode : ∀ value rep, code (setCode value rep) = value

attribute [simp] Request.token_setToken Reply.code_initial Reply.code_setCode

/-- `adminRole`. Parsing a request stores any `int` in the enumeration, not only its two names. -/
structure AdminRole where
  underlying : Int32
deriving DecidableEq

def AdminRole.viewer : AdminRole := ⟨0⟩

def AdminRole.all : AdminRole := ⟨1⟩

structure SysAdminItem where
  name : Bytes
  role : AdminRole
deriving DecidableEq

structure UserGenInfoItem where
  user : Bytes
  phone : Bytes
  expire : Int32
  logincount : Int32
deriving DecidableEq

/-! ## Requests -/

structure RegistReq where
  username : Bytes
  password : Bytes
  phone : Bytes
  token : Bytes
deriving DecidableEq

structure LoginReq where
  username : Bytes
  phone : Bytes
  password : Bytes
  token : Bytes
deriving DecidableEq

structure AddSysAdminReq where
  user : Bytes
  phone : Bytes
  token : Bytes
  admins : List SysAdminItem
deriving DecidableEq

structure GetSysAdminReq where
  user : Bytes
  phone : Bytes
  token : Bytes
deriving DecidableEq

structure DelSysAdminReq where
  user : Bytes
  phone : Bytes
  token : Bytes
  admins : List SysAdminItem
deriving DecidableEq

structure GetUserGenInfoReq where
  fromdb : Int32
  user : Bytes
  phone : Bytes
  token : Bytes
deriving DecidableEq

instance : Request RegistReq where
  token req := req.token
  setToken token req := { req with token }
  token_setToken _ _ := rfl

instance : Request LoginReq where
  token req := req.token
  setToken token req := { req with token }
  token_setToken _ _ := rfl

instance : Request AddSysAdminReq where
  token req := req.token
  setToken token req := { req with token }
  token_setToken _ _ := rfl

instance : Request GetSysAdminReq where
  token req := req.token
  setToken token req := { req with token }
  token_setToken _ _ := rfl

instance : Request DelSysAdminReq where
  token req := req.token
  setToken token req := { req with token }
  token_setToken _ _ := rfl

instance : Request GetUserGenInfoReq where
  token req := req.token
  setToken token req := { req with token }
  token_setToken _ _ := rfl

/-! ## Replies -/

structure RegistRep where
  code : Int32 := StatusCode.ok.toInt
  user : Bytes := []
  token : Bytes := []
deriving DecidableEq

structure LoginRep where
  code : Int32 := StatusCode.ok.toInt
  username : Bytes := []
  logincount : UInt64 := 0
  token : Bytes := []
deriving DecidableEq

structure AddSysAdminRep where
  code : Int32 := StatusCode.ok.toInt
deriving DecidableEq

structure GetSysAdminRep where
  code : Int32 := StatusCode.ok.toInt
  user : Bytes := []
  phone : Bytes := []
  admins : List SysAdminItem := []
deriving DecidableEq

structure DelSysAdminRep where
  code : Int32 := StatusCode.ok.toInt
deriving DecidableEq

structure GetUserGenInfoRep where
  code : Int32 := StatusCode.ok.toInt
  users : List UserGenInfoItem := []
deriving DecidableEq

instance : Reply RegistRep where
  initial := {}
  code rep := rep.code
  setCode code rep := { rep with code }
  code_initial := rfl
  code_setCode _ _ := rfl

instance : Reply LoginRep where
  initial := {}
  code rep := rep.code
  setCode code rep := { rep with code }
  code_initial := rfl
  code_setCode _ _ := rfl

instance : Reply AddSysAdminRep where
  initial := {}
  code rep := rep.code
  setCode code rep := { rep with code }
  code_initial := rfl
  code_setCode _ _ := rfl

instance : Reply GetSysAdminRep where
  initial := {}
  code rep := rep.code
  setCode code rep := { rep with code }
  code_initial := rfl
  code_setCode _ _ := rfl

instance : Reply DelSysAdminRep where
  initial := {}
  code rep := rep.code
  setCode code rep := { rep with code }
  code_initial := rfl
  code_setCode _ _ := rfl

instance : Reply GetUserGenInfoRep where
  initial := {}
  code rep := rep.code
  setCode code rep := { rep with code }
  code_initial := rfl
  code_setCode _ _ := rfl

end SM.Inc
