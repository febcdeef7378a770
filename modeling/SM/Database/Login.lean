import Mathlib.Logic.Basic
import SM.Database.DbCommon

/-!
# Logins

`slogin` takes the user name or the phone from a request, or both. It counts the rows which have
both but does not look at the count, so a login with both is refused whatever the rows are.
`slogin_decided_iff` says when a login is decided by the rows.
-/

namespace SM.Database

open SM.Inc SM.Utils

/-- The loops of `slogin`, which stop at the first row: the reply and `bchecked`, or nothing where
reading the name throws. -/
def loginRow (strict : Bool) (rep : LoginRep) : List Users → Option (LoginRep × Bool)
  | [] => some (rep, false)
  | row :: _ => do
      let username ← value strict row.name
      return ({ rep with username }, true)

/-- The end of `slogin`, from the reply and `bchecked`. -/
def loginReply (token : Bytes) : LoginRep × Bool → LoginRep
  | (rep, false) => { rep with code := StatusCode.wrongUserOrPhoneOrPass.toInt }
  | (rep, true) => { rep with token }

/-- `CommonDBProcess::slogin`, where `token` is the result of `getjwttoken`; no reply if it
throws. -/
def slogin (strict : Bool) (token : Bytes) (users : List Users) (req : LoginReq) :
    Option LoginRep := do
  let rep : LoginRep := { username := req.username }
  if !req.username.isEmpty && !req.phone.isEmpty then
    -- Nothing reads the count.
    let _have := users.countP fun row =>
      row.name = some req.username && row.passwd = some req.password &&
        row.phone = some req.phone
    return loginReply token (rep, false)
  else if !req.username.isEmpty then
    let rows := users.filter fun row =>
      row.name = some req.username && row.passwd = some req.password
    return loginReply token (← loginRow strict rep rows)
  else if !req.phone.isEmpty then
    let rows := users.filter fun row =>
      row.phone = some req.phone && row.passwd = some req.password
    return loginReply token (← loginRow strict rep rows)
  else
    return { rep with code := StatusCode.invalidUserOrPhone.toInt }

/-! ## What a login should do -/

/-- A row has the password and every non-empty one of user name and phone. -/
def fits (req : LoginReq) (row : Users) : Bool :=
  (req.username = [] || row.name = some req.username) &&
    (req.phone = [] || row.phone = some req.phone) && row.passwd = some req.password

/-- A login is accepted for a name or phone which a row has with the password. -/
def Accepts (users : List Users) (req : LoginReq) : Prop :=
  (req.username ≠ [] ∨ req.phone ≠ []) ∧ ∃ row ∈ users, fits req row = true

/-- The reply to a login is decided by the rows. -/
structure DecidedByRows (strict : Bool) (token : Bytes) (users : List Users) (req : LoginReq)
    (rep : LoginRep) : Prop where
  accepted : (rep.code = StatusCode.ok.toInt ∧ rep.token = token) ↔ Accepts users req
  invalid : rep.code = StatusCode.invalidUserOrPhone.toInt ↔ req.username = [] ∧ req.phone = []
  wrong : rep.code = StatusCode.wrongUserOrPhoneOrPass.toInt ↔
    (req.username ≠ [] ∨ req.phone ≠ []) ∧ ¬Accepts users req
  owner : req.username = [] → rep.code = StatusCode.ok.toInt →
    ∃ row ∈ users, fits req row = true ∧ value strict row.name = some rep.username

/-- What the rows have to be for `slogin`: none is asked for by name and phone together, and the
first one that is asked for by phone has a name that can be read. -/
structure Answerable (strict : Bool) (users : List Users) (req : LoginReq) : Prop where
  single : req.username ≠ [] → req.phone ≠ [] → ∀ row ∈ users, fits req row = false
  named : req.username = [] → req.phone ≠ [] → ∀ row, users.find? (fits req) = some row →
    (value strict row.name).isSome = true

/-! ## The branches -/

section Branches

variable {strict : Bool} {token : Bytes} {users : List Users} {req : LoginReq} {rep : LoginRep}

/-- The reply after rows were asked for: the first one of them decides. -/
def rowReply (strict : Bool) (token username : Bytes) : Option Users → Option LoginRep
  | some row => (value strict row.name).map fun username => { username, token }
  | none => some { username, code := StatusCode.wrongUserOrPhoneOrPass.toInt }

/-- The loop over the rows ends with the first row which was asked for. -/
theorem loginReply_loginRow (strict : Bool) (token username : Bytes) (asked : Users → Bool)
    (users : List Users) :
    (do return loginReply token (← loginRow strict { username } (users.filter asked))) =
      rowReply strict token username (users.find? asked) := by
  rw [← List.head?_filter]
  cases users.filter asked with
  | nil => rfl
  | cons row rows =>
      cases named : value strict row.name with
      | none => simp [loginRow, rowReply, named]
      | some username => simp [loginRow, loginReply, rowReply, named]

/-- With a name and a phone number no row is asked for. -/
theorem slogin_both (username : req.username ≠ []) (phone : req.phone ≠ []) :
    slogin strict token users req =
      some { username := req.username, code := StatusCode.wrongUserOrPhoneOrPass.toInt } := by
  simp [slogin, username, phone, loginReply]

/-- Without a name and a phone number no row is asked for. -/
theorem slogin_neither (username : req.username = []) (phone : req.phone = []) :
    slogin strict token users req = some { code := StatusCode.invalidUserOrPhone.toInt } := by
  simp [slogin, username, phone]

/-- With one of name and phone, the first row which fits decides. -/
theorem slogin_single (single : req.username = [] ↔ req.phone ≠ []) :
    slogin strict token users req =
      rowReply strict token req.username (users.find? (fits req)) := by
  rw [← loginReply_loginRow]
  by_cases username : req.username = []
  · have phone : req.phone ≠ [] := single.mp username
    have asked : (fun row : Users => row.phone = some req.phone && row.passwd = some req.password)
        = fits req := by
      funext row
      simp [fits, username, phone]
    simp [slogin, username, phone, asked]
  · have phone : req.phone = [] := Decidable.not_not.mp (mt single.mpr username)
    have asked : (fun row : Users => row.name = some req.username && row.passwd = some req.password)
        = fits req := by
      funext row
      simp [fits, username, phone]
    simp [slogin, username, phone, asked]

/-- A login is accepted exactly when a name or a number is given and a row fits. -/
theorem accepts_iff : Accepts users req ↔
    (req.username ≠ [] ∨ req.phone ≠ []) ∧ (users.find? (fits req)).isSome = true := by
  rw [Accepts, List.find?_isSome]

/-- A row that fits and has no name cannot be answered where reading is strict. -/
theorem not_answerable_of_unnamed {row : Users} (found : users.find? (fits req) = some row)
    (single : req.username = [] ↔ req.phone ≠ []) (unnamed : value strict row.name = none) :
    ¬Answerable strict users req := by
  intro answerable
  by_cases username : req.username = []
  · have named := answerable.named username (single.mp username) row found
    rw [unnamed] at named
    exact Bool.noConfusion named
  · -- A row which was found by its name has one.
    have fitting : fits req row = true := List.find?_some found
    have named : row.name = some req.username := by
      simp only [fits, username, Bool.and_eq_true, Bool.or_eq_true, decide_eq_true_eq,
        false_or] at fitting
      exact fitting.1.1
    rw [named, value_some] at unnamed
    cases unnamed

/-- A request without name and number is answered by the rows in any case. -/
theorem decidedByRows_neither (username : req.username = []) (phone : req.phone = []) :
    DecidedByRows strict token users req { code := StatusCode.invalidUserOrPhone.toInt } where
  accepted := by simp [Accepts, username, phone, StatusCode.toInt_inj]
  invalid := by simp [username, phone]
  wrong := by simp [username, phone, StatusCode.toInt_inj]
  owner := by simp [StatusCode.toInt_inj]

/-- The reply of a wrong login is right exactly when no row fits. -/
theorem decidedByRows_wrong (given : req.username ≠ [] ∨ req.phone ≠ []) (username : Bytes) :
    DecidedByRows strict token users req
        { username, code := StatusCode.wrongUserOrPhoneOrPass.toInt } ↔
      ¬Accepts users req := by
  constructor
  · intro decided accepts
    have code := (decided.accepted.mpr accepts).1
    simp [StatusCode.toInt_inj] at code
  · intro refused
    have present : ¬(req.username = [] ∧ req.phone = []) := by
      rwa [not_and_or]
    exact {
      accepted := by simp [refused, StatusCode.toInt_inj]
      invalid := by simp [present, StatusCode.toInt_inj]
      wrong := by simp [given, refused]
      owner := by simp [StatusCode.toInt_inj] }

/-- The reply with the name of the row that fits is right. -/
theorem decidedByRows_row {row : Users} {username : Bytes}
    (given : req.username ≠ [] ∨ req.phone ≠ []) (found : users.find? (fits req) = some row)
    (named : value strict row.name = some username) :
    DecidedByRows strict token users req { username, token } := by
  have accepts : Accepts users req := by
    rw [accepts_iff, found]
    exact ⟨given, rfl⟩
  have present : ¬(req.username = [] ∧ req.phone = []) := by
    rwa [not_and_or]
  exact {
    accepted := by simp [accepts]
    invalid := by simp [present, StatusCode.toInt_inj]
    wrong := by simp [accepts, StatusCode.toInt_inj]
    owner := fun _ _ => ⟨row, List.mem_of_find?_eq_some found, List.find?_some found, named⟩ }

/-- With one of name and phone, the rows decide if the first one which fits can be read. -/
theorem decided_single_iff (single : req.username = [] ↔ req.phone ≠ []) :
    (∃ rep, slogin strict token users req = some rep ∧
      DecidedByRows strict token users req rep) ↔ Answerable strict users req := by
  have given : req.username ≠ [] ∨ req.phone ≠ [] := by
    rw [← single]
    exact (em _).symm
  have exclusive : req.username ≠ [] → req.phone ≠ [] → ∀ row ∈ users, fits req row = false :=
    fun username phone => absurd (single.mpr phone) username
  rw [slogin_single single]
  cases found : users.find? (fits req) with
  | none =>
      have refused : ¬Accepts users req := by
        simp [accepts_iff, found]
      constructor
      · intro _
        exact ⟨exclusive, fun _ _ row other => by simp [found] at other⟩
      · intro _
        exact ⟨_, rfl, (decidedByRows_wrong given _).mpr refused⟩
  | some row =>
      cases named : value strict row.name with
      | none =>
          have unanswerable := not_answerable_of_unnamed found single named
          simp [rowReply, named, unanswerable]
      | some username =>
          constructor
          · intro _
            refine ⟨exclusive, fun _ _ other foundOther => ?_⟩
            cases found.symm.trans foundOther
            rw [named]
            rfl
          · intro _
            refine ⟨{ username, token }, by simp [rowReply, named], ?_⟩
            exact decidedByRows_row given found named

/-- With name and phone, the rows decide if none of them fits. -/
theorem decided_both_iff (username : req.username ≠ []) (phone : req.phone ≠ []) :
    (∃ rep, slogin strict token users req = some rep ∧
      DecidedByRows strict token users req rep) ↔ Answerable strict users req := by
  rw [slogin_both username phone]
  constructor
  · rintro ⟨_, replied, decided⟩
    cases replied
    have refused : ¬Accepts users req := (decidedByRows_wrong (.inl username) _).mp decided
    refine ⟨fun _ _ row member => ?_, fun other => absurd other username⟩
    rw [← Bool.not_eq_true]
    intro fitting
    exact refused ⟨.inl username, row, member, fitting⟩
  · intro answerable
    refine ⟨_, rfl, (decidedByRows_wrong (.inl username) _).mpr ?_⟩
    rintro ⟨_, row, member, fitting⟩
    rw [answerable.single username phone row member] at fitting
    cases fitting

end Branches

/-- A login is decided by the rows if and only if these can answer it. -/
theorem slogin_decided_iff (strict : Bool) (token : Bytes) (users : List Users) (req : LoginReq) :
    (∃ rep, slogin strict token users req = some rep ∧
      DecidedByRows strict token users req rep) ↔ Answerable strict users req := by
  by_cases username : req.username = []
  · by_cases phone : req.phone = []
    · rw [slogin_neither username phone]
      constructor
      · intro _
        exact ⟨fun other => absurd username other, fun _ other => absurd phone other⟩
      · intro _
        exact ⟨_, rfl, decidedByRows_neither username phone⟩
    · exact decided_single_iff (iff_of_true username phone)
  · by_cases phone : req.phone = []
    · exact decided_single_iff (iff_of_false username (not_not.mpr phone))
    · exact decided_both_iff username phone

/-- A stored name, password and phone are refused as wrong. -/
theorem slogin_refuses_stored_row :
    ∃ rep, slogin false [9] [⟨some [1], some [2], some [3], none⟩] ⟨[1], [3], [2], []⟩ = some rep ∧
      rep.code = StatusCode.wrongUserOrPhoneOrPass.toInt ∧
      ¬DecidedByRows false [9] [⟨some [1], some [2], some [3], none⟩] ⟨[1], [3], [2], []⟩ rep := by
  refine ⟨_, rfl, rfl, ?_⟩
  intro decided
  have accepts : Accepts [⟨some [1], some [2], some [3], none⟩] ⟨[1], [3], [2], []⟩ :=
    ⟨.inl (by decide), _, List.mem_singleton_self _, by decide⟩
  have code := (decided.accepted.mpr accepts).1
  simp [loginReply, StatusCode.toInt_inj] at code

end SM.Database
