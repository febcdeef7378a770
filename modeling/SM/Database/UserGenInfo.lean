import Mathlib.Data.List.TakeWhile
import SM.Database.DbCommon
import SM.Lib.Keyed
import SM.Lib.OrderedMap

/-!
# The cache of user information

`sgetUserGenInfo` fills `_genUsers` from the `users` table and answers from it. Each row that is
read clears what was cached for its phone, so only the last user of a phone stays, and an answer
for one user goes on with the loop for all users.
-/

namespace SM.Database

open SM.Inc SM.Lib SM.Utils

/-- `_genUsers`: the items of a phone by their user. -/
abbrev GenUsers := OrderedMap Bytes (OrderedMap Bytes UserGenInfoItem)

section GenUsers

variable (strict : Bool) (logincount : Users → Int32)

/-- The item of a row, `none` where reading a column throws. Nothing assigns its `logincount`,
which is whatever `logincount` says. -/
def genInfo (row : Users) : Option UserGenInfoItem := do
  let user ← value strict row.name
  let phone ← value strict row.phone
  let expire ← value strict row.expiredate
  return { user, phone, expire := expire.toInt32, logincount := logincount row }

def storeItem (cache : GenUsers) (item : UserGenInfoItem) : GenUsers :=
  let cleared := cache.assign item.phone .empty
  let infos := (cleared.find item.phone).getD .empty
  cleared.assign item.phone (infos.assign item.user item)

/-- The loop over the rows, and whether it came to their end. -/
def storeRows : List Users → GenUsers → GenUsers × Bool
  | [], cache => (cache, true)
  | row :: rows, cache =>
      match genInfo strict logincount row with
      | some item => storeRows rows (storeItem cache item)
      | none => (cache, false)

/-- The `where` clause of the query: an empty field restricts nothing. -/
def asksFor (req : GetUserGenInfoReq) (row : Users) : Bool :=
  (req.user = [] || row.name = some req.user) && (req.phone = [] || row.phone = some req.phone)

/-- The answer from the cache. -/
def cachedUsers (req : GetUserGenInfoReq) (cache : GenUsers) : GetUserGenInfoRep :=
  match cache.find req.phone with
  | some infos =>
      let rep : GetUserGenInfoRep :=
        if req.user ≠ [] then
          match infos.find req.user with
          | some item => { users := [item] }
          | none => { code := 20001 }
        else {}
      { rep with users := rep.users ++ infos.values }
  | none => { code := 20002 }

/-- `CommonDBProcess::sgetUserGenInfo` over the rows of `users`; no reply if it throws. -/
def sgetUserGenInfo (users : List Users) (req : GetUserGenInfoReq) (cache : GenUsers) :
    GenUsers × Option GetUserGenInfoRep :=
  if req.fromdb ≠ 0 then
    match storeRows strict logincount (users.filter (asksFor req)) cache with
    | (cache, true) => (cache, some {})
    | (cache, false) => (cache, none)
  else (cache, some (cachedUsers req cache))

/-- `CommonDBProcess::init`, which catches what is thrown. -/
def init (users : List Users) (cache : GenUsers) : GenUsers :=
  (sgetUserGenInfo strict logincount users ⟨1, [], [], []⟩ cache).1

end GenUsers

/-! ## What a refresh caches -/

section Refresh

variable {strict : Bool} {logincount : Users → Int32}

/-- No column which the loop reads throws. -/
def readable (strict : Bool) (row : Users) : Bool :=
  !strict || (row.name.isSome && row.phone.isSome && row.expiredate.isSome)

/-- A row gives an item exactly when it can be read. -/
theorem isSome_genInfo (strict : Bool) (logincount : Users → Int32) (row : Users) :
    (genInfo strict logincount row).isSome = readable strict row := by
  have columns : (genInfo strict logincount row).isSome =
      ((value strict row.name).isSome && (value strict row.phone).isSome &&
        (value strict row.expiredate).isSome) := by
    unfold genInfo
    cases value strict row.name <;> cases value strict row.phone <;>
      cases value strict row.expiredate <;> rfl
  rw [columns, isSome_value, isSome_value, isSome_value, readable]
  cases strict <;> rfl

/-- An item has the name and the phone number of its row. -/
theorem genInfo_eq_some {row : Users} {item : UserGenInfoItem}
    (built : genInfo strict logincount row = some item) :
    value strict row.name = some item.user ∧ value strict row.phone = some item.phone := by
  simp only [genInfo, Option.bind_eq_bind, Option.bind_eq_some_iff] at built
  obtain ⟨user, name, phone, place, expire, date, made⟩ := built
  cases made
  exact ⟨name, place⟩

/-- The rows that the loop over all rows stores. -/
def readRows (strict : Bool) (users : List Users) : List Users :=
  users.takeWhile (readable strict)

/-- The rows are stored in their order. -/
theorem storeRows_fst (rows : List Users) (cache : GenUsers) :
    (storeRows strict logincount rows cache).1 =
      ((readRows strict rows).filterMap (genInfo strict logincount)).foldl storeItem cache := by
  induction rows generalizing cache with
  | nil => rfl
  | cons row rows inductionHypothesis =>
      have reads := isSome_genInfo strict logincount row
      cases built : genInfo strict logincount row with
      | some item =>
          rw [built, Option.isSome_some] at reads
          simp [storeRows, readRows, ← reads, built, inductionHypothesis]
      | none =>
          rw [built, Option.isSome_none] at reads
          simp [storeRows, readRows, ← reads, built]

/-- A stored item replaces what was cached for its phone number. -/
theorem find_storeItem (cache : GenUsers) (item : UserGenInfoItem) (phone : Bytes) :
    (storeItem cache item).find phone =
      if phone = item.phone then some (OrderedMap.empty.assign item.user item)
      else cache.find phone := by
  simp only [storeItem, OrderedMap.find_assign, if_true, Option.getD_some]
  split <;> rfl

/-- Of the items stored for a phone the last one stays. -/
theorem find_foldl_storeItem (items : List UserGenInfoItem) (cache : GenUsers) (phone : Bytes) :
    (items.foldl storeItem cache).find phone =
      ((select (·.phone) phone items).getLast?.map fun item =>
        OrderedMap.empty.assign item.user item).or (cache.find phone) := by
  induction items generalizing cache with
  | nil => rfl
  | cons item items inductionHypothesis =>
      rw [List.foldl_cons, inductionHypothesis, find_storeItem]
      by_cases same : item.phone = phone
      · rw [select_cons_of_eq same, List.getLast?_cons, if_pos same.symm]
        cases (select (·.phone) phone items).getLast? <;> rfl
      · rw [select_cons_of_ne same, if_neg (Ne.symm same)]

/-- The last readable row of a phone number is the one which is cached. -/
theorem find_init (users : List Users) (phone : Bytes) :
    (init strict logincount users .empty).find phone =
      (select (·.phone) phone ((readRows strict users).filterMap
        (genInfo strict logincount))).getLast?.map fun item =>
          OrderedMap.empty.assign item.user item := by
  have all : users.filter (asksFor ⟨1, [], [], []⟩) = users := by simp [asksFor]
  have stored : (init strict logincount users .empty) =
      (storeRows strict logincount users .empty).1 := by
    simp only [init, sgetUserGenInfo, all]
    rcases storeRows strict logincount users .empty with ⟨cache, finished⟩
    cases finished <;> rfl
  rw [stored, storeRows_fst, find_foldl_storeItem]
  simp

end Refresh

/-! ## Agreement with the table -/

section Agreement

variable {strict : Bool} {logincount : Users → Int32}

/-- The rows with a phone, as reading their column gives it. -/
def phoneRows (strict : Bool) (phone : Bytes) (rows : List Users) : List Users :=
  select (fun row => value strict row.phone) (some phone) rows

/-- The rows with a phone and a name. -/
def userRows (strict : Bool) (phone user : Bytes) (rows : List Users) : List Users :=
  (phoneRows strict phone rows).filter fun row => value strict row.name = some user

/-- For one user a single item, made from a row of that user, or else a code and no item; for the
empty user one item for each row of the phone. -/
def Agrees (strict : Bool) (logincount : Users → Int32) (users : List Users)
    (phone user : Bytes) (rep : GetUserGenInfoRep) : Prop :=
  if user = [] then
    (rep.users.map some).Perm ((phoneRows strict phone users).map (genInfo strict logincount))
  else if userRows strict phone user users = [] then
    (rep.code = 20001 ∨ rep.code = 20002) ∧ rep.users = []
  else
    ∃ row ∈ userRows strict phone user users,
      rep.users.map some = [genInfo strict logincount row]

/-- What the cache answers for a phone after `init` agrees with the table. -/
def CacheAgrees (strict : Bool) (logincount : Users → Int32) (users : List Users)
    (phone user token : Bytes) : Prop :=
  ∃ rep, (sgetUserGenInfo strict logincount users ⟨0, user, phone, token⟩
    (init strict logincount users .empty)).2 = some rep ∧
    Agrees strict logincount users phone user rep

/-- For one user, no row of the phone is read and the table has none of that user; for the empty
user, the table has at most one row of the phone, and that is read. -/
def Cacheable (strict : Bool) (users : List Users) (phone user : Bytes) : Prop :=
  if user = [] then
    (phoneRows strict phone users).length ≤ 1 ∧
      phoneRows strict phone (readRows strict users) = phoneRows strict phone users
  else
    phoneRows strict phone (readRows strict users) = [] ∧ userRows strict phone user users = []

/-- The items of a phone number are those of its rows. -/
theorem select_genInfo (phone : Bytes) (rows : List Users) :
    select (·.phone) phone (rows.filterMap (genInfo strict logincount)) =
      (phoneRows strict phone rows).filterMap (genInfo strict logincount) := by
  unfold phoneRows
  induction rows with
  | nil => rfl
  | cons row rows inductionHypothesis =>
      rw [select_cons, List.filterMap_cons]
      cases built : genInfo strict logincount row with
      | none =>
          rw [inductionHypothesis]
          split
          · rw [List.filterMap_cons, built]
          · rfl
      | some item =>
          have place := (genInfo_eq_some built).2
          simp only [select_cons, inductionHypothesis, place, Option.some.injEq]
          split
          · rw [List.filterMap_cons, built]
          · rfl

/-- A row which was read gives an item. -/
theorem genInfo_of_read {users : List Users} {row : Users} {phone : Bytes}
    (member : row ∈ phoneRows strict phone (readRows strict users)) :
    ∃ item, genInfo strict logincount row = some item := by
  have reads := List.mem_takeWhile_imp (mem_select.mp member).1
  rw [← isSome_genInfo strict logincount] at reads
  exact Option.isSome_iff_exists.mp reads

/-- A phone of which no row was read is unknown; the last row that was read is all that is cached
of another one. -/
theorem find_init_cases (strict : Bool) (logincount : Users → Int32) (users : List Users)
    (phone : Bytes) :
    (phoneRows strict phone (readRows strict users) = [] ∧
      (init strict logincount users .empty).find phone = none) ∨
    ∃ row item, row ∈ phoneRows strict phone (readRows strict users) ∧
      genInfo strict logincount row = some item ∧
      (init strict logincount users .empty).find phone =
        some (OrderedMap.empty.assign item.user item) := by
  rw [find_init, select_genInfo]
  cases last : ((phoneRows strict phone (readRows strict users)).filterMap
      (genInfo strict logincount)).getLast? with
  | none =>
      have nothing := List.filterMap_eq_nil_iff.mp (List.getLast?_eq_none_iff.mp last)
      refine .inl ⟨List.eq_nil_iff_forall_not_mem.mpr ?_, rfl⟩
      intro row member
      obtain ⟨item, built⟩ := @genInfo_of_read strict logincount _ _ _ member
      rw [nothing row member] at built
      cases built
  | some item =>
      obtain ⟨row, member, built⟩ := List.mem_filterMap.mp (List.mem_of_getLast? last)
      exact .inr ⟨row, item, member, built, rfl⟩

/-- The reply to an unknown phone number agrees with the table if no row has it. -/
theorem agrees_unknown {users : List Users} {phone : Bytes} (user : Bytes)
    (nothing : phoneRows strict phone (readRows strict users) = []) :
    Agrees strict logincount users phone user { code := 20002 } ↔
      Cacheable strict users phone user := by
  unfold Agrees Cacheable
  by_cases every : user = []
  · rw [if_pos every, if_pos every, nothing, List.map_nil, List.nil_perm, List.map_eq_nil_iff]
    constructor
    · intro none
      simp [none]
    · rintro ⟨-, none⟩
      exact none.symm
  · rw [if_neg every, if_neg every, and_iff_right nothing]
    by_cases none : userRows strict phone user users = []
    · simp [none]
    · simp [none]

/-- The cached item is the only row of its phone exactly if the table has one row of that. -/
theorem perm_cached_iff {users : List Users} {phone : Bytes} {row : Users}
    {item : UserGenInfoItem} (member : row ∈ phoneRows strict phone (readRows strict users))
    (built : genInfo strict logincount row = some item) :
    [some item].Perm ((phoneRows strict phone users).map (genInfo strict logincount)) ↔
      (phoneRows strict phone users).length ≤ 1 ∧
        phoneRows strict phone (readRows strict users) = phoneRows strict phone users := by
  have part : (phoneRows strict phone (readRows strict users)).Sublist
      (phoneRows strict phone users) := (List.takeWhile_prefix _).sublist.filter _
  have least := List.length_pos_of_mem member
  constructor
  · intro same
    have single := same.length_eq
    rw [List.length_map, List.length_singleton] at single
    refine ⟨single.ge, part.eq_of_length ?_⟩
    have bound := part.length_le
    omega
  · rintro ⟨most, all⟩
    rw [all] at member
    obtain ⟨only, rows⟩ := List.length_eq_one_iff.mp
      (Nat.le_antisymm most (List.length_pos_of_mem member))
    rw [rows] at member ⊢
    cases List.mem_singleton.mp member
    rw [List.map_singleton, built]

/-- The reply to a known phone number agrees with the table exactly if the row of the user was
cached. -/
theorem agrees_known {users : List Users} {phone : Bytes} (user token : Bytes) {row : Users}
    {item : UserGenInfoItem} (member : row ∈ phoneRows strict phone (readRows strict users))
    (built : genInfo strict logincount row = some item) {cache : GenUsers}
    (known : cache.find phone = some (OrderedMap.empty.assign item.user item)) :
    Agrees strict logincount users phone user (cachedUsers ⟨0, user, phone, token⟩ cache) ↔
      Cacheable strict users phone user := by
  unfold Agrees Cacheable
  by_cases every : user = []
  · have reply : cachedUsers ⟨0, user, phone, token⟩ cache = { users := [item] } := by
      simp [cachedUsers, known, every]
    rw [if_pos every, if_pos every, reply]
    exact perm_cached_iff member built
  · rw [if_neg every, if_neg every]
    have someRow := List.ne_nil_of_mem member
    refine iff_of_false ?_ (fun cacheable => someRow cacheable.1)
    by_cases found : user = item.user
    · -- the item is pushed for the user and again by the loop
      have reply : cachedUsers ⟨0, user, phone, token⟩ cache = { users := [item, item] } := by
        subst found
        simp [cachedUsers, known, every]
      rw [reply]
      split
      · rintro ⟨-, none⟩
        cases none
      · rintro ⟨other, -, single⟩
        simp at single
    · -- the loop pushes the item of another user
      have reply : cachedUsers ⟨0, user, phone, token⟩ cache =
          { code := 20001, users := [item] } := by
        simp [cachedUsers, known, every, found]
      rw [reply]
      split
      · rintro ⟨-, none⟩
        cases none
      · rintro ⟨other, asked, single⟩
        have made : genInfo strict logincount other = some item := by simpa using single.symm
        have name := (genInfo_eq_some made).1
        have wanted : value strict other.name = some user := by
          simpa using (List.mem_filter.mp asked).2
        rw [wanted] at name
        exact found (Option.some.inj name)

/-- A request is answered from the cache as it is from the table if and only if the rows of its
phone number allow it. -/
theorem cacheAgrees_iff (strict : Bool) (logincount : Users → Int32) (users : List Users)
    (phone user token : Bytes) :
    CacheAgrees strict logincount users phone user token ↔
      Cacheable strict users phone user := by
  have answer : CacheAgrees strict logincount users phone user token ↔
      Agrees strict logincount users phone user
        (cachedUsers ⟨0, user, phone, token⟩ (init strict logincount users .empty)) := by
    simp [CacheAgrees, sgetUserGenInfo]
  rw [answer]
  rcases find_init_cases strict logincount users phone with
    ⟨nothing, unknown⟩ | ⟨row, item, member, built, known⟩
  · have reply : cachedUsers ⟨0, user, phone, token⟩ (init strict logincount users .empty) =
        { code := 20002 } := by
      simp only [cachedUsers, unknown]
    rw [reply]
    exact agrees_unknown user nothing
  · exact agrees_known user token member built known

/-- A user who is registered and read, alone with a phone, is answered twice. -/
theorem cacheAgrees_fails :
    ¬ CacheAgrees false (fun _ => 0) [⟨some [97], some [120], some [49], some 5⟩] [49] [97] [] := by
  rintro ⟨rep, answer, agrees⟩
  cases answer
  unfold Agrees at agrees
  revert agrees
  decide

end Agreement

end SM.Database
