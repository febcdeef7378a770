import Mathlib.Data.List.Induction
import Mathlib.Data.List.Nodup
import Mathlib.Data.Set.List
import SM.Database.DbCommon
import SM.Lib.Keyed

/-!
# System admins

`saddSysAdmin` inserts each item that it does not count, `sdelSysAdmin` removes each item, and
`sgetSysAdmin` lists the items of a user and phone. Over any sequence of requests the table is
a set.
-/

namespace SM.Database

open SM.Inc SM.Lib SM.Utils

/-- The row which an item is inserted as. -/
def adminRow (user phone : Bytes) (item : SysAdminItem) : Sysadmin where
  user := some user
  phone := some phone
  admin := some item.name
  role := some item.role.underlying

/-- The `where` clause of an item. -/
def isAdmin (user phone : Bytes) (item : SysAdminItem) (row : Sysadmin) : Bool :=
  row.user = some user && row.phone = some phone && row.admin = some item.name &&
    row.role = some item.role.underlying

/-- One round of the loop of `saddSysAdmin`. -/
def addItem (user phone : Bytes) (table : List Sysadmin) (item : SysAdminItem) : List Sysadmin :=
  if table.countP (isAdmin user phone item) = 0 then table ++ [adminRow user phone item]
  else table

/-- `CommonDBProcess::saddSysAdmin`. -/
def saddSysAdmin (table : List Sysadmin) (req : AddSysAdminReq) :
    List Sysadmin × AddSysAdminRep :=
  (req.admins.foldl (addItem req.user req.phone) table, {})

/-- One round of the loop of `sdelSysAdmin`. -/
def delItem (user phone : Bytes) (table : List Sysadmin) (item : SysAdminItem) : List Sysadmin :=
  table.filter fun row => !isAdmin user phone item row

/-- `CommonDBProcess::sdelSysAdmin`. -/
def sdelSysAdmin (table : List Sysadmin) (req : DelSysAdminReq) :
    List Sysadmin × DelSysAdminRep :=
  (req.admins.foldl (delItem req.user req.phone) table, {})

/-- The item of a row, `none` where reading a column throws. -/
def adminItem (strict : Bool) (row : Sysadmin) : Option SysAdminItem := do
  let name ← value strict row.admin
  let role ← value strict row.role
  return { name, role := ⟨role⟩ }

/-- The columns by which `sgetSysAdmin` selects. -/
def adminKey (row : Sysadmin) : Option Bytes × Option Bytes :=
  (row.user, row.phone)

/-- `CommonDBProcess::sgetSysAdmin`; no reply if it throws. -/
def sgetSysAdmin (strict : Bool) (table : List Sysadmin) (req : GetSysAdminReq) :
    Option GetSysAdminRep := do
  let admins ← (select adminKey (some req.user, some req.phone) table).mapM (adminItem strict)
  return { admins }

/-! ## Items of one request -/

section Items

variable {user phone : Bytes} {item : SysAdminItem} {items : List SysAdminItem}
  {row : Sysadmin} {table : List Sysadmin}

/-- The condition of a query holds of one row. -/
theorem isAdmin_iff : isAdmin user phone item row = true ↔ row = adminRow user phone item := by
  obtain ⟨rowUser, rowPhone, admin, role⟩ := row
  simp [isAdmin, adminRow, and_assoc]

/-- A row is counted exactly when it is in the table. -/
theorem countP_isAdmin :
    table.countP (isAdmin user phone item) = 0 ↔ adminRow user phone item ∉ table := by
  rw [List.countP_eq_zero]
  constructor
  · intro none present
    exact none _ present (isAdmin_iff.mpr rfl)
  · intro absent row member counted
    cases isAdmin_iff.mp counted
    exact absent member

/-- A row that is there is not added again. -/
theorem addItem_of_mem (present : adminRow user phone item ∈ table) :
    addItem user phone table item = table :=
  if_neg fun none => countP_isAdmin.mp none present

/-- A new row comes behind the others. -/
theorem addItem_of_not_mem (absent : adminRow user phone item ∉ table) :
    addItem user phone table item = table ++ [adminRow user phone item] :=
  if_pos (countP_isAdmin.mpr absent)

/-- After an addition the row is there, with those before. -/
theorem mem_addItem :
    row ∈ addItem user phone table item ↔ row ∈ table ∨ row = adminRow user phone item := by
  by_cases present : adminRow user phone item ∈ table
  · rw [addItem_of_mem present]
    refine (or_iff_left_of_imp ?_).symm
    rintro rfl
    exact present
  · rw [addItem_of_not_mem present, List.mem_append, List.mem_singleton]

/-- Where the row is not there, nothing is deleted. -/
theorem delItem_of_not_mem (absent : adminRow user phone item ∉ table) :
    delItem user phone table item = table := by
  apply List.filter_eq_self.mpr
  intro row member
  have other : isAdmin user phone item row ≠ true := by
    intro same
    cases isAdmin_iff.mp same
    exact absent member
  rw [Bool.eq_false_iff.mpr other]
  rfl

/-- After a deletion the row is gone, and the others stay. -/
theorem mem_delItem :
    row ∈ delItem user phone table item ↔ row ∈ table ∧ row ≠ adminRow user phone item := by
  simp [delItem, ← isAdmin_iff]

/-- After all additions of a request its rows are there, with those before. -/
theorem mem_foldl_addItem :
    row ∈ items.foldl (addItem user phone) table ↔
      row ∈ table ∨ ∃ item ∈ items, row = adminRow user phone item := by
  induction items generalizing table with
  | nil => simp
  | cons item items inductionHypothesis =>
      rw [List.foldl_cons, inductionHypothesis, mem_addItem]
      simp [or_assoc]

/-- After all deletions of a request its rows are gone, and the others stay. -/
theorem mem_foldl_delItem :
    row ∈ items.foldl (delItem user phone) table ↔
      row ∈ table ∧ ∀ item ∈ items, row ≠ adminRow user phone item := by
  induction items generalizing table with
  | nil => simp
  | cons item items inductionHypothesis =>
      rw [List.foldl_cons, inductionHypothesis, mem_delItem]
      simp [and_assoc]

/-- Additions repeat no row. -/
theorem nodup_foldl_addItem (unique : table.Nodup) :
    (items.foldl (addItem user phone) table).Nodup := by
  induction items generalizing table with
  | nil => exact unique
  | cons item items inductionHypothesis =>
      apply inductionHypothesis
      by_cases present : adminRow user phone item ∈ table
      · rw [addItem_of_mem present]
        exact unique
      · rw [addItem_of_not_mem present, ← List.concat_eq_append]
        exact List.Nodup.concat present unique

/-- Deletions repeat no row. -/
theorem nodup_foldl_delItem (unique : table.Nodup) :
    (items.foldl (delItem user phone) table).Nodup := by
  induction items generalizing table with
  | nil => exact unique
  | cons item items inductionHypothesis => exact inductionHypothesis (unique.filter _)

/-- A request whose rows are all there changes nothing. -/
theorem foldl_addItem_of_mem (present : ∀ item ∈ items, adminRow user phone item ∈ table) :
    items.foldl (addItem user phone) table = table := by
  induction items with
  | nil => rfl
  | cons item items inductionHypothesis =>
      rw [List.foldl_cons, addItem_of_mem (present item List.mem_cons_self)]
      exact inductionHypothesis fun other member =>
        present other (List.mem_cons_of_mem _ member)

/-- A request none of whose rows is there changes nothing. -/
theorem foldl_delItem_of_not_mem (absent : ∀ item ∈ items, adminRow user phone item ∉ table) :
    items.foldl (delItem user phone) table = table := by
  induction items with
  | nil => rfl
  | cons item items inductionHypothesis =>
      rw [List.foldl_cons, delItem_of_not_mem (absent item List.mem_cons_self)]
      exact inductionHypothesis fun other member =>
        absent other (List.mem_cons_of_mem _ member)

end Items

/-! ## Sequences of requests -/

inductive AdminRequest where
  | add (req : AddSysAdminReq)
  | del (req : DelSysAdminReq)
deriving DecidableEq

namespace AdminRequest

def apply (table : List Sysadmin) : AdminRequest → List Sysadmin
  | .add req => (saddSysAdmin table req).1
  | .del req => (sdelSysAdmin table req).1

/-- The user and phone of a request. -/
def owner : AdminRequest → Bytes × Bytes
  | .add req => (req.user, req.phone)
  | .del req => (req.user, req.phone)

def Adds (user phone : Bytes) (item : SysAdminItem) : AdminRequest → Prop
  | .add req => req.user = user ∧ req.phone = phone ∧ item ∈ req.admins
  | .del _ => False

def Deletes (user phone : Bytes) (item : SysAdminItem) : AdminRequest → Prop
  | .add _ => False
  | .del req => req.user = user ∧ req.phone = phone ∧ item ∈ req.admins

end AdminRequest

/-- The table after requests that are executed one after the other. -/
def adminTable (requests : List AdminRequest) : List Sysadmin :=
  requests.foldl AdminRequest.apply []

/-- An item was added for a user and phone and not deleted since. -/
def Current (requests : List AdminRequest) (user phone : Bytes) (item : SysAdminItem) : Prop :=
  ∃ earlier request later, requests = earlier ++ request :: later ∧
    request.Adds user phone item ∧ ∀ other ∈ later, ¬ other.Deletes user phone item

section Requests

variable {user phone : Bytes} {item : SysAdminItem} {requests : List AdminRequest}
  {request : AdminRequest} {row : Sysadmin} {table : List Sysadmin}

/-- The last request acts upon the table of those before it. -/
theorem adminTable_concat (requests : List AdminRequest) (request : AdminRequest) :
    adminTable (requests ++ [request]) = request.apply (adminTable requests) :=
  List.foldl_concat ..

/-- A row determines its user, its phone number and its item. -/
theorem adminRow_eq_iff {otherUser otherPhone : Bytes} {other : SysAdminItem} :
    adminRow user phone item = adminRow otherUser otherPhone other ↔
      otherUser = user ∧ otherPhone = phone ∧ item = other := by
  obtain ⟨name, ⟨role⟩⟩ := item
  obtain ⟨otherName, ⟨otherRole⟩⟩ := other
  simp [adminRow, @eq_comm _ otherUser, @eq_comm _ otherPhone]

/-- A row of a request is one of the user, of the phone number and of an item in the request. -/
theorem exists_adminRow {otherUser otherPhone : Bytes} (items : List SysAdminItem) :
    (∃ other ∈ items, adminRow user phone item = adminRow otherUser otherPhone other) ↔
      otherUser = user ∧ otherPhone = phone ∧ item ∈ items := by
  constructor
  · rintro ⟨other, member, same⟩
    obtain ⟨sameUser, samePhone, rfl⟩ := adminRow_eq_iff.mp same
    exact ⟨sameUser, samePhone, member⟩
  · rintro ⟨rfl, rfl, member⟩
    exact ⟨item, member, rfl⟩

/-- What one request does to a row. -/
theorem mem_apply : adminRow user phone item ∈ request.apply table ↔
    request.Adds user phone item ∨
      adminRow user phone item ∈ table ∧ ¬ request.Deletes user phone item := by
  cases request with
  | add req =>
      rw [AdminRequest.apply, saddSysAdmin, mem_foldl_addItem, exists_adminRow, or_comm]
      exact or_congr_right (and_iff_left id).symm
  | del req =>
      have kept : (∀ other ∈ req.admins,
          adminRow user phone item ≠ adminRow req.user req.phone other) ↔
          ¬ (AdminRequest.del req).Deletes user phone item := by
        rw [AdminRequest.Deletes, ← exists_adminRow]
        simp only [not_exists, not_and, ne_eq]
      rw [AdminRequest.apply, sdelSysAdmin, mem_foldl_delItem, kept]
      exact (or_iff_right id).symm

/-- An item is current after a request which adds it, or before one which does not delete it. -/
theorem current_concat (requests : List AdminRequest) (request : AdminRequest) :
    Current (requests ++ [request]) user phone item ↔
      request.Adds user phone item ∨
        Current requests user phone item ∧ ¬ request.Deletes user phone item := by
  constructor
  · rintro ⟨earlier, adding, later, split, adds, kept⟩
    rcases List.eq_nil_or_concat later with rfl | ⟨later, last, rfl⟩
    · obtain ⟨-, same⟩ := List.append_inj' split rfl
      cases same
      exact .inl adds
    · rw [List.concat_eq_append, ← List.cons_append, ← List.append_assoc] at split
      obtain ⟨rfl, same⟩ := List.append_inj' split rfl
      cases same
      refine .inr ⟨⟨earlier, adding, later, rfl, adds, ?_⟩, ?_⟩
      · intro other member
        exact kept other (by simp [member])
      · exact kept request (by simp)
  · rintro (adds | ⟨⟨earlier, adding, later, rfl, adds, kept⟩, notDeleted⟩)
    · exact ⟨requests, request, [], rfl, adds, nofun⟩
    · refine ⟨earlier, adding, later ++ [request], by simp, adds, ?_⟩
      intro other member
      rcases List.mem_append.mp member with before | last
      · exact kept other before
      · cases List.mem_singleton.mp last
        exact notDeleted

/-- The table holds what was added and not deleted since. -/
theorem mem_adminTable (requests : List AdminRequest) :
    adminRow user phone item ∈ adminTable requests ↔ Current requests user phone item := by
  induction requests using List.reverseRecOn with
  | nil =>
      refine iff_of_false nofun ?_
      rintro ⟨earlier, request, later, split, -⟩
      simp at split
  | append_singleton requests request inductionHypothesis =>
      rw [adminTable_concat, mem_apply, inductionHypothesis, current_concat]

/-- No row is in the table twice. -/
theorem nodup_adminTable (requests : List AdminRequest) : (adminTable requests).Nodup := by
  induction requests using List.reverseRecOn with
  | nil => exact List.nodup_nil
  | append_singleton requests request inductionHypothesis =>
      rw [adminTable_concat]
      cases request with
      | add req => exact nodup_foldl_addItem inductionHypothesis
      | del req => exact nodup_foldl_delItem inductionHypothesis

/-- Every row was inserted by `saddSysAdmin`. -/
theorem exists_of_mem_adminTable (requests : List AdminRequest)
    (member : row ∈ adminTable requests) : ∃ user phone item, row = adminRow user phone item := by
  induction requests using List.reverseRecOn with
  | nil => cases member
  | append_singleton requests request inductionHypothesis =>
      rw [adminTable_concat] at member
      cases request with
      | add req =>
          rcases mem_foldl_addItem.mp member with old | ⟨item, -, rfl⟩
          · exact inductionHypothesis old
          · exact ⟨_, _, item, rfl⟩
      | del req => exact inductionHypothesis (mem_foldl_delItem.mp member).1

/-- Executing a request again changes nothing. -/
theorem apply_apply (request : AdminRequest) (table : List Sysadmin) :
    request.apply (request.apply table) = request.apply table := by
  cases request with
  | add req =>
      apply foldl_addItem_of_mem
      intro item member
      exact mem_foldl_addItem.mpr (.inr ⟨item, member, rfl⟩)
  | del req =>
      apply foldl_delItem_of_not_mem
      intro item member present
      exact (mem_foldl_delItem.mp present).2 item member rfl

/-! ## What a user and phone see -/

/-- The rows of a user and phone. -/
def ownRows (user phone : Bytes) (table : List Sysadmin) : List Sysadmin :=
  select adminKey (some user, some phone) table

/-- A row of a user is among the rows which the user is shown exactly when it is in the table. -/
theorem mem_ownRows_adminRow :
    adminRow user phone item ∈ ownRows user phone table ↔ adminRow user phone item ∈ table := by
  rw [ownRows, mem_select]
  exact and_iff_left rfl

/-- An addition changes the rows of its own user only. -/
theorem ownRows_addItem (user phone otherUser otherPhone : Bytes) (table : List Sysadmin)
    (item : SysAdminItem) :
    ownRows user phone (addItem otherUser otherPhone table item) =
      if (otherUser, otherPhone) = (user, phone) then
        addItem otherUser otherPhone (ownRows user phone table) item
      else ownRows user phone table := by
  split
  · next same =>
      cases same
      by_cases present : adminRow user phone item ∈ table
      · rw [addItem_of_mem present, addItem_of_mem (mem_ownRows_adminRow.mpr present)]
      · rw [addItem_of_not_mem present,
          addItem_of_not_mem (fun own => present (mem_ownRows_adminRow.mp own)),
          ownRows, select_append]
        exact congrArg (_ ++ ·) (select_cons_of_eq rfl [])
  · next different =>
      have other : adminKey (adminRow otherUser otherPhone item) ≠ (some user, some phone) := by
        simpa [adminKey, adminRow] using different
      by_cases present : adminRow otherUser otherPhone item ∈ table
      · rw [addItem_of_mem present]
      · rw [addItem_of_not_mem present, ownRows, select_append, select_cons_of_ne other]
        exact List.append_nil _

/-- A deletion changes the rows of its own user only. -/
theorem ownRows_delItem (user phone otherUser otherPhone : Bytes) (table : List Sysadmin)
    (item : SysAdminItem) :
    ownRows user phone (delItem otherUser otherPhone table item) =
      if (otherUser, otherPhone) = (user, phone) then
        delItem otherUser otherPhone (ownRows user phone table) item
      else ownRows user phone table := by
  rw [ownRows, delItem, select_filter]
  split
  · rfl
  · next different =>
      apply delItem_of_not_mem
      intro present
      have same := (mem_select.mp present).2
      simp only [adminKey, adminRow, Prod.mk.injEq, Option.some.injEq] at same
      exact different (Prod.ext same.1 same.2)

/-- Rounds that each change the rows of one owner only do so together. -/
theorem ownRows_foldl {round : List Sysadmin → SysAdminItem → List Sysadmin} {own : Prop}
    [Decidable own] (each : ∀ table item, ownRows user phone (round table item) =
      if own then round (ownRows user phone table) item else ownRows user phone table)
    (items : List SysAdminItem) (table : List Sysadmin) :
    ownRows user phone (items.foldl round table) =
      if own then items.foldl round (ownRows user phone table)
      else ownRows user phone table := by
  induction items generalizing table with
  | nil => exact (ite_self _).symm
  | cons item items inductionHypothesis =>
      rw [List.foldl_cons, inductionHypothesis, each]
      split <;> rfl

/-- A request of another user or phone leaves the rows as they are. -/
theorem ownRows_apply (user phone : Bytes) (table : List Sysadmin) (request : AdminRequest) :
    ownRows user phone (request.apply table) =
      if request.owner = (user, phone) then request.apply (ownRows user phone table)
      else ownRows user phone table := by
  cases request with
  | add req =>
      exact ownRows_foldl (ownRows_addItem user phone req.user req.phone) req.admins table
  | del req =>
      exact ownRows_foldl (ownRows_delItem user phone req.user req.phone) req.admins table

/-- The rows of a user and phone come from their own requests. -/
theorem ownRows_adminTable (user phone : Bytes) (requests : List AdminRequest) :
    ownRows user phone (adminTable requests) =
      adminTable (requests.filter (·.owner = (user, phone))) := by
  induction requests using List.reverseRecOn with
  | nil => rfl
  | append_singleton requests request inductionHypothesis =>
      rw [adminTable_concat, ownRows_apply, inductionHypothesis, List.filter_append]
      by_cases own : request.owner = (user, phone)
      · rw [if_pos own, List.filter_singleton, decide_eq_true own, cond_true, adminTable_concat]
      · rw [if_neg own, List.filter_singleton, decide_eq_false own, cond_false,
          List.append_nil]

/-- A row which was written gives back its item. -/
theorem adminItem_adminRow (strict : Bool) (user phone : Bytes) (item : SysAdminItem) :
    adminItem strict (adminRow user phone item) = some item :=
  rfl

/-- Rows that were inserted for a user and phone are read as their items. -/
theorem mapM_adminItem (strict : Bool) (user phone : Bytes) (items : List SysAdminItem) :
    (items.map (adminRow user phone)).mapM (adminItem strict) = some items := by
  induction items with
  | nil => rfl
  | cons item items inductionHypothesis =>
      rw [List.map_cons, List.mapM_cons, adminItem_adminRow, inductionHypothesis]
      rfl

/-- The rows which a user is shown were all written from items. -/
theorem exists_ownRows (user phone : Bytes) (requests : List AdminRequest) :
    ∃ items : List SysAdminItem,
      items.map (adminRow user phone) = ownRows user phone (adminTable requests) := by
  have each : ∀ row ∈ ownRows user phone (adminTable requests),
      row ∈ Set.range (adminRow user phone) := by
    intro row member
    obtain ⟨inTable, key⟩ := mem_select.mp member
    obtain ⟨rowUser, rowPhone, item, rfl⟩ := exists_of_mem_adminTable requests inTable
    cases key
    exact ⟨item, rfl⟩
  exact (Set.range_list_map (adminRow user phone)).ge each

/-- Different items are different rows. -/
theorem adminRow_injective (user phone : Bytes) : Function.Injective (adminRow user phone) := by
  intro item other same
  exact (adminRow_eq_iff.mp same).2.2

/-- `sgetSysAdmin` lists each item that was added and not deleted since, once. -/
theorem sgetSysAdmin_adminTable (strict : Bool) (requests : List AdminRequest)
    (req : GetSysAdminReq) :
    ∃ rep, sgetSysAdmin strict (adminTable requests) req = some rep ∧ rep.admins.Nodup ∧
      ∀ item, item ∈ rep.admins ↔ Current requests req.user req.phone item := by
  obtain ⟨items, rows⟩ := exists_ownRows req.user req.phone requests
  refine ⟨{ admins := items }, ?_, ?_, ?_⟩
  · rw [sgetSysAdmin, ← ownRows, ← rows, mapM_adminItem]
    rfl
  · have unique : (ownRows req.user req.phone (adminTable requests)).Nodup :=
      (nodup_adminTable requests).filter _
    rw [← rows] at unique
    exact unique.of_map
  · intro item
    rw [← mem_adminTable, ← mem_ownRows_adminRow, ← rows,
      List.mem_map_of_injective (adminRow_injective ..)]

/-- Requests of other users or phones do not change what is listed. -/
theorem sgetSysAdmin_filter (strict : Bool) (requests : List AdminRequest)
    (req : GetSysAdminReq) :
    sgetSysAdmin strict (adminTable requests) req = sgetSysAdmin strict
      (adminTable (requests.filter (·.owner = (req.user, req.phone)))) req := by
  have same : ownRows req.user req.phone (adminTable requests) = ownRows req.user req.phone
      (adminTable (requests.filter (·.owner = (req.user, req.phone)))) := by
    simp only [ownRows_adminTable, List.filter_filter, Bool.and_self]
  rw [sgetSysAdmin, sgetSysAdmin, ← ownRows, ← ownRows, same]

/-- The requests keep the table a set. -/
structure AdminsSet (strict : Bool) (requests : List AdminRequest) : Prop where
  unique : (adminTable requests).Nodup
  listed : ∀ req : GetSysAdminReq, ∃ rep, sgetSysAdmin strict (adminTable requests) req = some rep ∧
    rep.admins.Nodup ∧ ∀ item, item ∈ rep.admins ↔ Current requests req.user req.phone item
  separate : ∀ req : GetSysAdminReq, sgetSysAdmin strict (adminTable requests) req =
    sgetSysAdmin strict (adminTable (requests.filter (·.owner = (req.user, req.phone)))) req
  repeated : ∀ request : AdminRequest, adminTable (requests ++ [request, request]) =
    adminTable (requests ++ [request])

/-- Any requests keep the table a set: an item is listed to its user once, after it was added and
until it is deleted, and no request of another user or repeated request changes what is listed. -/
theorem adminsSet (strict : Bool) (requests : List AdminRequest) : AdminsSet strict requests where
  unique := nodup_adminTable requests
  listed := sgetSysAdmin_adminTable strict requests
  separate := sgetSysAdmin_filter strict requests
  repeated request := by
    rw [List.append_cons, adminTable_concat, adminTable_concat, apply_apply]

/-- An item that is added twice is listed once, until it is deleted. -/
example : sgetSysAdmin false (adminTable
    [.add ⟨[97], [49], [], [⟨[98], .viewer⟩, ⟨[98], .all⟩, ⟨[98], .viewer⟩]⟩,
      .del ⟨[97], [49], [], [⟨[98], .all⟩]⟩]) ⟨[97], [49], []⟩ =
    some { admins := [⟨[98], .viewer⟩] } := by
  decide

end Requests

end SM.Database
