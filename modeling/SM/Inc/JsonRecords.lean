import SM.Inc.JsonContainers

/-!
# The records as JSON

`REFLECTION` of the requests and the replies.
-/

namespace SM.Inc

open SM.Utils

/-- The name of a member, as `#name` gives it. -/
def memberName (name : String) : Bytes := name.toList.map fun c => UInt8.ofNat c.toNat

instance : Reflection SysAdminItem where
  initial := ⟨[], .viewer⟩
  members := [
    ⟨memberName "name", Bytes, (·.name), fun name item => { item with name }⟩,
    ⟨memberName "role", AdminRole, (·.role), fun role item => { item with role }⟩]
  members_ne_nil := List.cons_ne_nil _ _
  names_plain := by decide
  names_nodup := by decide
  get_set := by simp
  apart := by simp [Member.Apart]
  rebuild _ _ := rfl
  blank := by simp [JsonValue.assign]
  initial_plain := by simp [JsonValue.strings, Reader.Plain]

instance : Reflection UserGenInfoItem where
  initial := ⟨[], [], 0, 0⟩
  members := [
    ⟨memberName "user", Bytes, (·.user), fun user item => { item with user }⟩,
    ⟨memberName "phone", Bytes, (·.phone), fun phone item => { item with phone }⟩,
    ⟨memberName "expire", Int32, (·.expire), fun expire item => { item with expire }⟩,
    ⟨memberName "logincount", Int32, (·.logincount), fun logincount item => { item with logincount }⟩]
  members_ne_nil := List.cons_ne_nil _ _
  names_plain := by decide
  names_nodup := by decide
  get_set := by simp
  apart := by simp [Member.Apart]
  rebuild _ _ := rfl
  blank := by simp [JsonValue.assign]
  initial_plain := by simp [JsonValue.strings, Reader.Plain]

instance : Reflection RegistReq where
  initial := ⟨[], [], [], []⟩
  members := [
    ⟨memberName "username", Bytes, (·.username), fun username req => { req with username }⟩,
    ⟨memberName "password", Bytes, (·.password), fun password req => { req with password }⟩,
    ⟨memberName "phone", Bytes, (·.phone), fun phone req => { req with phone }⟩,
    ⟨memberName "token", Bytes, (·.token), fun token req => { req with token }⟩]
  members_ne_nil := List.cons_ne_nil _ _
  names_plain := by decide
  names_nodup := by decide
  get_set := by simp
  apart := by simp [Member.Apart]
  rebuild _ _ := rfl
  blank := by simp [JsonValue.assign]
  initial_plain := by simp [JsonValue.strings, Reader.Plain]

instance : Reflection LoginReq where
  initial := ⟨[], [], [], []⟩
  members := [
    ⟨memberName "username", Bytes, (·.username), fun username req => { req with username }⟩,
    ⟨memberName "password", Bytes, (·.password), fun password req => { req with password }⟩,
    ⟨memberName "phone", Bytes, (·.phone), fun phone req => { req with phone }⟩,
    ⟨memberName "token", Bytes, (·.token), fun token req => { req with token }⟩]
  members_ne_nil := List.cons_ne_nil _ _
  names_plain := by decide
  names_nodup := by decide
  get_set := by simp
  apart := by simp [Member.Apart]
  rebuild _ _ := rfl
  blank := by simp [JsonValue.assign]
  initial_plain := by simp [JsonValue.strings, Reader.Plain]

instance : Reflection AddSysAdminReq where
  initial := ⟨[], [], [], []⟩
  members := [
    ⟨memberName "user", Bytes, (·.user), fun user req => { req with user }⟩,
    ⟨memberName "phone", Bytes, (·.phone), fun phone req => { req with phone }⟩,
    ⟨memberName "token", Bytes, (·.token), fun token req => { req with token }⟩,
    ⟨memberName "admins", List SysAdminItem, (·.admins), fun admins req => { req with admins }⟩]
  members_ne_nil := List.cons_ne_nil _ _
  names_plain := by decide
  names_nodup := by decide
  get_set := by simp
  apart := by simp [Member.Apart]
  rebuild _ _ := rfl
  blank := by simp [JsonValue.assign]
  initial_plain := by simp [JsonValue.strings, Reader.Plain]

instance : Reflection GetSysAdminReq where
  initial := ⟨[], [], []⟩
  members := [
    ⟨memberName "user", Bytes, (·.user), fun user req => { req with user }⟩,
    ⟨memberName "phone", Bytes, (·.phone), fun phone req => { req with phone }⟩,
    ⟨memberName "token", Bytes, (·.token), fun token req => { req with token }⟩]
  members_ne_nil := List.cons_ne_nil _ _
  names_plain := by decide
  names_nodup := by decide
  get_set := by simp
  apart := by simp [Member.Apart]
  rebuild _ _ := rfl
  blank := by simp [JsonValue.assign]
  initial_plain := by simp [JsonValue.strings, Reader.Plain]

instance : Reflection DelSysAdminReq where
  initial := ⟨[], [], [], []⟩
  members := [
    ⟨memberName "user", Bytes, (·.user), fun user req => { req with user }⟩,
    ⟨memberName "phone", Bytes, (·.phone), fun phone req => { req with phone }⟩,
    ⟨memberName "token", Bytes, (·.token), fun token req => { req with token }⟩,
    ⟨memberName "admins", List SysAdminItem, (·.admins), fun admins req => { req with admins }⟩]
  members_ne_nil := List.cons_ne_nil _ _
  names_plain := by decide
  names_nodup := by decide
  get_set := by simp
  apart := by simp [Member.Apart]
  rebuild _ _ := rfl
  blank := by simp [JsonValue.assign]
  initial_plain := by simp [JsonValue.strings, Reader.Plain]

instance : Reflection GetUserGenInfoReq where
  initial := ⟨0, [], [], []⟩
  members := [
    ⟨memberName "fromdb", Int32, (·.fromdb), fun fromdb req => { req with fromdb }⟩,
    ⟨memberName "user", Bytes, (·.user), fun user req => { req with user }⟩,
    ⟨memberName "phone", Bytes, (·.phone), fun phone req => { req with phone }⟩,
    ⟨memberName "token", Bytes, (·.token), fun token req => { req with token }⟩]
  members_ne_nil := List.cons_ne_nil _ _
  names_plain := by decide
  names_nodup := by decide
  get_set := by simp
  apart := by simp [Member.Apart]
  rebuild _ _ := rfl
  blank := by simp [JsonValue.assign]
  initial_plain := by simp [JsonValue.strings, Reader.Plain]

instance : Reflection RegistRep where
  initial := {}
  members := [
    ⟨memberName "code", Int32, (·.code), fun code rep => { rep with code }⟩,
    ⟨memberName "user", Bytes, (·.user), fun user rep => { rep with user }⟩,
    ⟨memberName "token", Bytes, (·.token), fun token rep => { rep with token }⟩]
  members_ne_nil := List.cons_ne_nil _ _
  names_plain := by decide
  names_nodup := by decide
  get_set := by simp
  apart := by simp [Member.Apart]
  rebuild _ _ := rfl
  blank := by simp [JsonValue.assign]
  initial_plain := by simp [JsonValue.strings, Reader.Plain]

instance : Reflection LoginRep where
  initial := {}
  members := [
    ⟨memberName "code", Int32, (·.code), fun code rep => { rep with code }⟩,
    ⟨memberName "username", Bytes, (·.username), fun username rep => { rep with username }⟩,
    ⟨memberName "_logincount", UInt64, (·.logincount), fun logincount rep => { rep with logincount }⟩,
    ⟨memberName "token", Bytes, (·.token), fun token rep => { rep with token }⟩]
  members_ne_nil := List.cons_ne_nil _ _
  names_plain := by decide
  names_nodup := by decide
  get_set := by simp
  apart := by simp [Member.Apart]
  rebuild _ _ := rfl
  blank := by simp [JsonValue.assign]
  initial_plain := by simp [JsonValue.strings, Reader.Plain]

instance : Reflection AddSysAdminRep where
  initial := {}
  members := [
    ⟨memberName "code", Int32, (·.code), fun code rep => { rep with code }⟩]
  members_ne_nil := List.cons_ne_nil _ _
  names_plain := by decide
  names_nodup := by decide
  get_set := by simp
  apart := by simp [Member.Apart]
  rebuild _ _ := rfl
  blank := by simp [JsonValue.assign]
  initial_plain := by simp [JsonValue.strings, Reader.Plain]

instance : Reflection GetSysAdminRep where
  initial := {}
  members := [
    ⟨memberName "code", Int32, (·.code), fun code rep => { rep with code }⟩,
    ⟨memberName "user", Bytes, (·.user), fun user rep => { rep with user }⟩,
    ⟨memberName "phone", Bytes, (·.phone), fun phone rep => { rep with phone }⟩,
    ⟨memberName "admins", List SysAdminItem, (·.admins), fun admins rep => { rep with admins }⟩]
  members_ne_nil := List.cons_ne_nil _ _
  names_plain := by decide
  names_nodup := by decide
  get_set := by simp
  apart := by simp [Member.Apart]
  rebuild _ _ := rfl
  blank := by simp [JsonValue.assign]
  initial_plain := by simp [JsonValue.strings, Reader.Plain]

instance : Reflection DelSysAdminRep where
  initial := {}
  members := [
    ⟨memberName "code", Int32, (·.code), fun code rep => { rep with code }⟩]
  members_ne_nil := List.cons_ne_nil _ _
  names_plain := by decide
  names_nodup := by decide
  get_set := by simp
  apart := by simp [Member.Apart]
  rebuild _ _ := rfl
  blank := by simp [JsonValue.assign]
  initial_plain := by simp [JsonValue.strings, Reader.Plain]

instance : Reflection GetUserGenInfoRep where
  initial := {}
  members := [
    ⟨memberName "code", Int32, (·.code), fun code rep => { rep with code }⟩,
    ⟨memberName "users", List UserGenInfoItem, (·.users), fun users rep => { rep with users }⟩]
  members_ne_nil := List.cons_ne_nil _ _
  names_plain := by decide
  names_nodup := by decide
  get_set := by simp
  apart := by simp [Member.Apart]
  rebuild _ _ := rfl
  blank := by simp [JsonValue.assign]
  initial_plain := by simp [JsonValue.strings, Reader.Plain]

end SM.Inc
