import SM.Inc.ReqReps

/-!
# Tables of the common database

A table is a list of rows, in the order in which a query yields them. Every column may be null.
-/

namespace SM.Database

open SM.Utils

/-- A row of `users`; `expiredate` counts from the epoch. -/
structure Users where
  name : Option Bytes
  passwd : Option Bytes
  phone : Option Bytes
  expiredate : Option Int64
deriving DecidableEq

/-- A row of `sysadmin`. -/
structure Sysadmin where
  user : Option Bytes
  phone : Option Bytes
  admin : Option Bytes
  role : Option Int32
deriving DecidableEq

/-- Reading a column: a database library that is `strict` about null values throws, another one
reads them as empty. -/
def value {Column : Type} [Inhabited Column] (strict : Bool) : Option Column → Option Column
  | some stored => some stored
  | none => if strict then none else some default

/-- A value that is there is read as it is stored. -/
@[simp] theorem value_some {Column : Type} [Inhabited Column] (strict : Bool) (stored : Column) :
    value strict (some stored) = some stored :=
  rfl

/-- A column is readable unless it is null and reading is strict. -/
theorem isSome_value {Column : Type} [Inhabited Column] (strict : Bool) (column : Option Column) :
    (value strict column).isSome = (!strict || column.isSome) := by
  cases column <;> cases strict <;> rfl

end SM.Database
