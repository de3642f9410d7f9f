import AccessControl.Coded

/-!
# Privileges

What can be done to an object.  The grammar knows more privileges than a policy delegates.
-/

namespace AccessControl

/-- The privileges that the grammar knows. -/
inductive Privilege where
  /-- Every privilege on the object. -/
  | all
  /-- Read rows. -/
  | select
  /-- Write new rows. -/
  | insert
  /-- Change rows. -/
  | update
  /-- Delete rows. -/
  | delete
  /-- Make new objects inside the object. -/
  | create
  /-- Drop the object. -/
  | drop
  /-- Change the definition of the object. -/
  | alterMetadata
  /-- Change the data as a whole, by loading or emptying it. -/
  | alterData
  /-- Make indexes. -/
  | index
  /-- Take explicit locks. -/
  | lock
  /-- List databases. -/
  | showDatabase
deriving DecidableEq

instance : Coded Privilege where
  family := "Privilege"
  members :=
    [.all, .select, .insert, .update, .delete, .create, .drop, .alterMetadata, .alterData,
      .index, .lock, .showDatabase]
  label
    | .all => "ALL"
    | .select => "SELECT"
    | .insert => "INSERT"
    | .update => "UPDATE"
    | .delete => "DELETE"
    | .create => "CREATE"
    | .drop => "DROP"
    | .alterMetadata => "ALTER_METADATA"
    | .alterData => "ALTER_DATA"
    | .index => "INDEX"
    | .lock => "LOCK"
    | .showDatabase => "SHOW_DATABASE"
  code
    | .all => 1
    | .select => 2
    | .insert => 3
    | .update => 4
    | .delete => 5
    | .create => 6
    | .drop => 7
    | .alterMetadata => 8
    | .alterData => 9
    | .index => 10
    | .lock => 11
    | .showDatabase => 12
  mem_members a := by cases a <;> decide
  nodup_codes := by decide

/-- The privilege applies to whole rows, so it cannot be limited to columns. -/
def Privilege.isWholeRow : Privilege → Bool
  | .all | .insert => true
  | _ => false

/-- The privileges that apply to whole rows, in order. -/
def Privilege.wholeRow : List Privilege :=
  Coded.members.filter isWholeRow

/-- A privilege asked for by a statement, on the whole object or, when there are columns, on
them. -/
structure PrivilegeRequest where
  privilege : Privilege
  columns : List String := []
deriving DecidableEq

end AccessControl
