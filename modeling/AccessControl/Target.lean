import AccessControl.Coded

/-!
# Targets

What privileges apply to: a server, a database, a table or a place outside the store.  A catalog
knows the owners of tables and databases.
-/

namespace AccessControl

/-- The kinds of target. -/
inductive ObjectKind where
  | server
  | database
  | table
  | uri
deriving DecidableEq

instance : Coded ObjectKind where
  family := "ObjectType"
  members := [.server, .database, .table, .uri]
  label
    | .server => "SERVER"
    | .database => "DATABASE"
    | .table => "TABLE"
    | .uri => "URI"
  code
    | .server => 1
    | .database => 2
    | .table => 3
    | .uri => 4
  mem_members a := by cases a <;> decide
  nodup_codes := by decide

/-- The kind as a word inside a sentence. -/
def ObjectKind.noun : ObjectKind → String
  | .server => "server"
  | .database => "database"
  | .table => "table"
  | .uri => "uri"

/-- The kinds of object whose owners a catalog knows. -/
inductive CatalogKind where
  | table
  | database
deriving DecidableEq

/-- The kind as a word inside a sentence. -/
def CatalogKind.noun : CatalogKind → String
  | .table => "table"
  | .database => "database"

/-- The kind as the first word of a sentence. -/
def CatalogKind.title : CatalogKind → String
  | .table => "Table"
  | .database => "Database"

/-- Where a catalog is asked about a kind of target: a table among the tables, anything else
among the databases. -/
def ObjectKind.catalogKind : ObjectKind → CatalogKind
  | .table => .table
  | _ => .database

/-- A target of this kind has an owner. -/
def ObjectKind.isOwned : ObjectKind → Bool
  | .table | .database => true
  | .server | .uri => false

/-- The column values that pick one partition of a table. -/
structure PartitionSpec where
  values : List (String × String)
deriving DecidableEq

/-- The object that a privilege applies to, limited to columns when there are any.  The owner is
advice: it is there only when a catalog could tell. -/
structure Target where
  name : String
  kind : ObjectKind
  owner : Option String := none
  columns : List String := []
  partition : Option PartitionSpec := none
deriving DecidableEq

/-- The target is of a kind. -/
def Target.isA (target : Target) (kind : ObjectKind) : Bool :=
  target.kind = kind

end AccessControl
