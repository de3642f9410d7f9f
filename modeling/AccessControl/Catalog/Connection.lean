import AccessControl.Catalog.Entries

/-!
# Catalogs — a connection to a database

A database that keeps its own catalog is asked over a connection.  Each question runs between
savepoints, so that a failing question leaves the surrounding transaction usable: whatever happens
inside, the savepoint is closed, by a release on success and by a rollback on failure
(`savepoint`).

**A connection in working order answers as its rows do** (`owner_result_eq`).
-/

namespace AccessControl

/-! ### The questions -/

/-- The text of the owner query of a kind. -/
def CatalogKind.query : CatalogKind → String
  | .table => "
SELECT tableowner
FROM pg_tables
WHERE tablename = :table_name
ORDER BY array_position(current_schemas(false), schemaname::text) NULLS LAST, schemaname
LIMIT 1
"
  | .database => "
SELECT pg_get_userbyid(datdba)
FROM pg_database
WHERE datname = :database_name
"

/-- The parameter of the owner query of a kind, which takes the name of the object. -/
def CatalogKind.parameter : CatalogKind → String
  | .table => "table_name"
  | .database => "database_name"

/-! ### Connections -/

/-- Where a connection can fail. -/
inductive Stage where
  | begin
  | execute
  | fetch
deriving DecidableEq

/-- The reason that a failing connection gives. -/
def Stage.reason : Stage → String
  | .begin => "begin failed"
  | .execute => "execute failed"
  | .fetch => "fetch failed"

/-- A connection to a database: the dialect it speaks, the rows of its catalog and, while it is
out of order, the stage at which it fails. -/
structure Connection where
  dialect : String := "postgresql"
  rows : Entries := {}
  failing : Option Stage := none
deriving DecidableEq

namespace Connection

variable {α : Type}

/-- A contact with the database. -/
def send (exchange : Exchange) : Attempt Fault Unit :=
  Attempt.note (.call (.exchange exchange))

/-- The connection fails if this is the stage at which it does. -/
def check (c : Connection) (stage : Stage) : Attempt Fault Unit :=
  if c.failing = some stage then Attempt.fail (.failed stage.reason) else pure ()

/-- What is done inside a savepoint.  The savepoint is closed at the end in either case, and a
failure inside it is passed on. -/
def savepoint (c : Connection) (inside : Attempt Fault α) : Attempt Fault α :=
  if c.failing = some .begin then do
    send .beginFailed
    Attempt.fail (.failed Stage.begin.reason)
  else do
    send .begin
    let a ← inside.noteError fun _ => .call (.exchange .rollback)
    send .release
    pure a

/-- The row of the catalog for an object, if there is one. -/
def fetchRow (c : Connection) (kind : CatalogKind) (name : String) :
    Attempt Fault (Option (Option String)) :=
  c.savepoint do
    send (.execute kind [(kind.parameter, name)])
    c.check .execute
    send .fetch
    c.check .fetch
    pure (c.rows.find? kind name)

/-- The owner of an object.  Finding a row is worth a remark; finding none is a fault. -/
def owner (c : Connection) (kind : CatalogKind) (name : String) :
    Attempt Fault (Option String) := do
  match ← c.fetchRow kind name with
  | some owner =>
      Attempt.note (.record (.ownerFound kind name owner))
      pure owner
  | none => Attempt.fail (.missing kind name)

/-- The catalog behind the connection. -/
def catalog (c : Connection) : Catalog where
  owner := c.owner

/-! ### Laws -/

/-- **A connection in working order answers as its rows do.** -/
theorem owner_result_eq {c : Connection} (h : c.failing = none) (kind : CatalogKind)
    (name : String) : (c.owner kind name).result = (c.rows.catalog.owner kind name).result := by
  cases hr : c.rows.find? kind name <;>
    simp [owner, fetchRow, savepoint, check, send, Entries.catalog, h, hr] <;> rfl

end Connection

end AccessControl
