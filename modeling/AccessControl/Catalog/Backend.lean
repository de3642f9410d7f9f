import AccessControl.Catalog.Connection

/-!
# Catalogs — backends

Where a host gets its catalog from.  Entries and rows can be changed while the host runs, and a
connection can go out of order and come back; the next question sees the change.
-/

namespace AccessControl

/-- The place that knows owners. -/
inductive Backend where
  /-- Nothing knows them. -/
  | absent
  /-- Entries that the host keeps. -/
  | kept (entries : Entries)
  /-- A catalog that is asked in vain. -/
  | broken (reason : String)
  | connection (connection : Connection)
deriving DecidableEq

/-- A dialect of databases whose catalogs cannot be read. -/
structure UnsupportedDialect where
  dialect : String
deriving DecidableEq

/-- What the owner of the connection is told. -/
def UnsupportedDialect.message (e : UnsupportedDialect) : String :=
  "Unsupported database dialect: " ++ e.dialect

namespace Backend

/-- The backend over a connection, whose dialect has to be a known one. -/
def ofConnection (c : Connection) : Except UnsupportedDialect Backend :=
  if c.dialect = "postgresql" then .ok (.connection c) else .error ⟨c.dialect⟩

/-- The catalog to ask, if there is one. -/
def catalog : Backend → Option Catalog
  | .absent => none
  | .kept entries => some entries.catalog
  | .broken reason => some (.broken reason)
  | .connection c => some c.catalog

/-- The entries or rows that the answers come from. -/
def contents : Backend → Entries
  | .absent | .broken _ => {}
  | .kept entries => entries
  | .connection c => c.rows

/-- The backend with its entries or rows changed. -/
def modify (backend : Backend) (f : Entries → Entries) : Backend :=
  match backend with
  | .absent => .absent
  | .kept entries => .kept (f entries)
  | .broken reason => .broken reason
  | .connection c => .connection { c with rows := f c.rows }

/-- The backend, with its connection failing at a stage from now on, or at none. -/
def failAt (backend : Backend) (stage : Option Stage) : Backend :=
  match backend with
  | .connection c => .connection { c with failing := stage }
  | backend => backend

end Backend

end AccessControl
