import AccessControl.Catalog.Basic
import AccessControl.Execution.Parts

/-!
# Execution — targets

An object is searched for partitions first.  What comes after the name of a target is gone through
once, and each list of columns on the way replaces the one before.
-/

namespace AccessControl.Execution

/-- The kind, the name and the owner of a target. -/
def identity (catalog : Option Catalog) (target named : Node) :
    Attempt Failure (ObjectKind × String × Option String) :=
  match target.tag.objectKind? with
  | some .uri => do
      let name ← name named
      pure (.uri, Text.withoutQuotes name, none)
  | some .server => do
      let name ← name named
      pure (.server, name, none)
  | some .table => do
      let name ← tableName named
      let owner ← Catalog.lookupOwner catalog .table name
      pure (.table, name, owner)
  | some .database => do
      let name ← name named
      let owner ← Catalog.lookupOwner catalog .database name
      pure (.database, name, owner)
  | none => Attempt.fail (Rejection.unknownTarget target.tag).raised

/-- The columns so far, after one more child of a target. -/
def nextColumns (columns : List String) (n : Node) : Except Failure (List String) :=
  if n.tag = .word .columnList then names n else .ok columns

/-- The columns that further children of a target limit it to. -/
def targetColumns (further : List Node) : Except Failure (List String) :=
  further.foldlM nextColumns []

/-- The target of an object. -/
def target (catalog : Option Catalog) (object : Node) : Attempt Failure Target :=
  if object.hasPartition then Attempt.fail Rejection.partitionTarget.raised
  else do
    let target ← part object 0
    let named ← part target 0
    let (kind, name, owner) ← identity catalog target named
    let columns ← targetColumns (target.children.drop 1)
    pure { name, kind, owner, columns }

/-- The target is no partition. -/
def requireWhole (target : Target) : Except Failure Unit :=
  if target.partition.isSome then reject .partitionTarget else .ok ()

end AccessControl.Execution
