import AccessControl.Catalog.Basic
import AccessControl.Statement.Parts

/-!
# Compilation — targets

The first child of an object is the target, tagged with its kind.  Its first child names the
object, and further children can limit it to columns.  Partitions are refused before anything
else is looked at, wherever they hide in the tree.
-/

namespace AccessControl

/-- The unqualified name of a table.  A table name has one child for each part; any other node
has the whole qualified name in its text. -/
def Node.tableName (n : Node) : Except Rejection String :=
  if n.tag = .word .tableName then
    match n.children.getLast? with
    | some last => last.name
    | none => .error .emptyTableName
  else n.token.map Text.unqualified

/-- The name of an object of some kind. -/
def ObjectKind.nameOfNode (n : Node) : ObjectKind → Except Rejection String
  | .server | .database => n.name
  | .table => n.tableName
  | .uri => n.name.map Text.withoutQuotes

namespace Target

/-- The kind of target that a tag stands for. -/
def kindOfTag (tag : Tag) : Except Rejection ObjectKind :=
  match tag.objectKind? with
  | some kind => .ok kind
  | none => .error (.unknownTarget tag)

/-- The owner of a target of some kind: the catalog is asked about tables and databases only. -/
def ownerOf (catalog : Option Catalog) (kind : ObjectKind) (name : String) :
    Attempt Rejection (Option String) :=
  if kind.isOwned then Catalog.lookupOwner catalog kind name else pure none

/-- The columns that further children of a target limit it to.  Every list of columns has to be
readable, and the last one counts. -/
def columnsOfNodes (further : List Node) : Except Rejection (List String) := do
  let lists ← (further.filter fun n => n.tag = .word .columnList).mapM Node.names
  pure (lists.getLast?.getD [])

/-- The target of an object. -/
def ofNode (catalog : Option Catalog) (object : Node) : Attempt Rejection Target :=
  if object.hasPartition then Attempt.fail .partitionTarget
  else do
    let target ← object.part 0
    let named ← target.part 0
    let kind ← kindOfTag target.tag
    let name ← kind.nameOfNode named
    let owner ← ownerOf catalog kind name
    let columns ← columnsOfNodes (target.children.drop 1)
    pure { name, kind, owner, columns }

end Target

end AccessControl
