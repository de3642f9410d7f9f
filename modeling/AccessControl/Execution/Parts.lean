import AccessControl.Journal
import AccessControl.Text.Identifier

/-!
# Execution — parts of a tree

The modules under `Execution` are what is run when a compiler is asked.  They take children,
characters and names from their places one by one, and each of these accesses can fail
(`Failure`): a place is looked at before it is known to be there only where the failure is caught.
What they come to is told by the readers of the same parts under `Statement` and `Compiler`.
-/

namespace AccessControl.Execution

variable {α : Type}

/-- Turns the tree down. -/
def reject (r : Rejection) : Except Failure α :=
  .error r.raised

/-! ### Children -/

/-- The child at a position. -/
def child (n : Node) (position : Int) : Except Failure Node :=
  (n.childAt position).mapError .noChild

/-- The child at a position where the grammar promises one. -/
def part (n : Node) (position : Int) : Except Failure Node :=
  (child n position).tryCatch fun
    | .noChild _ => reject (.missingChild n.tag n.children.length position)
    | failure => .error failure

/-! ### Names -/

/-- The first of some characters. -/
def first (cs : List Char) : Except Failure Char :=
  match cs.head? with
  | some c => .ok c
  | none => .error .noCharacter

/-- The last of some characters. -/
def last (cs : List Char) : Except Failure Char :=
  match cs.getLast? with
  | some c => .ok c
  | none => .error .noCharacter

/-- The name that some characters stand for.  The outer ones are looked at when there are two. -/
def unquote (cs : List Char) : Except Failure String :=
  if 1 < cs.length then do
    let opening ← first cs
    let closing ← last cs
    if opening = Text.tick ∧ closing = Text.tick then
      pure (String.ofList (cs.drop 1).dropLast)
    else pure (String.ofList cs)
  else .ok (String.ofList cs)

/-- The names that a qualified name joins. -/
def splitQualified (text : String) : Except Failure (List String) :=
  (Text.pieces false text.toList).mapM unquote

/-- The last of some names. -/
def lastName (names : List String) : Except Failure String :=
  match names.getLast? with
  | some name => .ok name
  | none => .error .noName

/-- The name that a node stands for. -/
def name (n : Node) : Except Failure String :=
  match n.text with
  | some text => unquote text.toList
  | none => reject (.missingText n.tag)

/-- The names in a list of names. -/
def names (n : Node) : Except Failure (List String) :=
  n.children.mapM name

/-- The unqualified name of a table.  The last part is taken when there are parts. -/
def tableName (n : Node) : Except Failure String :=
  if n.tag = .word .tableName then
    if n.children.isEmpty then reject .emptyTableName
    else do
      let part ← child n (-1)
      name part
  else
    match n.text with
    | some text => do
        let names ← splitQualified text
        lastName names
    | none => reject (.missingText n.tag)

end AccessControl.Execution
