import AccessControl.Rejection
import AccessControl.Statement.Node
import AccessControl.Text.Identifier

/-!
# Statements — required parts

The grammar promises that certain nodes have children and texts.  These functions take what was
promised, and reject the tree when it is not there.
-/

namespace AccessControl.Node

/-- The child at a position. -/
def part (n : Node) (position : Int) : Except Rejection Node :=
  match n.child? position with
  | some child => .ok child
  | none => .error (.missingChild n.tag n.children.length position)

/-- The token of a node as it stands. -/
def token (n : Node) : Except Rejection String :=
  match n.text with
  | some text => .ok text
  | none => .error (.missingText n.tag)

/-- The name that a node stands for. -/
def name (n : Node) : Except Rejection String :=
  n.token.map Text.unquote

/-- The names in a list of names. -/
def names (n : Node) : Except Rejection (List String) :=
  n.children.mapM name

theorem part_ok_iff {n child : Node} {position : Int} :
    n.part position = .ok child ↔ n.child? position = some child := by
  cases h : n.child? position <;> simp [part, h]

theorem part_ok_nat_iff {n child : Node} {i : Nat} :
    n.part i = .ok child ↔ n.children[i]? = some child := by
  rw [part_ok_iff, child?_ofNat]

theorem name_ok_iff {n : Node} {s : String} :
    n.name = .ok s ↔ ∃ text, n.text = some text ∧ Text.unquote text = s := by
  cases h : n.text <;> simp [name, token, h, Except.map]

end AccessControl.Node
