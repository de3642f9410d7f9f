import AccessControl.Attempt
import AccessControl.Execution.Parts
import AccessControl.Policy

/-!
# Execution — lists of principals and privileges

The lists at the beginning of a statement are read item by item.  What follows the head of a
privilege is taken when there is more than the head.
-/

namespace AccessControl.Execution

/-! ### Principals -/

/-- The principal of a node. -/
def principal (n : Node) : Attempt Failure Principal := do
  let named ← part n 0
  let name ← name named
  let principal : Principal := ⟨name, n.tag.principalKind?⟩
  Attempt.note (.record (.principal principal))
  pure principal

/-- The principals of a list. -/
def principals (n : Node) : Attempt Failure (List Principal) :=
  n.children.mapM principal

/-- Looks at principals one after another for one that is not of the kind. -/
def requireKind (required : PrincipalKind) : List Principal → Except Failure Unit
  | [] => .ok ()
  | p :: ps =>
      if p.kind ≠ some required then reject (.principalNotSupported p.kind required)
      else requireKind required ps

/-! ### Privileges -/

/-- The privilege that a tag stands for. -/
def privilegeOfTag (policy : Policy) (tag : Tag) : Except Failure Privilege :=
  match tag.privilege? with
  | none => reject (.unknownPrivilege tag)
  | some privilege =>
      if policy.allows privilege then .ok privilege else reject (.privilegeNotAllowed privilege)

/-- The columns that a node limits its privilege to. -/
def columns (n : Node) : Except Failure (List String) :=
  if 1 < n.children.length then do
    let list ← child n 1
    if list.tag = .word .columnList then names list
    else reject (.unexpectedNode .privilege list.tag)
  else .ok []

/-- The requested privilege of a node. -/
def privilege (policy : Policy) (n : Node) : Except Failure PrivilegeRequest := do
  let head ← part n 0
  let privilege ← privilegeOfTag policy head.tag
  let columns ← columns n
  if columns ≠ [] ∧ privilege.isWholeRow then reject (.columnsNotAllowed privilege)
  else pure ⟨privilege, columns⟩

/-- The requested privileges of a list. -/
def privileges (policy : Policy) (n : Node) : Except Failure (List PrivilegeRequest) :=
  n.children.mapM (privilege policy)

end AccessControl.Execution
