import AccessControl.Policy
import AccessControl.Statement.Parts

/-!
# Compilation — privileges

A requested privilege is a node whose first child is tagged with the privilege and whose second
child, if there is one, lists columns.
-/

namespace AccessControl.PrivilegeRequest

/-- The privilege that a tag stands for, if the policy lets it be granted and revoked. -/
def privilegeOfTag (policy : Policy) (tag : Tag) : Except Rejection Privilege :=
  match tag.privilege? with
  | none => .error (.unknownPrivilege tag)
  | some privilege =>
      if policy.allows privilege then .ok privilege else .error (.privilegeNotAllowed privilege)

/-- The columns that a node limits its privilege to. -/
def columnsOfNode (n : Node) : Except Rejection (List String) :=
  match n.children[1]? with
  | none => .ok []
  | some list =>
      if list.tag = .word .columnList then list.names
      else .error (.unexpectedNode .privilege list.tag)

/-- A privilege on columns.  A privilege on whole rows takes none. -/
def scope (privilege : Privilege) (columns : List String) : Except Rejection PrivilegeRequest :=
  if columns ≠ [] ∧ privilege.isWholeRow then .error (.columnsNotAllowed privilege)
  else .ok ⟨privilege, columns⟩

/-- The requested privilege of a node. -/
def ofNode (policy : Policy) (n : Node) : Except Rejection PrivilegeRequest := do
  let head ← n.part 0
  let privilege ← privilegeOfTag policy head.tag
  let columns ← columnsOfNode n
  scope privilege columns

/-- The requested privileges of a list. -/
def listOfNode (policy : Policy) (n : Node) : Except Rejection (List PrivilegeRequest) :=
  n.children.mapM (ofNode policy)

end AccessControl.PrivilegeRequest
