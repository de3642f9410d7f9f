import AccessControl.Compiler.Principals
import AccessControl.Compiler.Privileges
import AccessControl.Compiler.Targets
import AccessControl.Operation
import AccessControl.Session

/-!
# Compilation — grants and revocations of privileges

A grant or revocation has a list of privileges, a list of principals and any number of further
clauses: objects and, in a grant, the permission to grant further.  The last object counts.
Privileges go to roles only.

The target of the last object is not asked again whether it is a partition, as it is when a
statement is run (`Execution.requireWhole`): no target that is read is one
(`Clause.partition_of_lastTarget?`).
-/

namespace AccessControl

/-! ### Clauses -/

/-- A clause after the two lists. -/
inductive Clause where
  | grantOption
  | object (target : Target)
deriving DecidableEq

namespace Clause

/-- The clause of a node.  Only a grant can give the permission to grant further. -/
def ofNode (catalog : Option Catalog) (place : Place) (n : Node) : Attempt Rejection Clause :=
  if n.tag = .word .grantOption ∧ place = .grant then pure .grantOption
  else if n.tag = .word .object then do
    let target ← Target.ofNode catalog n
    pure (.object target)
  else Attempt.fail (.unexpectedNode place n.tag)

/-- The target of a clause. -/
def target? : Clause → Option Target
  | .grantOption => none
  | .object target => some target

/-- The target of the last object. -/
def lastTarget? (clauses : List Clause) : Option Target :=
  (clauses.filterMap target?).getLast?

/-- The clauses of a statement. -/
def listOfNode (catalog : Option Catalog) (place : Place) (n : Node) :
    Attempt Rejection (List Clause) :=
  (n.children.drop 2).mapM (ofNode catalog place)

end Clause

/-! ### Statements -/

/-- The grant of a statement. -/
def PrivilegeGrant.ofNode (policy : Policy) (catalog : Option Catalog) (issue : Issue)
    (n : Node) : Attempt Rejection PrivilegeGrant := do
  let privilegeList ← n.part 0
  let privileges ← PrivilegeRequest.listOfNode policy privilegeList
  let principalList ← n.part 1
  let principals ← Principal.listOfNode principalList
  let clauses ← Clause.listOfNode catalog .grant n
  match Clause.lastTarget? clauses with
  | none => Attempt.fail .missingObject
  | some target => do
      Principal.requireKind .role principals
      pure {
        privileges, principals, target
        grantor := issue.grantor
        grantOption := clauses.contains .grantOption }

/-- The revocation of a statement. -/
def PrivilegeRevocation.ofNode (policy : Policy) (catalog : Option Catalog) (n : Node) :
    Attempt Rejection PrivilegeRevocation := do
  let privilegeList ← n.part 0
  let privileges ← PrivilegeRequest.listOfNode policy privilegeList
  let principalList ← n.part 1
  let principals ← Principal.listOfNode principalList
  let clauses ← Clause.listOfNode catalog .revoke n
  Principal.requireKind .role principals
  pure { privileges, principals, target := Clause.lastTarget? clauses }

end AccessControl
