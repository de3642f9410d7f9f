import AccessControl.Compiler.Principals
import AccessControl.Operation
import AccessControl.Session

/-!
# Compilation — role membership

A membership statement has a list of principals, and every further child names a role.  Roles go
to groups only.
-/

namespace AccessControl

/-- The roles of a statement. -/
def Membership.rolesOfNode (n : Node) : Except Rejection (List String) :=
  (n.children.drop 1).mapM Node.name

/-- The membership of a statement. -/
def Membership.ofNode (issue : Issue) (n : Node) : Attempt Rejection Membership := do
  let principalList ← n.part 0
  let principals ← Principal.listOfNode principalList
  let roles ← rolesOfNode n
  Principal.requireKind .group principals
  pure { roles, principals, grantor := issue.grantor }

end AccessControl
