import AccessControl.Compiler.Principals
import AccessControl.Compiler.Targets
import AccessControl.Operation
import AccessControl.Session

/-!
# Compilation — questions

Statements that ask the store for its grants, roles and members.
-/

namespace AccessControl

/-- The principal of a statement about one principal, of the kind that the statement takes. -/
def Principal.soleOfNode (required : PrincipalKind) (n : Node) : Attempt Rejection Principal := do
  let child ← n.part 0
  let principal ← Principal.ofNode child
  Principal.requireKind required [principal]
  pure principal

/-- The target that a question about grants is limited to. -/
def Target.shownOfNode (catalog : Option Catalog) (n : Node) :
    Attempt Rejection (Option Target) :=
  match n.children[1]? with
  | none => pure none
  | some object =>
      if object.tag = .word .shownObject then some <$> Target.ofNode catalog object
      else Attempt.fail (.unexpectedNode .showGrant object.tag)

namespace Operation

/-- The question for the grants of a role. -/
def showGrantOfNode (catalog : Option Catalog) (issue : Issue) (n : Node) :
    Attempt Rejection Operation := do
  let principal ← Principal.soleOfNode .role n
  let target ← Target.shownOfNode catalog n
  pure (.showGrant issue.resultFile principal target)

/-- The question for the roles of a group. -/
def showRoleGrantOfNode (issue : Issue) (n : Node) : Attempt Rejection Operation := do
  let principal ← Principal.soleOfNode .group n
  pure (.showRoleGrant issue.resultFile principal)

/-- The question for the principals of a role, which is the only child. -/
def showRolePrincipalsOfNode (issue : Issue) (n : Node) : Except Rejection Operation :=
  match n.children with
  | [role] => role.name.map (.showRolePrincipals issue.resultFile)
  | children => .error (.notOneRole (children.map Node.tag))

end Operation

end AccessControl
