import AccessControl.Compiler.Basic
import AccessControl.Execution.Lists
import AccessControl.Execution.Targets

/-!
# Execution — statements

A statement is read as its root says, and what turns it down becomes a verdict (`compile`).  Only
rejections become verdicts: any other failure ends the compilation without one.
-/

namespace AccessControl.Execution

/-! ### Grants and revocations of privileges -/

/-- What the clauses of a grant come to so far: the target of the last object, and whether the
permission to grant further is among them. -/
abbrev Clauses := Option Target × Bool

/-- One more clause of a grant. -/
def grantClause (catalog : Option Catalog) (clauses : Clauses) (n : Node) :
    Attempt Failure Clauses :=
  if n.tag = .word .grantOption then pure (clauses.1, true)
  else if n.tag = .word .object then do
    let target ← target catalog n
    pure (some target, clauses.2)
  else Attempt.fail (Rejection.unexpectedNode .grant n.tag).raised

/-- One more clause of a revocation. -/
def revokeClause (catalog : Option Catalog) (_ : Option Target) (n : Node) :
    Attempt Failure (Option Target) :=
  if n.tag ≠ .word .object then Attempt.fail (Rejection.unexpectedNode .revoke n.tag).raised
  else some <$> target catalog n

/-- The grant of a statement. -/
def grant (policy : Policy) (catalog : Option Catalog) (issue : Issue) (n : Node) :
    Attempt Failure PrivilegeGrant := do
  let privilegeList ← part n 0
  let privileges ← privileges policy privilegeList
  let principalList ← part n 1
  let principals ← principals principalList
  let (target?, grantOption) ← (n.children.drop 2).foldlM (grantClause catalog) (none, false)
  match target? with
  | none => Attempt.fail Rejection.missingObject.raised
  | some target => do
      requireWhole target
      requireKind .role principals
      pure { privileges, principals, target, grantor := issue.grantor, grantOption }

/-- The revocation of a statement. -/
def revocation (policy : Policy) (catalog : Option Catalog) (n : Node) :
    Attempt Failure PrivilegeRevocation := do
  let privilegeList ← part n 0
  let privileges ← privileges policy privilegeList
  let principalList ← part n 1
  let principals ← principals principalList
  let target ← (n.children.drop 2).foldlM (revokeClause catalog) none
  match target with
  | none => pure ()
  | some target => requireWhole target
  requireKind .role principals
  pure { privileges, principals, target }

/-! ### Roles -/

/-- The role that a statement creates or drops. -/
def role (policy : Policy) (n : Node) : Except Failure String := do
  let named ← part n 0
  let role ← name named
  if policy.isReserved role then reject (.reservedRole policy.reservedNames) else pure role

/-- The roles of a statement. -/
def roles (n : Node) : Except Failure (List String) :=
  (n.children.drop 1).mapM name

/-- The membership of a statement. -/
def membership (issue : Issue) (n : Node) : Attempt Failure Membership := do
  let principalList ← part n 0
  let principals ← principals principalList
  let roles ← roles n
  requireKind .group principals
  pure { roles, principals, grantor := issue.grantor }

/-! ### Questions -/

/-- The principal of a statement about one principal. -/
def solePrincipal (required : PrincipalKind) (n : Node) : Attempt Failure Principal := do
  let child ← part n 0
  let principal ← principal child
  requireKind required [principal]
  pure principal

/-- The question for the grants of a role.  The object is taken when there is more than the
role. -/
def showGrant (catalog : Option Catalog) (issue : Issue) (n : Node) :
    Attempt Failure Operation := do
  let principal ← solePrincipal .role n
  if 1 < n.children.length then
    let object ← child n 1
    if object.tag = .word .shownObject then
      let target ← target catalog object
      pure (.showGrant issue.resultFile principal (some target))
    else Attempt.fail (Rejection.unexpectedNode .showGrant object.tag).raised
  else pure (.showGrant issue.resultFile principal none)

/-- The question for the roles of a group. -/
def showRoleGrant (issue : Issue) (n : Node) : Attempt Failure Operation := do
  let principal ← solePrincipal .group n
  pure (.showRoleGrant issue.resultFile principal)

/-- The question for the principals of a role.  The role is taken when it is the only child. -/
def showRolePrincipals (issue : Issue) (n : Node) : Except Failure Operation :=
  if n.children.length ≠ 1 then reject (.notOneRole (n.children.map Node.tag))
  else do
    let named ← child n 0
    let role ← name named
    pure (.showRolePrincipals issue.resultFile role)

/-! ### Compilation -/

/-- The operation of a tree that is read as a statement of some kind. -/
def build (c : Compiler) (issue : Issue) (n : Node) : StatementKind → Attempt Failure Operation
  | .createRole => .createRole <$> Attempt.ofExcept (role c.policy n)
  | .dropRole => .dropRole <$> Attempt.ofExcept (role c.policy n)
  | .grant => .grant <$> grant c.policy c.catalog issue n
  | .revoke => .revoke <$> revocation c.policy c.catalog n
  | .grantRole => .grantRole <$> membership issue n
  | .revokeRole => .revokeRole <$> membership issue n
  | .setRole => .setRole <$> Attempt.ofExcept (part n 0 >>= name)
  | .showGrant => showGrant c.catalog issue n
  | .showRoleGrant => showRoleGrant issue n
  | .showRoles => pure (.showRoles issue.resultFile)
  | .showCurrentRole => pure (.showCurrentRole issue.resultFile)
  | .showRolePrincipals => Attempt.ofExcept (showRolePrincipals issue n)

/-- Makes a remark, once it is written. -/
def remark (record : Record) : Attempt Failure Unit :=
  if record.IsWritable then Attempt.note (.record record) else Attempt.fail .longNumber

/-- The operation of a statement, read as its root says. -/
def dispatch (c : Compiler) (issue : Issue) (n : Node) : Attempt Failure Operation :=
  match n.tag.statement? with
  | none => Attempt.fail (Rejection.unknownStatement n.tag).raised
  | some kind => do
      remark (.compiling n.tag)
      build c issue n kind

/-- What becomes of a statement.  A rejection is remarked on and makes the verdict; any other
failure is passed on. -/
def compile (c : Compiler) (issue : Issue) (n : Node) : Attempt Failure Verdict :=
  (Verdict.accepted <$> dispatch c issue n).recover fun
    | .rejection r => do
        remark (.refused n.tag r)
        pure (.rejected r)
    | failure => Attempt.fail failure

end AccessControl.Execution
