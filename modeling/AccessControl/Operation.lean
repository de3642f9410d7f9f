import AccessControl.Statement.Tag

/-!
# Operations

What a statement comes to: one change of the store, or one question to it.  Each operation comes
from one kind of statement (`Operation.statementKind`).
-/

namespace AccessControl

/-- Privileges on one object, given to principals. -/
structure PrivilegeGrant where
  privileges : List PrivilegeRequest
  principals : List Principal
  target : Target
  grantor : Option String
  grantorKind : PrincipalKind := .user
  /-- The principals may grant the privileges further. -/
  grantOption : Bool := false
deriving DecidableEq

/-- Privileges taken from principals, on one object when there is one. -/
structure PrivilegeRevocation where
  privileges : List PrivilegeRequest
  principals : List Principal
  target : Option Target := none
deriving DecidableEq

/-- Roles and the principals that join or leave them. -/
structure Membership where
  roles : List String
  principals : List Principal
  grantor : Option String
  grantorKind : PrincipalKind := .user
  grantOption : Bool := false
deriving DecidableEq

/-- A change of the store or a question to it.  The rows that answer a question go to the result
file. -/
inductive Operation where
  | createRole (role : String)
  | dropRole (role : String)
  | setRole (role : String)
  | grant (grant : PrivilegeGrant)
  | revoke (revocation : PrivilegeRevocation)
  | grantRole (membership : Membership)
  | revokeRole (membership : Membership)
  | showGrant (resultFile : Option String) (principal : Principal) (target : Option Target)
  | showRoleGrant (resultFile : Option String) (principal : Principal)
  | showRoles (resultFile : Option String)
  | showCurrentRole (resultFile : Option String)
  | showRolePrincipals (resultFile : Option String) (role : String)
deriving DecidableEq

/-- The kind of statement that an operation comes from. -/
def Operation.statementKind : Operation → StatementKind
  | .createRole .. => .createRole
  | .dropRole .. => .dropRole
  | .setRole .. => .setRole
  | .grant .. => .grant
  | .revoke .. => .revoke
  | .grantRole .. => .grantRole
  | .revokeRole .. => .revokeRole
  | .showGrant .. => .showGrant
  | .showRoleGrant .. => .showRoleGrant
  | .showRoles .. => .showRoles
  | .showCurrentRole .. => .showCurrentRole
  | .showRolePrincipals .. => .showRolePrincipals

end AccessControl
