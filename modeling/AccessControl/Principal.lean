import AccessControl.Coded

/-!
# Principals

The identities that hold privileges and role memberships.  A statement names a principal with a
kind; the kind is missing when the statement uses a mark that stands for none.
-/

namespace AccessControl

/-- The kinds of identity. -/
inductive PrincipalKind where
  | user
  | group
  | role
deriving DecidableEq

instance : Coded PrincipalKind where
  family := "PrincipalType"
  members := [.user, .group, .role]
  label
    | .user => "USER"
    | .group => "GROUP"
    | .role => "ROLE"
  code
    | .user => 1
    | .group => 2
    | .role => 3
  mem_members a := by cases a <;> decide
  nodup_codes := by decide

/-- An identity that a statement names. -/
structure Principal where
  name : String
  kind : Option PrincipalKind
deriving DecidableEq

end AccessControl
