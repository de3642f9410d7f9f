import AccessControl.Privilege
import AccessControl.Text.NameSet
import AccessControl.Text.Uppercase

/-!
# Policies

A policy is what a store lets statements do: the role names that nobody may create or drop, and
the privileges that may be granted or revoked.

**Reserved names are compared in capitals** (`isReserved_iff`).
-/

namespace AccessControl

/-- The limits that a store sets. -/
structure Policy where
  /-- The role names that cannot be created or dropped, in any spelling. -/
  reserved : List String := ["ALL", "DEFAULT", "NONE"]
  /-- The privileges that can be granted and revoked. -/
  allowed : List Privilege := [.all, .select, .insert, .create, .drop, .alterMetadata]

namespace Policy

/-- The set of the reserved names in capitals. -/
def reservedNames (policy : Policy) : List String :=
  Text.nameSet (policy.reserved.map Text.upper)

/-- The role name is reserved. -/
def isReserved (policy : Policy) (role : String) : Bool :=
  Text.upper role ∈ policy.reservedNames

/-- **Reserved names are compared in capitals.** -/
theorem isReserved_iff {policy : Policy} {role : String} :
    policy.isReserved role ↔ ∃ name ∈ policy.reserved, Text.upper role = Text.upper name := by
  simp [isReserved, reservedNames, eq_comm]

/-- The privilege can be granted and revoked. -/
def allows (policy : Policy) (privilege : Privilege) : Bool :=
  privilege ∈ policy.allowed

/-- The privileges that can be granted and revoked, each once and in order. -/
def allowedPrivileges (policy : Policy) : List Privilege :=
  Coded.members.filter policy.allows

end Policy

end AccessControl
