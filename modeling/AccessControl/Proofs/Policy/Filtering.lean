import AccessControl.Proofs.Catalog.Owners

/-!
# Policies — a policy only filters

What a statement says does not depend on the policy.  A statement that is accepted under a policy is
accepted as the same operation under the policy that limits nothing (`Policy.unlimited`), and the
policy lets the operation through (`Policy.Admits`): it allows the privileges and does not reserve
the name of the role.

**A statement is accepted exactly when it is accepted without limits and its operation is let
through** (`Compiler.compile_ok_iff_admits`).  So a statement that stays accepted comes to the same
operation, and it stays accepted as long as its own privileges are allowed and its own role is not
reserved (`Compiler.compile_admitted`).
-/

namespace AccessControl

/-! ### What a policy looks at -/

/-- The privileges that the operation gives or takes. -/
def Operation.privileges : Operation → List Privilege
  | .grant g => g.privileges.map (·.privilege)
  | .revoke r => r.privileges.map (·.privilege)
  | _ => []

/-- The role that the operation creates or drops. -/
def Operation.changedRole? : Operation → Option String
  | .createRole role | .dropRole role => some role
  | _ => none

namespace Policy

/-- The policy that reserves no name and allows every privilege. -/
def unlimited : Policy where
  reserved := []
  allowed := Coded.members

/-- The policy lets the operation through. -/
structure Admits (policy : Policy) (op : Operation) : Prop where
  allowed : ∀ privilege ∈ op.privileges, privilege ∈ policy.allowed
  reserved : ∀ role ∈ op.changedRole?, Text.upper role ∉ policy.reserved.map Text.upper

/-- A policy that reserves less and allows more lets through what was let through. -/
theorem Admits.mono {policy policy' : Policy} {op : Operation} (h : policy.Admits op)
    (hreserved : policy'.reserved.map Text.upper ⊆ policy.reserved.map Text.upper)
    (hallowed : policy.allowed ⊆ policy'.allowed) : policy'.Admits op where
  allowed privilege hp := hallowed (h.allowed privilege hp)
  reserved role hrole hmem := h.reserved role hrole (hreserved hmem)

section Admits

variable {policy : Policy}

theorem admits_grant_iff {g : PrivilegeGrant} :
    policy.Admits (.grant g) ↔
      ∀ privilege ∈ g.privileges.map (·.privilege), privilege ∈ policy.allowed :=
  ⟨Admits.allowed, fun h => ⟨h, by simp [Operation.changedRole?]⟩⟩

theorem admits_revoke_iff {r : PrivilegeRevocation} :
    policy.Admits (.revoke r) ↔
      ∀ privilege ∈ r.privileges.map (·.privilege), privilege ∈ policy.allowed :=
  ⟨Admits.allowed, fun h => ⟨h, by simp [Operation.changedRole?]⟩⟩

theorem admits_createRole_iff {role : String} :
    policy.Admits (.createRole role) ↔ Text.upper role ∉ policy.reserved.map Text.upper :=
  ⟨fun h => h.reserved role rfl,
    fun h => ⟨by simp [Operation.privileges], by simpa [Operation.changedRole?] using h⟩⟩

theorem admits_dropRole_iff {role : String} :
    policy.Admits (.dropRole role) ↔ Text.upper role ∉ policy.reserved.map Text.upper :=
  ⟨fun h => h.reserved role rfl,
    fun h => ⟨by simp [Operation.privileges], by simpa [Operation.changedRole?] using h⟩⟩

/-- Operations of other kinds are let through by every policy. -/
theorem admits_of_statementKind (policy : Policy) {op : Operation}
    (h : op.statementKind ∉ [.createRole, .dropRole, .grant, .revoke]) : policy.Admits op := by
  cases op with
  | createRole | dropRole | grant | revoke => simp [Operation.statementKind] at h
  | _ => exact ⟨by simp [Operation.privileges], by simp [Operation.changedRole?]⟩

/-- What an operation is made of is read under a policy when it is read without limits and the
operation is let through. -/
theorem exists_admitted_iff {α : Type} {make : α → Operation} {Read Allowed : α → Prop}
    (hmake : ∀ a, policy.Admits (make a) ↔ Allowed a) {op : Operation} :
    (∃ a, (Read a ∧ Allowed a) ∧ make a = op) ↔
      (∃ a, Read a ∧ make a = op) ∧ policy.Admits op := by
  refine ⟨?_, ?_⟩
  · rintro ⟨a, ⟨hread, hallowed⟩, rfl⟩
    exact ⟨⟨a, hread, rfl⟩, (hmake a).mpr hallowed⟩
  · rintro ⟨⟨a, hread, rfl⟩, hadmits⟩
    exact ⟨a, ⟨hread, (hmake a).mp hadmits⟩, rfl⟩

end Admits

theorem roleOfNode_ok_iff_unlimited (policy : Policy) {n : Node} {role : String} :
    policy.roleOfNode n = .ok role ↔
      unlimited.roleOfNode n = .ok role ∧ Text.upper role ∉ policy.reserved.map Text.upper := by
  have hreserved : Text.upper role ∉ unlimited.reserved.map Text.upper := List.not_mem_nil
  rw [roleOfNode_ok_iff, roleOfNode_ok_iff, and_iff_left hreserved]

end Policy

/-! ### Lists of privileges -/

namespace PrivilegeRequest

variable (policy : Policy) {n : Node}

theorem ofNode_ok_iff_unlimited {r : PrivilegeRequest} :
    ofNode policy n = .ok r ↔ ofNode .unlimited n = .ok r ∧ r.privilege ∈ policy.allowed := by
  have hallowed : r.privilege ∈ Policy.unlimited.allowed := Coded.mem_members r.privilege
  rw [ofNode_ok_iff, ofNode_ok_iff]
  tauto

theorem listOfNode_ok_iff_unlimited {rs : List PrivilegeRequest} :
    listOfNode policy n = .ok rs ↔
      listOfNode .unlimited n = .ok rs ∧
        ∀ privilege ∈ rs.map (·.privilege), privilege ∈ policy.allowed := by
  rw [listOfNode_ok_iff, listOfNode_ok_iff, List.forall_mem_map, forall₂_and_right]
  simp only [ofNode_ok_iff_unlimited policy]

/-- The same for a list in its place. -/
theorem exists_listOfNode_iff_unlimited {rs : List PrivilegeRequest} {i : ℕ} :
    (∃ list, n.children[i]? = some list ∧ listOfNode policy list = .ok rs) ↔
      (∃ list, n.children[i]? = some list ∧ listOfNode .unlimited list = .ok rs) ∧
        ∀ privilege ∈ rs.map (·.privilege), privilege ∈ policy.allowed := by
  simp only [listOfNode_ok_iff_unlimited policy, ← and_assoc, exists_and_right]

end PrivilegeRequest

/-! ### Statements -/

variable (policy : Policy) {catalog : Option Catalog} {issue : Issue} {n : Node}

theorem PrivilegeGrant.ofNode_ok_iff_unlimited {g : PrivilegeGrant} :
    (ofNode policy catalog issue n).result = .ok g ↔
      (ofNode .unlimited catalog issue n).result = .ok g ∧
        ∀ privilege ∈ g.privileges.map (·.privilege), privilege ∈ policy.allowed := by
  rw [ofNode_result_ok_iff, ofNode_result_ok_iff,
    PrivilegeRequest.exists_listOfNode_iff_unlimited policy]
  exact and_right_comm

theorem PrivilegeRevocation.ofNode_ok_iff_unlimited {r : PrivilegeRevocation} :
    (ofNode policy catalog n).result = .ok r ↔
      (ofNode .unlimited catalog n).result = .ok r ∧
        ∀ privilege ∈ r.privileges.map (·.privilege), privilege ∈ policy.allowed := by
  rw [ofNode_result_ok_iff, ofNode_result_ok_iff,
    PrivilegeRequest.exists_listOfNode_iff_unlimited policy]
  exact and_right_comm

namespace Compiler

/-- A tree that is read as a statement of some kind is accepted when it is accepted without limits
and its operation is let through. -/
theorem build_ok_iff_admits {kind : StatementKind} {op : Operation} :
    (build ⟨policy, catalog⟩ issue n kind).result = .ok op ↔
      (build ⟨.unlimited, catalog⟩ issue n kind).result = .ok op ∧ policy.Admits op := by
  cases kind with
  | createRole =>
      simp only [build, Attempt.map_result_ok_iff, Attempt.result_ofExcept,
        Policy.roleOfNode_ok_iff_unlimited policy]
      exact Policy.exists_admitted_iff fun _ => Policy.admits_createRole_iff
  | dropRole =>
      simp only [build, Attempt.map_result_ok_iff, Attempt.result_ofExcept,
        Policy.roleOfNode_ok_iff_unlimited policy]
      exact Policy.exists_admitted_iff fun _ => Policy.admits_dropRole_iff
  | grant =>
      simp only [build, Attempt.map_result_ok_iff,
        PrivilegeGrant.ofNode_ok_iff_unlimited policy]
      exact Policy.exists_admitted_iff fun _ => Policy.admits_grant_iff
  | revoke =>
      simp only [build, Attempt.map_result_ok_iff,
        PrivilegeRevocation.ofNode_ok_iff_unlimited policy]
      exact Policy.exists_admitted_iff fun _ => Policy.admits_revoke_iff
  | setRole | grantRole | revokeRole | showGrant | showRoleGrant | showRoles | showCurrentRole
  | showRolePrincipals =>
      -- the policy is not looked at, and the operation has nothing that it looks at
      refine ⟨fun h => ⟨h, policy.admits_of_statementKind ?_⟩, And.left⟩
      rw [statementKind_of_build h]
      decide

variable {policy}

/-- **A statement is accepted exactly when it is accepted without limits and its operation is let
through.** -/
theorem compile_ok_iff_admits {op : Operation} :
    (compile ⟨policy, catalog⟩ issue n).result = .ok op ↔
      (compile ⟨.unlimited, catalog⟩ issue n).result = .ok op ∧ policy.Admits op := by
  simp only [compile_result_ok_iff, build_ok_iff_admits policy, ← and_assoc,
    exists_and_right]

/-- Two policies that accept a statement accept it as the same operation. -/
theorem eq_of_compile {policy' : Policy} {op op' : Operation}
    (h : (compile ⟨policy, catalog⟩ issue n).result = .ok op)
    (h' : (compile ⟨policy', catalog⟩ issue n).result = .ok op') : op' = op := by
  have hunlimited := (compile_ok_iff_admits.mp h).1
  exact Except.ok.inj ((compile_ok_iff_admits.mp h').1.symm.trans hunlimited)

/-- A statement that is accepted under a policy is accepted under another one when that one lets its
operation through. -/
theorem exists_compile_iff_admits {policy' : Policy} {op : Operation}
    (h : (compile ⟨policy, catalog⟩ issue n).result = .ok op) :
    (∃ op', (compile ⟨policy', catalog⟩ issue n).result = .ok op') ↔ policy'.Admits op := by
  refine ⟨?_, fun hadmits => ?_⟩
  · rintro ⟨op', h'⟩
    obtain rfl := eq_of_compile h h'
    exact (compile_ok_iff_admits.mp h').2
  · exact ⟨op, compile_ok_iff_admits.mpr ⟨(compile_ok_iff_admits.mp h).1, hadmits⟩⟩

/-- **A policy only filters.**  Let a statement be accepted under a policy.  Under any other policy
it comes to the same operation, if it is accepted at all.  It is accepted under every policy that
reserves no more names, spelling aside, and allows no fewer privileges.  With other privileges
allowed it stays accepted exactly when those of the operation are among them, and with other names
reserved exactly when the role that the operation creates or drops is not reserved. -/
theorem compile_admitted {op : Operation}
    (h : (compile ⟨policy, catalog⟩ issue n).result = .ok op) :
    (∀ policy' op', (compile ⟨policy', catalog⟩ issue n).result = .ok op' → op' = op) ∧
    (∀ policy' : Policy, policy'.reserved.map Text.upper ⊆ policy.reserved.map Text.upper →
      policy.allowed ⊆ policy'.allowed →
      (compile ⟨policy', catalog⟩ issue n).result = .ok op) ∧
    (∀ allowed, (∃ op', (compile ⟨{ policy with allowed }, catalog⟩ issue n).result = .ok op') ↔
      ∀ privilege ∈ op.privileges, privilege ∈ allowed) ∧
    ∀ reserved, (∃ op', (compile ⟨{ policy with reserved }, catalog⟩ issue n).result = .ok op') ↔
      ∀ role ∈ op.changedRole?, Text.upper role ∉ reserved.map Text.upper := by
  obtain ⟨hunlimited, hadmits⟩ := compile_ok_iff_admits.mp h
  refine ⟨fun policy' op' => eq_of_compile h, fun policy' hreserved hallowed => ?_,
    fun allowed => ?_, fun reserved => ?_⟩
  · exact compile_ok_iff_admits.mpr ⟨hunlimited, hadmits.mono hreserved hallowed⟩
  · rw [exists_compile_iff_admits h]
    exact ⟨fun h' => h'.allowed, fun h' => ⟨h', hadmits.reserved⟩⟩
  · rw [exists_compile_iff_admits h]
    exact ⟨fun h' => h'.reserved, fun h' => ⟨hadmits.allowed, h'⟩⟩

/-- The creation of a role, as a tree. -/
def creationOf (role : String) : Node where
  tag := .word (.statement .createRole)
  children := [.identifier role]

/-- A grant of everything and the creation of the role `Any`, under policies that let them through
and policies that do not. -/
theorem compile_admitted_grantOnTable :
    (compile ⟨{}, none⟩ {} grantOnTable).result = .ok (grantOfTable none) ∧
      (compile ⟨{ reserved := ["none"], allowed := Coded.members }, none⟩ {} grantOnTable).result =
        .ok (grantOfTable none) ∧
      (¬ ∃ op, (compile ⟨{ allowed := [.select, .insert] }, none⟩ {} grantOnTable).result =
        .ok op) ∧
      (compile ⟨{}, none⟩ {} (creationOf "Any")).result = .ok (.createRole "Any") ∧
      ¬ ∃ op, (compile ⟨{ reserved := ["aNY"] }, none⟩ {} (creationOf "Any")).result = .ok op := by
  have hgrant : (compile ⟨{}, none⟩ {} grantOnTable).result = .ok (grantOfTable none) := rfl
  have hrole : (compile ⟨{}, none⟩ {} (creationOf "Any")).result = .ok (.createRole "Any") := by
    refine compile_ok_iff_admits.mpr ⟨rfl, Policy.admits_createRole_iff.mpr ?_⟩
    decide +kernel
  obtain ⟨-, hmono, hallowed, -⟩ := compile_admitted hgrant
  obtain ⟨-, -, -, hreserved⟩ := compile_admitted hrole
  refine ⟨hgrant, hmono _ (by decide +kernel) (by decide), ?_, hrole, ?_⟩
  · rw [hallowed [.select, .insert]]
    decide
  · rw [hreserved ["aNY"]]
    intro hall
    exact hall "Any" rfl (by decide +kernel)

end Compiler

end AccessControl
