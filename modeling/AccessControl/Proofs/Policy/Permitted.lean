import AccessControl.Proofs.Reading.Statements

/-!
# Policies — what is compiled is permitted

`Operation.Permitted policy` says of an operation alone, without the statement it came from, that
it obeys a policy: privileges go to roles and roles to groups, only allowed privileges are
granted and revoked, whole-row privileges come without columns, reserved roles are neither
created nor dropped, and no target has a partition.

**Whatever the tree, an accepted statement comes to a permitted operation**
(`Compiler.permitted_of_compile`).  Each reader establishes its own part: the permission of a
target, a privilege, a grant and so on is read off the equivalence of its reader.
-/

namespace AccessControl

/-! ### Permission -/

/-- A target is whole, has an owner only if objects of its kind do, and is without quote marks
when it is a place outside the store. -/
structure Target.Permitted (t : Target) : Prop where
  partition : t.partition = none
  owner : t.kind = .server ∨ t.kind = .uri → t.owner = none
  quotes : t.kind = .uri → '\x27' ∉ t.name.toList ∧ '\x22' ∉ t.name.toList

/-- A privilege is one that the policy allows, and is not limited to columns when it applies to
whole rows. -/
structure PrivilegeRequest.Permitted (policy : Policy) (r : PrivilegeRequest) : Prop where
  allowed : r.privilege ∈ policy.allowed
  columns : r.privilege = .insert ∨ r.privilege = .all → r.columns = []

/-- Privileges are granted to roles. -/
structure PrivilegeGrant.Permitted (policy : Policy) (g : PrivilegeGrant) : Prop where
  privileges : ∀ r ∈ g.privileges, r.Permitted policy
  principals : ∀ p ∈ g.principals, p.kind = some .role
  target : g.target.Permitted
  grantorKind : g.grantorKind = .user

/-- Privileges are revoked from roles. -/
structure PrivilegeRevocation.Permitted (policy : Policy) (r : PrivilegeRevocation) : Prop where
  privileges : ∀ q ∈ r.privileges, q.Permitted policy
  principals : ∀ p ∈ r.principals, p.kind = some .role
  target : ∀ t ∈ r.target, t.Permitted

/-- Roles go to groups, which cannot pass them on. -/
structure Membership.Permitted (m : Membership) : Prop where
  principals : ∀ p ∈ m.principals, p.kind = some .group
  grantorKind : m.grantorKind = .user
  grantOption : m.grantOption = false

/-- The operation obeys the policy. -/
def Operation.Permitted (policy : Policy) : Operation → Prop
  | .createRole role | .dropRole role => Text.upper role ∉ policy.reserved.map Text.upper
  | .grant g => g.Permitted policy
  | .revoke r => r.Permitted policy
  | .grantRole m | .revokeRole m => m.Permitted
  | .showGrant _ principal target => principal.kind = some .role ∧ ∀ t ∈ target, t.Permitted
  | .showRoleGrant _ principal => principal.kind = some .group
  | .setRole _ | .showRoles _ | .showCurrentRole _ | .showRolePrincipals _ _ => True

/-! ### Each reader's part -/

theorem Target.permitted_of_ofNode {catalog : Option Catalog} {object : Node} {t : Target}
    (h : (ofNode catalog object).result = .ok t) : t.Permitted := by
  obtain ⟨-, ⟨_, named, -, -, -, hname, -⟩, howner, hpart⟩ := ofNode_result_ok_iff.mp h
  refine ⟨hpart, ?_, fun hk => ?_⟩
  · rintro (hk | hk) <;> (rw [howner, hk]; rfl)
  · rw [hk] at hname
    obtain ⟨name, -, hname⟩ := map_ok_iff.mp hname
    rw [← hname]
    exact ⟨fun hc => (Text.mem_withoutQuotes.mp hc).2.1 rfl,
      fun hc => (Text.mem_withoutQuotes.mp hc).2.2 rfl⟩

theorem PrivilegeRequest.permitted_of_ofNode {policy : Policy} {n : Node} {r : PrivilegeRequest}
    (h : ofNode policy n = .ok r) : r.Permitted policy := by
  obtain ⟨-, hallowed, -, hcolumns⟩ := ofNode_ok_iff.mp h
  exact ⟨hallowed, fun hp => hcolumns (Privilege.isWholeRow_iff.mpr hp)⟩

theorem PrivilegeRequest.permitted_of_listOfNode {policy : Policy} {n : Node}
    {rs : List PrivilegeRequest} (h : listOfNode policy n = .ok rs) :
    ∀ r ∈ rs, r.Permitted policy :=
  forall_of_forall₂ (listOfNode_ok_iff.mp h) fun _ _ => permitted_of_ofNode

/-- The targets of the clauses of a statement are permitted, so the last one is. -/
theorem Clause.permitted_of_lastTarget? {catalog : Option Catalog} {place : Place} {n : Node}
    {clauses : List Clause} (h : (listOfNode catalog place n).result = .ok clauses) :
    ∀ t ∈ lastTarget? clauses, t.Permitted := by
  intro t ht
  -- the last target is the target of some clause, and all of those are permitted
  obtain ⟨clause, hmem, hclause⟩ := List.mem_filterMap.mp (List.mem_of_getLast? ht)
  refine forall_of_forall₂ (P := fun clause => ∀ t, clause.target? = some t → t.Permitted)
    (listOfNode_result_ok_iff.mp h) (fun m clause hm => ?_) clause hmem t hclause
  rcases ofNode_result_ok_iff.mp hm with ⟨-, -, rfl⟩ | ⟨-, target, htarget, rfl⟩
  · exact fun _ h => nomatch h
  · rintro _ ⟨⟩
    exact Target.permitted_of_ofNode htarget

theorem PrivilegeGrant.permitted_of_ofNode {policy : Policy} {catalog : Option Catalog}
    {issue : Issue} {n : Node} {g : PrivilegeGrant}
    (h : (ofNode policy catalog issue n).result = .ok g) : g.Permitted policy := by
  obtain ⟨⟨_, -, hr⟩, -, ⟨_, hc, ht, -⟩, hp, -, hu⟩ := ofNode_result_ok_iff.mp h
  exact ⟨PrivilegeRequest.permitted_of_listOfNode hr, hp,
    Clause.permitted_of_lastTarget? hc _ ht, hu⟩

theorem PrivilegeRevocation.permitted_of_ofNode {policy : Policy} {catalog : Option Catalog}
    {n : Node} {r : PrivilegeRevocation} (h : (ofNode policy catalog n).result = .ok r) :
    r.Permitted policy := by
  obtain ⟨⟨_, -, hr⟩, -, ⟨_, hc, ht⟩, hp⟩ := ofNode_result_ok_iff.mp h
  exact ⟨PrivilegeRequest.permitted_of_listOfNode hr, hp,
    ht ▸ Clause.permitted_of_lastTarget? hc⟩

theorem Membership.permitted_of_ofNode {issue : Issue} {n : Node} {m : Membership}
    (h : (ofNode issue n).result = .ok m) : m.Permitted := by
  obtain ⟨-, -, hp, -, hu, ho⟩ := ofNode_result_ok_iff.mp h
  exact ⟨hp, hu, ho⟩

theorem Target.permitted_of_shownOfNode {catalog : Option Catalog} {n : Node}
    {t? : Option Target} (h : (shownOfNode catalog n).result = .ok t?) :
    ∀ t ∈ t?, t.Permitted := by
  rcases shownOfNode_result_ok_iff.mp h with ⟨-, rfl⟩ | ⟨_, target, -, -, ht, rfl⟩
  · exact fun _ h => nomatch h
  · rintro _ ⟨⟩
    exact permitted_of_ofNode ht

/-! ### Whole statements -/

/-- A tree that is read as a statement of some kind comes to a permitted operation. -/
theorem Compiler.permitted_of_build {c : Compiler} {issue : Issue} {n : Node}
    {kind : StatementKind} {op : Operation} (h : (c.build issue n kind).result = .ok op) :
    op.Permitted c.policy := by
  cases kind with
  | createRole | dropRole =>
      obtain ⟨role, hr, rfl⟩ := Attempt.map_result_ok_iff.mp h
      exact (Policy.roleOfNode_ok_iff.mp hr).2
  | grant =>
      obtain ⟨g, hg, rfl⟩ := Attempt.map_result_ok_iff.mp h
      exact PrivilegeGrant.permitted_of_ofNode hg
  | revoke =>
      obtain ⟨r, hr, rfl⟩ := Attempt.map_result_ok_iff.mp h
      exact PrivilegeRevocation.permitted_of_ofNode hr
  | grantRole | revokeRole =>
      obtain ⟨m, hm, rfl⟩ := Attempt.map_result_ok_iff.mp h
      exact Membership.permitted_of_ofNode hm
  | setRole =>
      obtain ⟨role, -, rfl⟩ := Attempt.map_result_ok_iff.mp h
      trivial
  | showGrant =>
      obtain ⟨_, _, hp, ht, rfl⟩ := Operation.showGrantOfNode_result_ok_iff.mp h
      exact ⟨(Principal.soleOfNode_result_ok_iff.mp hp).2, Target.permitted_of_shownOfNode ht⟩
  | showRoleGrant =>
      obtain ⟨_, hp, rfl⟩ := Operation.showRoleGrantOfNode_result_ok_iff.mp h
      exact (Principal.soleOfNode_result_ok_iff.mp hp).2
  | showRoles | showCurrentRole =>
      cases h
      trivial
  | showRolePrincipals =>
      obtain ⟨_, _, -, -, rfl⟩ := Operation.showRolePrincipalsOfNode_ok_iff.mp h
      trivial

/-- **What is compiled is permitted.**  Whatever the tree, the session, the policy and the
catalog, an accepted statement comes to an operation that obeys the policy. -/
theorem Compiler.permitted_of_compile {c : Compiler} {issue : Issue} {n : Node} {op : Operation}
    (h : (c.compile issue n).result = .ok op) : op.Permitted c.policy := by
  obtain ⟨kind, -, hbuild⟩ := compile_result_ok_iff.mp h
  exact permitted_of_build hbuild

/-- A grant on a place between quote marks, to a role that is marked by its number. -/
def Node.grantOnPlace : Node where
  tag := .word (.statement .grant)
  children :=
    [{ tag := .word .privilegeList
       children := [{ tag := .word .privilegeItem
                      children := [{ tag := .word (.privilege .select) },
                        { tag := .word .columnList, children := [.identifier "c"] }] }] },
     { tag := .word .principalList
       children := [{ tag := .number 782, children := [.identifier "r"] }] },
     { tag := .word .object
       children := [{ tag := .word (.target .uri), children := [.identifier "'s3:a'"] }] }]

/-- The same grant as an operation. -/
def Operation.grantOfPlace : Operation :=
  .grant ⟨[⟨.select, ["c"]⟩], [⟨"r", some .role⟩], ⟨"s3:a", .uri, none, [], none⟩, none, .user,
    false⟩

theorem Compiler.permitted_of_compile_grantOnPlace :
    (compile {} {} .grantOnPlace).result = .ok .grantOfPlace ∧
      Operation.grantOfPlace.Permitted {} :=
  ⟨rfl, @permitted_of_compile {} {} .grantOnPlace _ rfl⟩

end AccessControl
