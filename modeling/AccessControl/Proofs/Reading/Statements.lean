import AccessControl.Compiler.Basic
import AccessControl.Proofs.Reading.Parts
import AccessControl.Proofs.Reading.Targets

/-!
# Reading — statements

When the readers of whole statements succeed, and with which operation.

* `compile_result_ok_iff`: **a statement is accepted when the reader for the kind of its root
  accepts it.**
* One equivalence for each reader of a statement, in terms of the readers of its parts.
-/

namespace AccessControl

/-! ### Roles -/

theorem Policy.isReserved_eq_false_iff {policy : Policy} {role : String} :
    policy.isReserved role = false ↔ Text.upper role ∉ policy.reserved.map Text.upper := by
  simp [isReserved, reservedNames]

theorem Policy.roleOfNode_ok_iff {policy : Policy} {n : Node} {role : String} :
    policy.roleOfNode n = .ok role ↔
      (∃ named, n.children[0]? = some named ∧ named.name = .ok role) ∧
        Text.upper role ∉ policy.reserved.map Text.upper := by
  rw [← isReserved_eq_false_iff]
  simp only [roleOfNode, bind_ok_iff]
  refine ⟨?_, ?_⟩
  · rintro ⟨named, hn, name, hname, h⟩
    split at h
    · cases h
    · rename_i hr
      cases h
      exact ⟨⟨named, Node.part_ok_nat_iff.mp hn, hname⟩, by simpa using hr⟩
  · rintro ⟨⟨named, hn, hname⟩, hr⟩
    exact ⟨named, Node.part_ok_nat_iff.mpr hn, role, hname, by simp [hr]⟩

/-! ### Privileges -/

namespace PrivilegeGrant

theorem ofNode_result (policy : Policy) (catalog : Option Catalog) (issue : Issue) (n : Node) :
    (ofNode policy catalog issue n).result = (do
      let privilegeList ← n.part 0
      let privileges ← PrivilegeRequest.listOfNode policy privilegeList
      let principalList ← n.part 1
      let principals ← (Principal.listOfNode principalList).result
      let clauses ← (Clause.listOfNode catalog .grant n).result
      match Clause.lastTarget? clauses with
      | none => .error .missingObject
      | some target => do
          Principal.requireKind .role principals
          pure {
            privileges, principals, target
            grantor := issue.grantor
            grantOption := clauses.contains .grantOption }) := by
  simp only [ofNode, Attempt.result_bind, Attempt.liftM_eq, Attempt.result_ofExcept]
  refine bind_congr fun _ => bind_congr fun _ => bind_congr fun _ => bind_congr fun _ =>
    bind_congr fun clauses => ?_
  cases Clause.lastTarget? clauses with
  | none => rfl
  | some target => rw [Attempt.result_bind]; rfl

/-- A grant is read when its lists and its clauses are, there is an object among the clauses,
and all its principals are roles. -/
theorem ofNode_result_ok_iff {policy : Policy} {catalog : Option Catalog} {issue : Issue}
    {n : Node} {g : PrivilegeGrant} :
    (ofNode policy catalog issue n).result = .ok g ↔
      (∃ list, n.children[0]? = some list ∧
        PrivilegeRequest.listOfNode policy list = .ok g.privileges) ∧
      (∃ list, n.children[1]? = some list ∧
        (Principal.listOfNode list).result = .ok g.principals) ∧
      (∃ clauses, (Clause.listOfNode catalog .grant n).result = .ok clauses ∧
        Clause.lastTarget? clauses = some g.target ∧
        g.grantOption = clauses.contains .grantOption) ∧
      (∀ p ∈ g.principals, p.kind = some .role) ∧
      g.grantor = issue.grantor ∧ g.grantorKind = .user := by
  simp only [ofNode_result, bind_ok_iff]
  refine ⟨?_, ?_⟩
  · rintro ⟨list, hl, privileges, hr, list', hl', principals, hp, clauses, hc, h⟩
    -- without an object the kinds of the principals are not looked at
    cases ht : Clause.lastTarget? clauses with
    | none => simp [ht] at h
    | some target =>
        simp only [ht, bind_ok_iff] at h
        obtain ⟨_, hk, h⟩ := h
        cases h
        exact ⟨⟨list, Node.part_ok_nat_iff.mp hl, hr⟩, ⟨list', Node.part_ok_nat_iff.mp hl', hp⟩,
          ⟨clauses, hc, ht, rfl⟩, Principal.requireKind_ok_iff.mp hk, rfl, rfl⟩
  · rintro ⟨⟨list, hl, hr⟩, ⟨list', hl', hp⟩, ⟨clauses, hc, ht, ho⟩, hk, hg, hu⟩
    refine ⟨list, Node.part_ok_nat_iff.mpr hl, g.privileges, hr, list',
      Node.part_ok_nat_iff.mpr hl', g.principals, hp, clauses, hc, ?_⟩
    simp only [ht, bind_ok_iff]
    refine ⟨(), Principal.requireKind_ok_iff.mpr hk, ?_⟩
    rw [← ho, ← hg]
    cases g
    cases hu
    rfl

end PrivilegeGrant

namespace PrivilegeRevocation

theorem ofNode_result (policy : Policy) (catalog : Option Catalog) (n : Node) :
    (ofNode policy catalog n).result = (do
      let privilegeList ← n.part 0
      let privileges ← PrivilegeRequest.listOfNode policy privilegeList
      let principalList ← n.part 1
      let principals ← (Principal.listOfNode principalList).result
      let clauses ← (Clause.listOfNode catalog .revoke n).result
      Principal.requireKind .role principals
      pure { privileges, principals, target := Clause.lastTarget? clauses }) := by
  simp only [ofNode, Attempt.result_bind, Attempt.liftM_eq, Attempt.result_ofExcept,
    Attempt.result_pure]
  rfl

/-- A revocation is read when its lists and its clauses are, and all its principals are roles. -/
theorem ofNode_result_ok_iff {policy : Policy} {catalog : Option Catalog} {n : Node}
    {r : PrivilegeRevocation} :
    (ofNode policy catalog n).result = .ok r ↔
      (∃ list, n.children[0]? = some list ∧
        PrivilegeRequest.listOfNode policy list = .ok r.privileges) ∧
      (∃ list, n.children[1]? = some list ∧
        (Principal.listOfNode list).result = .ok r.principals) ∧
      (∃ clauses, (Clause.listOfNode catalog .revoke n).result = .ok clauses ∧
        r.target = Clause.lastTarget? clauses) ∧
      ∀ p ∈ r.principals, p.kind = some .role := by
  simp only [ofNode_result, bind_ok_iff]
  refine ⟨?_, ?_⟩
  · rintro ⟨list, hl, privileges, hr, list', hl', principals, hp, clauses, hc, _, hk, h⟩
    cases h
    exact ⟨⟨list, Node.part_ok_nat_iff.mp hl, hr⟩, ⟨list', Node.part_ok_nat_iff.mp hl', hp⟩,
      ⟨clauses, hc, rfl⟩, Principal.requireKind_ok_iff.mp hk⟩
  · rintro ⟨⟨list, hl, hr⟩, ⟨list', hl', hp⟩, ⟨clauses, hc, ht⟩, hk⟩
    exact ⟨list, Node.part_ok_nat_iff.mpr hl, r.privileges, hr, list',
      Node.part_ok_nat_iff.mpr hl', r.principals, hp, clauses, hc, (),
      Principal.requireKind_ok_iff.mpr hk, ht ▸ rfl⟩

end PrivilegeRevocation

/-! ### Memberships -/

/-- A membership is read when its principals and its roles are, and all its principals are
groups. -/
theorem Membership.ofNode_result_ok_iff {issue : Issue} {n : Node} {m : Membership} :
    (ofNode issue n).result = .ok m ↔
      (∃ list, n.children[0]? = some list ∧
        (Principal.listOfNode list).result = .ok m.principals) ∧
      List.Forall₂ (fun n role => n.name = .ok role) (n.children.drop 1) m.roles ∧
      (∀ p ∈ m.principals, p.kind = some .group) ∧
      m.grantor = issue.grantor ∧ m.grantorKind = .user ∧ m.grantOption = false := by
  simp only [ofNode, Attempt.bind_result_ok_iff, Attempt.liftM_eq, Attempt.result_ofExcept,
    Attempt.result_pure, rolesOfNode, mapM_ok_iff]
  refine ⟨?_, ?_⟩
  · rintro ⟨list, hl, principals, hp, roles, hr, _, hk, h⟩
    cases h
    exact ⟨⟨list, Node.part_ok_nat_iff.mp hl, hp⟩, hr, Principal.requireKind_ok_iff.mp hk, rfl,
      rfl, rfl⟩
  · rintro ⟨⟨list, hl, hp⟩, hr, hk, hg, hu, ho⟩
    refine ⟨list, Node.part_ok_nat_iff.mpr hl, m.principals, hp, m.roles, hr, (),
      Principal.requireKind_ok_iff.mpr hk, ?_⟩
    rw [← hg]
    cases m
    cases hu
    cases ho
    rfl

/-! ### Questions -/

theorem Principal.soleOfNode_result_ok_iff {required : PrincipalKind} {n : Node} {p : Principal} :
    (soleOfNode required n).result = .ok p ↔
      (∃ child, n.children[0]? = some child ∧ (ofNode child).result = .ok p) ∧
        p.kind = some required := by
  simp only [soleOfNode, Attempt.bind_result_ok_iff, Attempt.liftM_eq, Attempt.result_ofExcept,
    Attempt.result_pure, Except.ok.injEq]
  refine ⟨?_, ?_⟩
  · rintro ⟨child, hc, _, hp, _, hk, rfl⟩
    exact ⟨⟨child, Node.part_ok_nat_iff.mp hc, hp⟩, by simpa using requireKind_ok_iff.mp hk⟩
  · rintro ⟨⟨child, hc, hp⟩, hk⟩
    exact ⟨child, Node.part_ok_nat_iff.mpr hc, p, hp, (),
      requireKind_ok_iff.mpr (by simpa using hk), rfl⟩

theorem Target.shownOfNode_result_ok_iff {catalog : Option Catalog} {n : Node}
    {t? : Option Target} :
    (shownOfNode catalog n).result = .ok t? ↔
      (n.children[1]? = none ∧ t? = none) ∨
        ∃ object target, n.children[1]? = some object ∧ object.tag = .word .shownObject ∧
          (ofNode catalog object).result = .ok target ∧ t? = some target := by
  rw [shownOfNode]
  cases n.children[1]? with
  | none => simp [eq_comm]
  | some object =>
      by_cases h : object.tag = .word .shownObject
      · simp [h, Attempt.map_result_ok_iff, eq_comm (a := t?)]
      · simp [h]

namespace Operation

theorem showGrantOfNode_result_ok_iff {catalog : Option Catalog} {issue : Issue} {n : Node}
    {op : Operation} :
    (showGrantOfNode catalog issue n).result = .ok op ↔
      ∃ principal target, (Principal.soleOfNode .role n).result = .ok principal ∧
        (Target.shownOfNode catalog n).result = .ok target ∧
        op = .showGrant issue.resultFile principal target := by
  simp only [showGrantOfNode, Attempt.bind_result_ok_iff, Attempt.result_pure, Except.ok.injEq]
  refine ⟨?_, ?_⟩
  · rintro ⟨principal, hp, target, ht, rfl⟩
    exact ⟨principal, target, hp, ht, rfl⟩
  · rintro ⟨principal, target, hp, ht, rfl⟩
    exact ⟨principal, hp, target, ht, rfl⟩

theorem showRoleGrantOfNode_result_ok_iff {issue : Issue} {n : Node} {op : Operation} :
    (showRoleGrantOfNode issue n).result = .ok op ↔
      ∃ principal, (Principal.soleOfNode .group n).result = .ok principal ∧
        op = .showRoleGrant issue.resultFile principal := by
  simp only [showRoleGrantOfNode, Attempt.bind_result_ok_iff, Attempt.result_pure,
    Except.ok.injEq, eq_comm (a := op)]

theorem showRolePrincipalsOfNode_ok_iff {issue : Issue} {n : Node} {op : Operation} :
    showRolePrincipalsOfNode issue n = .ok op ↔
      ∃ named role, n.children = [named] ∧ named.name = .ok role ∧
        op = .showRolePrincipals issue.resultFile role := by
  unfold showRolePrincipalsOfNode
  split
  · rename_i named hn
    cases hname : named.name <;> simp [hn, hname, Except.map, eq_comm (a := op)]
  · rename_i hne
    refine ⟨fun h => (nomatch h), ?_⟩
    rintro ⟨named, -, hn, -⟩
    exact absurd hn (hne named)

end Operation

/-! ### Whole statements -/

theorem Tag.statement?_eq_some_iff {tag : Tag} {kind : StatementKind} :
    tag.statement? = some kind ↔ tag = .word (.statement kind) := by
  unfold Tag.statement?
  split <;> simp_all

/-- **A statement is accepted when the reader for the kind of its root accepts it.** -/
theorem Compiler.compile_result_ok_iff {c : Compiler} {issue : Issue} {n : Node}
    {op : Operation} :
    (c.compile issue n).result = .ok op ↔
      ∃ kind, n.tag = .word (.statement kind) ∧ (c.build issue n kind).result = .ok op := by
  simp only [compile_result, ← Tag.statement?_eq_some_iff]
  cases n.tag.statement? <;> simp

end AccessControl
