import AccessControl.Compiler.Principals
import AccessControl.Compiler.Privileges
import AccessControl.Proofs.Reading.Rows

/-!
# Reading — names, privileges and principals

When the readers of the parts of a statement succeed, and with which value.  Each reader has one
equivalence, and no later proof opens its definition.

* `Node.names_ok_iff`: a list of names, one name for each child.
* `PrivilegeRequest.ofNode_ok_iff`: a privilege, with the columns that it is limited to.
* `Principal.ofNode_result_ok_iff`: a principal, of the kind that its tag tells.
-/

namespace AccessControl

theorem Node.names_ok_iff {n : Node} {xs : List String} :
    n.names = .ok xs ↔ List.Forall₂ (fun m x => m.name = .ok x) n.children xs :=
  mapM_ok_iff

/-! ### Privileges -/

theorem Tag.privilege?_eq_some_iff {tag : Tag} {privilege : Privilege} :
    tag.privilege? = some privilege ↔ tag = .word (.privilege privilege) := by
  unfold Tag.privilege?
  split <;> simp_all

theorem Privilege.isWholeRow_iff {privilege : Privilege} :
    privilege.isWholeRow ↔ privilege = .insert ∨ privilege = .all := by
  cases privilege <;> simp [isWholeRow]

namespace PrivilegeRequest

theorem privilegeOfTag_ok_iff {policy : Policy} {tag : Tag} {privilege : Privilege} :
    privilegeOfTag policy tag = .ok privilege ↔
      tag = .word (.privilege privilege) ∧ privilege ∈ policy.allowed := by
  rw [privilegeOfTag, ← Tag.privilege?_eq_some_iff]
  cases tag.privilege? with
  | none => simp
  | some p =>
      by_cases h : policy.allows p
      · simp only [h, if_true, Except.ok.injEq, Option.some.injEq]
        refine ⟨fun e => ⟨e, ?_⟩, fun e => e.1⟩
        simpa [e, Policy.allows] using h
      · simp only [h, Bool.false_eq_true, if_false, reduceCtorEq, Option.some.injEq, false_iff]
        rintro ⟨rfl, ha⟩
        exact h (by simpa [Policy.allows] using ha)

theorem columnsOfNode_ok_iff {n : Node} {columns : List String} :
    columnsOfNode n = .ok columns ↔
      (n.children[1]? = none ∧ columns = []) ∨
        ∃ list, n.children[1]? = some list ∧ list.tag = .word .columnList ∧
          list.names = .ok columns := by
  rw [columnsOfNode]
  cases n.children[1]? with
  | none => simp [eq_comm]
  | some list => by_cases h : list.tag = .word .columnList <;> simp [h]

theorem scope_ok_iff {privilege : Privilege} {columns : List String} {r : PrivilegeRequest} :
    scope privilege columns = .ok r ↔
      (privilege.isWholeRow → columns = []) ∧ r = ⟨privilege, columns⟩ := by
  rw [scope]
  by_cases h : columns ≠ [] ∧ privilege.isWholeRow
  · rw [if_pos h]
    exact ⟨fun e => (nomatch e), fun e => absurd (e.1 h.2) h.1⟩
  · rw [if_neg h, Except.ok.injEq, eq_comm]
    refine ⟨fun e => ⟨fun hp => ?_, e⟩, fun e => e.2⟩
    exact Decidable.not_not.mp fun hc => h ⟨hc, hp⟩

/-- A privilege is read when its first child is tagged with one that the policy allows, its
columns can be read, and there are none when the privilege applies to whole rows. -/
theorem ofNode_ok_iff {policy : Policy} {n : Node} {r : PrivilegeRequest} :
    ofNode policy n = .ok r ↔
      (∃ head, n.children[0]? = some head ∧ head.tag = .word (.privilege r.privilege)) ∧
        r.privilege ∈ policy.allowed ∧ columnsOfNode n = .ok r.columns ∧
        (r.privilege.isWholeRow → r.columns = []) := by
  simp only [ofNode, bind_ok_iff, privilegeOfTag_ok_iff, scope_ok_iff]
  refine ⟨?_, ?_⟩
  · rintro ⟨head, hh, privilege, ⟨ht, ha⟩, columns, hc, hw, rfl⟩
    exact ⟨⟨head, Node.part_ok_nat_iff.mp hh, ht⟩, ha, hc, hw⟩
  · rintro ⟨⟨head, hh, ht⟩, ha, hc, hw⟩
    exact ⟨head, Node.part_ok_nat_iff.mpr hh, r.privilege, ⟨ht, ha⟩, r.columns, hc, hw, rfl⟩

theorem listOfNode_ok_iff {policy : Policy} {n : Node} {rs : List PrivilegeRequest} :
    listOfNode policy n = .ok rs ↔
      List.Forall₂ (fun m r => ofNode policy m = .ok r) n.children rs :=
  mapM_ok_iff

end PrivilegeRequest

/-! ### Principals -/

namespace Principal

theorem ofNode_result (n : Node) :
    (ofNode n).result = (do
      let named ← n.part 0
      let name ← named.name
      pure ⟨name, n.tag.principalKind?⟩) := by
  simp only [ofNode, Attempt.result_bind, Attempt.liftM_eq, Attempt.result_ofExcept]
  rfl

/-- A principal is read when its first child has a name; its tag can be any. -/
theorem ofNode_result_ok_iff {n : Node} {p : Principal} :
    (ofNode n).result = .ok p ↔
      (∃ named, n.children[0]? = some named ∧ named.name = .ok p.name) ∧
        p.kind = n.tag.principalKind? := by
  simp only [ofNode_result, bind_ok_iff]
  refine ⟨?_, ?_⟩
  · rintro ⟨named, hn, name, hname, h⟩
    cases h
    exact ⟨⟨named, Node.part_ok_nat_iff.mp hn, hname⟩, rfl⟩
  · rintro ⟨⟨named, hn, hname⟩, hk⟩
    exact ⟨named, Node.part_ok_nat_iff.mpr hn, p.name, hname, hk ▸ rfl⟩

theorem listOfNode_result_ok_iff {n : Node} {ps : List Principal} :
    (listOfNode n).result = .ok ps ↔
      List.Forall₂ (fun m p => (ofNode m).result = .ok p) n.children ps := by
  rw [listOfNode, Attempt.mapM_result_ok_iff]

end Principal

theorem Tag.principalKind?_eq_role_iff {tag : Tag} :
    tag.principalKind? = some .role ↔ tag = .word (.principal .role) ∨ tag = .number 782 := by
  unfold Tag.principalKind?
  split <;> simp_all

end AccessControl
