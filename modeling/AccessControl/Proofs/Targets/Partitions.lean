import AccessControl.Catalog.Entries
import AccessControl.Proofs.Verdicts.Blame

/-!
# Targets — partitions are never compiled

A partition can hide anywhere in an object: in its name, in a list of columns, in a child that no
reader looks at.

**An object is refused for its partition exactly when one lies within it**, before anything else is
looked at and before the catalog is asked; **so no accepted statement has a partition in an object**
(`Target.partition_refused`).  This includes the objects of a statement whose targets a later object
replaces.
-/

namespace AccessControl

/-- No node of the tree is a partition. -/
def Node.IsWhole (n : Node) : Prop :=
  ∀ m : Node, m.Within n → m.tag ≠ .word .partition

/-- The objects of a tree that is read as a statement of some kind are whole. -/
def StatementKind.HasWholeObjects (n : Node) : StatementKind → Prop
  | .grant | .revoke => ∀ m ∈ n.children.drop 2, m.tag = .word .object → m.IsWhole
  | .showGrant => ∀ m ∈ n.children[1]?, m.IsWhole
  | _ => True

/-- The flaw of an unsupported target is a partition. -/
theorem Rejection.eq_partitionTarget_of_category {r : Rejection}
    (h : r.category = .unsupportedTarget) : r = .partitionTarget := by
  cases r with
  | partitionTarget => rfl
  | _ => cases h

variable {catalog : Option Catalog} {n : Node}

namespace Target

theorem ofNode_of_hasPartition (catalog : Option Catalog) {object : Node}
    (h : object.hasPartition) : ofNode catalog object = Attempt.fail .partitionTarget := by
  rw [ofNode, if_pos h]

theorem isWhole_of_ofNode {object : Node} {t : Target}
    (h : (ofNode catalog object).result = .ok t) : object.IsWhole :=
  Node.hasPartition_eq_false_iff.mp (ofNode_result_ok_iff.mp h).1

end Target

/-- The objects among the clauses of a statement are whole once the clauses are read, whichever of
them counts. -/
theorem Clause.isWhole_of_listOfNode {place : Place} {clauses : List Clause}
    (h : (listOfNode catalog place n).result = .ok clauses) :
    ∀ m ∈ n.children.drop 2, m.tag = .word .object → m.IsWhole := by
  intro m hm htag
  obtain ⟨clause, hclause⟩ := exists_forall₂_iff.mp ⟨_, listOfNode_result_ok_iff.mp h⟩ m hm
  rcases ofNode_result_ok_iff.mp hclause with ⟨hoption, -, -⟩ | ⟨-, target, htarget, -⟩
  · rw [htag] at hoption
    cases hoption
  · exact Target.isWhole_of_ofNode htarget

theorem Compiler.hasWholeObjects_of_build {c : Compiler} {issue : Issue} {kind : StatementKind}
    {op : Operation} (h : (c.build issue n kind).result = .ok op) : kind.HasWholeObjects n := by
  cases kind with
  | grant =>
      obtain ⟨g, hg, -⟩ := Attempt.map_result_ok_iff.mp h
      obtain ⟨-, -, ⟨clauses, hc, -⟩, -⟩ := PrivilegeGrant.ofNode_result_ok_iff.mp hg
      exact Clause.isWhole_of_listOfNode hc
  | revoke =>
      obtain ⟨r, hr, -⟩ := Attempt.map_result_ok_iff.mp h
      obtain ⟨-, -, ⟨clauses, hc, -⟩, -⟩ := PrivilegeRevocation.ofNode_result_ok_iff.mp hr
      exact Clause.isWhole_of_listOfNode hc
  | showGrant =>
      obtain ⟨_, _, -, hshown, -⟩ := Operation.showGrantOfNode_result_ok_iff.mp h
      rintro object hobject
      rcases Target.shownOfNode_result_ok_iff.mp hshown with ⟨hnone, -⟩ | ⟨o, t, ho, -, ht, -⟩
      · cases hnone.symm.trans hobject
      · cases ho.symm.trans hobject
        exact Target.isWhole_of_ofNode ht
  | _ => trivial

/-- **Partitions are never compiled.**  An object is refused as an unsupported target exactly when
some node of it is a partition.  That node is then the only thing that matters: whatever else is
wrong with the object, this is the rejection, and nothing is noted and nobody asked before.  So the
objects of an accepted grant, revocation or question are whole, those that are replaced included. -/
theorem Target.partition_refused :
    (∀ (catalog : Option Catalog) (object : Node),
      (∃ r, (ofNode catalog object).result = .error r ∧ r.category = .unsupportedTarget) ↔
        ∃ m : Node, m.Within object ∧ m.tag = .word .partition) ∧
    (∀ (catalog : Option Catalog) (object m : Node), m.Within object → m.tag = .word .partition →
      (ofNode catalog object).result = .error .partitionTarget ∧
        (ofNode catalog object).journal = []) ∧
    (∀ (c : Compiler) (issue : Issue) (n : Node) (kind : StatementKind) (op : Operation),
      (c.build issue n kind).result = .ok op → kind.HasWholeObjects n) ∧
    ∀ (c : Compiler) (issue : Issue) (n : Node) (op : Operation),
      (c.compile issue n).result = .ok op → op.statementKind.HasWholeObjects n := by
  refine ⟨fun catalog object => ⟨?_, ?_⟩, ?_, ?_, ?_⟩
  · rintro ⟨r, hr, hcategory⟩
    obtain rfl := Rejection.eq_partitionTarget_of_category hcategory
    have hblames : FailsOnly (Rejection.Blames {} object) (ofNode catalog object).result :=
      ofNode_blames
    exact hblames _ hr
  · rintro hpartition
    rw [ofNode_of_hasPartition catalog (Node.hasPartition_iff_within.mpr hpartition)]
    exact ⟨_, rfl, rfl⟩
  · intro catalog object m hm htag
    rw [ofNode_of_hasPartition catalog (Node.hasPartition_iff_within.mpr ⟨m, hm, htag⟩)]
    exact ⟨rfl, rfl⟩
  · exact fun _ _ _ _ _ => Compiler.hasWholeObjects_of_build
  · intro c issue n op h
    obtain ⟨kind, -, hbuild⟩ := Compiler.compile_result_ok_iff.mp h
    rw [Compiler.statementKind_of_build hbuild]
    exact Compiler.hasWholeObjects_of_build hbuild

/-- An object without a kind or a name, whose partition hides in a list of columns. -/
def Node.hiddenPartition : Node where
  tag := .word .object
  children :=
    [{ tag := .number 7
       children := [{ tag := .word .columnList, children := [{ tag := .word .partition }] }] }]

/-- A revocation on a server and, in its place, on a table. -/
def Node.revocationOnTwo : Node where
  tag := .word (.statement .revoke)
  children :=
    [{ tag := .word .privilegeList }, { tag := .word .principalList },
     { tag := .word .object
       children := [{ tag := .word (.target .server), children := [.identifier "v"] }] },
     { tag := .word .object
       children := [{ tag := .word (.target .table), children := [.identifier "t"] }] }]

theorem Target.partition_refused_hidden :
    (ofNode (some (Catalog.broken "down")) .hiddenPartition).result = .error .partitionTarget ∧
      (ofNode (some (Catalog.broken "down")) .hiddenPartition).journal = [] ∧
      (Compiler.compile {} {} .revocationOnTwo).result =
        .ok (.revoke ⟨[], [], some ⟨"t", .table, none, [], none⟩⟩) ∧
      StatementKind.revoke.HasWholeObjects .revocationOnTwo := by
  obtain ⟨-, hrefused, -, hwhole⟩ := Target.partition_refused
  have hwithin : Node.Within { tag := .word .partition } .hiddenPartition :=
    .child List.mem_cons_self (.child List.mem_cons_self (.child List.mem_cons_self .root))
  obtain ⟨hresult, hjournal⟩ := hrefused (some (Catalog.broken "down")) _ _ hwithin rfl
  exact ⟨hresult, hjournal, rfl, hwhole {} {} .revocationOnTwo (.revoke _) rfl⟩

end AccessControl
