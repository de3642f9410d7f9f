import AccessControl.Compiler.Grants
import AccessControl.Proofs.Catalog.Advice
import AccessControl.Proofs.Reading.Rows

/-!
# Reading — targets and clauses

When the readers of objects succeed, and with which target.

* `Target.columnsOfNodes_ok_iff`: every list of columns is read, and the last one counts.
* `Target.ofNode_result`: the result of reading an object takes nothing from the catalog but its
  advice on the owner.
* `Target.ofNode_result_ok_iff`: an object is read when it holds no partition and its target has
  a known kind, a name and readable columns.
* `Clause.ofNode_result_ok_iff`: a clause is the permission to grant further, in a grant, or an
  object.
* `Node.hasPartition_mk`: partitions are looked for in the root and below each child.
-/

namespace AccessControl

/-- A tree holds a partition in its root or below one of its children. -/
theorem Node.hasPartition_mk (tag : Tag) (text : Option String) (children : List Node) :
    hasPartition ⟨tag, text, children⟩ =
      (decide (tag = .word .partition) || children.any hasPartition) := by
  rw [hasPartition, preorder_eq, List.any_cons, List.any_flatMap]
  rfl

/-! ### Targets -/

theorem Tag.objectKind?_eq_some_iff {tag : Tag} {kind : ObjectKind} :
    tag.objectKind? = some kind ↔ tag = .word (.target kind) := by
  unfold Tag.objectKind?
  split <;> simp_all

namespace Target

theorem kindOfTag_ok_iff {tag : Tag} {kind : ObjectKind} :
    kindOfTag tag = .ok kind ↔ tag = .word (.target kind) := by
  rw [kindOfTag, ← Tag.objectKind?_eq_some_iff]
  cases tag.objectKind? <;> simp

/-- The columns are read when every list of columns is, and they are those of the last list. -/
theorem columnsOfNodes_ok_iff {further : List Node} {columns : List String} :
    columnsOfNodes further = .ok columns ↔
      (∀ m ∈ further, m.tag = .word .columnList → ∃ names, m.names = .ok names) ∧
        ((further.filter fun m => m.tag = .word .columnList).getLast?.elim (.ok []) Node.names) =
          .ok columns := by
  have hlists : (∃ lists, (further.filter fun m => m.tag = .word .columnList).mapM Node.names =
      .ok lists) ↔ ∀ m ∈ further, m.tag = .word .columnList → ∃ names, m.names = .ok names := by
    simp only [mapM_ok_iff, exists_forall₂_iff, List.mem_filter, decide_eq_true_eq, and_imp]
  rw [columnsOfNodes, bind_ok_iff, ← hlists]
  generalize further.filter (fun m => m.tag = .word .columnList) = nodes
  -- the last list of columns is read from the last node
  have hlast {lists : List (List String)} (h : nodes.mapM Node.names = .ok lists) :
      nodes.getLast?.elim (.ok []) Node.names = .ok (lists.getLast?.getD []) := by
    have hrel := forall₂_getLast? (mapM_ok_iff.mp h)
    generalize nodes.getLast? = node?, lists.getLast? = list? at hrel ⊢
    cases hrel with
    | none => rfl
    | some hnames => exact hnames
  refine ⟨?_, ?_⟩
  · rintro ⟨lists, h, hcolumns⟩
    exact ⟨⟨lists, h⟩, (hlast h).trans hcolumns⟩
  · rintro ⟨⟨lists, h⟩, hcolumns⟩
    exact ⟨lists, h, (hlast h).symm.trans hcolumns⟩

theorem ofNode_result (catalog : Option Catalog) (object : Node) :
    (ofNode catalog object).result =
      if object.hasPartition then .error .partitionTarget
      else (do
        let target ← object.part 0
        let named ← target.part 0
        let kind ← kindOfTag target.tag
        let name ← kind.nameOfNode named
        let columns ← columnsOfNodes (target.children.drop 1)
        pure { name, kind, owner := Catalog.advice catalog kind name, columns }) := by
  rw [ofNode]
  split
  · rfl
  · simp only [Attempt.result_bind, Attempt.liftM_eq, Attempt.result_ofExcept, ownerOf_result]
    rfl

theorem ofNode_result_ok_iff {catalog : Option Catalog} {object : Node} {t : Target} :
    (ofNode catalog object).result = .ok t ↔
      object.hasPartition = false ∧
        (∃ target named, object.children[0]? = some target ∧ target.children[0]? = some named ∧
          target.tag = .word (.target t.kind) ∧ t.kind.nameOfNode named = .ok t.name ∧
          columnsOfNodes (target.children.drop 1) = .ok t.columns) ∧
        t.owner = Catalog.advice catalog t.kind t.name ∧ t.partition = none := by
  rw [ofNode_result]
  by_cases hp : object.hasPartition
  · simp [hp]
  · simp only [hp, Bool.false_eq_true, if_false, bind_ok_iff, kindOfTag_ok_iff, true_and]
    refine ⟨?_, ?_⟩
    · rintro ⟨target, ht, named, hn, kind, hk, name, hname, columns, hc, h⟩
      cases h
      exact ⟨⟨target, named, Node.part_ok_nat_iff.mp ht, Node.part_ok_nat_iff.mp hn, hk, hname,
        hc⟩, rfl, rfl⟩
    · rintro ⟨⟨target, named, ht, hn, hk, hname, hc⟩, ho, hpart⟩
      refine ⟨target, Node.part_ok_nat_iff.mpr ht, named, Node.part_ok_nat_iff.mpr hn, t.kind, hk,
        t.name, hname, t.columns, hc, ?_⟩
      rw [← ho]
      cases t
      cases hpart
      rfl

end Target

/-! ### Clauses -/

namespace Clause

theorem ofNode_result_ok_iff {catalog : Option Catalog} {place : Place} {n : Node}
    {clause : Clause} :
    (ofNode catalog place n).result = .ok clause ↔
      (n.tag = .word .grantOption ∧ place = .grant ∧ clause = .grantOption) ∨
        (n.tag = .word .object ∧
          ∃ target, (Target.ofNode catalog n).result = .ok target ∧ clause = .object target) := by
  rw [ofNode]
  by_cases hg : n.tag = .word .grantOption
  · by_cases hp : place = .grant
    · simp [hg, hp, eq_comm]
    · simp [hg, hp]
  · by_cases ho : n.tag = .word .object
    · rw [if_neg (fun h => hg h.1), if_pos ho, Attempt.bind_result_ok_iff]
      simp [ho, eq_comm]
    · simp [hg, ho]

theorem listOfNode_result_ok_iff {catalog : Option Catalog} {place : Place} {n : Node}
    {clauses : List Clause} :
    (listOfNode catalog place n).result = .ok clauses ↔
      List.Forall₂ (fun m clause => (ofNode catalog place m).result = .ok clause)
        (n.children.drop 2) clauses := by
  rw [listOfNode, Attempt.mapM_result_ok_iff]

end Clause

end AccessControl
