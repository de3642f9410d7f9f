import AccessControl.Statement.Node

/-!
# Reading — the nodes of a tree

`Node.Within` says of two nodes that the first is the second or lies below it, at any depth and in
any place.

**The nodes of a tree are those within it** (`Node.mem_preorder_iff`), so a tree has a partition
exactly when one lies within it (`Node.hasPartition_iff_within`).
-/

namespace AccessControl.Node

/-- The node is the root of the tree, or lies within the tree of a child. -/
inductive Within (m : Node) : Node → Prop where
  | root : Within m m
  | child {n child : Node} : child ∈ n.children → Within m child → Within m n

/-- A child of a node within a tree is within the tree. -/
theorem Within.trans_child {m n child : Node} (h : m.Within n) (hchild : child ∈ m.children) :
    child.Within n := by
  induction h with
  | root => exact .child hchild .root
  | child hn _ ih => exact .child hn ih

/-- **The nodes of a tree are those within it.** -/
theorem mem_preorder_iff {m n : Node} : m ∈ n.preorder ↔ m.Within n := by
  refine ⟨?_, fun h => ?_⟩
  · induction n with
    | node tag text children ih =>
        rw [preorder_eq, List.mem_cons, List.mem_flatMap]
        rintro (rfl | ⟨child, hchild, h⟩)
        · exact .root
        · exact .child hchild (ih child hchild h)
  · induction h with
    | root =>
        rw [preorder_eq]
        exact List.mem_cons_self
    | child hchild _ ih =>
        rw [preorder_eq]
        exact List.mem_cons_of_mem _ (List.mem_flatMap.mpr ⟨_, hchild, ih⟩)

theorem hasPartition_iff_within {n : Node} :
    n.hasPartition ↔ ∃ m : Node, m.Within n ∧ m.tag = .word .partition := by
  simp only [hasPartition_iff, mem_preorder_iff]

theorem hasPartition_eq_false_iff {n : Node} :
    n.hasPartition = false ↔ ∀ m : Node, m.Within n → m.tag ≠ .word .partition := by
  rw [← Bool.not_eq_true, hasPartition_iff_within]
  simp only [not_exists, not_and]

end AccessControl.Node
