import AccessControl.Statement.Node
import Mathlib.Algebra.Ring.Nat
import Mathlib.Data.List.Forall2
import Mathlib.Data.List.Lex
import Mathlib.Data.List.Sort

/-!
# Reading — the nodes of a tree and the paths to them

A path leads from the root of a tree to a node (`Node.at?`): it tells, for one node after another,
which child to go on with.  Equal trees can stand at the ends of several paths, so it is the path
that tells one node of a tree from all others.  Paths are compared number by number, and a path
comes before those that go on from its end.

**The nodes of a tree are listed once for each path, in the order of the paths**
(`Node.preorder_lists_paths`).  No node is left out, at any depth, and none is listed twice, even
if the same tree occurs in several places.

The proof lists the paths beside the nodes (`Node.paths`).  In a row of trees the paths of each
begin with its place, so all paths of a tree come before those of the trees behind it
(`Node.pairwise_pathsFrom`).
-/

namespace AccessControl.Node

/-! ### Paths -/

/-- The node at the end of a path, if the path stays in the tree. -/
def at? (n : Node) : List ℕ → Option Node
  | [] => some n
  | i :: path => n.children[i]?.bind fun child => child.at? path

theorem at?_cons_eq_some_iff {n m : Node} {i : ℕ} {path : List ℕ} :
    n.at? (i :: path) = some m ↔ ∃ child, n.children[i]? = some child ∧ child.at? path = some m :=
  Option.bind_eq_some_iff

mutual

/-- The paths of a tree, each before those that go on from its end. -/
def paths : Node → List (List ℕ)
  | ⟨_, _, children⟩ => [] :: pathsFrom 0 children

/-- The paths to a row of trees, the first of which stands in the given place. -/
def pathsFrom (i : ℕ) : List Node → List (List ℕ)
  | [] => []
  | n :: ns => (paths n).map (i :: ·) ++ pathsFrom (i + 1) ns

end

theorem paths_eq (n : Node) : n.paths = [] :: pathsFrom 0 n.children := by
  cases n
  rw [paths]

/-! ### The paths that are listed -/

theorem mem_pathsFrom_iff {i : ℕ} {ns : List Node} {path : List ℕ} :
    path ∈ pathsFrom i ns ↔ ∃ j n rest, ns[j]? = some n ∧ rest ∈ n.paths ∧
      path = (i + j) :: rest := by
  induction ns generalizing i with
  | nil => simp [pathsFrom]
  | cons n ns ih =>
      rw [pathsFrom, List.mem_append, List.mem_map, ih]
      refine ⟨?_, ?_⟩
      · rintro (⟨rest, hrest, rfl⟩ | ⟨j, m, rest, hm, hrest, rfl⟩)
        · exact ⟨0, n, rest, rfl, hrest, rfl⟩
        · exact ⟨j + 1, m, rest, hm, hrest, by rw [Nat.add_assoc, Nat.add_comm 1]⟩
      · rintro ⟨_ | j, m, rest, hm, hrest, rfl⟩
        · cases hm
          exact .inl ⟨rest, hrest, rfl⟩
        · exact .inr ⟨j, m, rest, hm, hrest, by rw [Nat.add_assoc, Nat.add_comm 1]⟩

/-- The paths of a tree are those that stay in it. -/
theorem mem_paths_iff {n : Node} {path : List ℕ} : path ∈ n.paths ↔ (n.at? path).isSome := by
  induction n generalizing path with
  | node tag text children ih =>
      rw [paths_eq, List.mem_cons, mem_pathsFrom_iff, Option.isSome_iff_exists]
      cases path with
      | nil => simp [at?]
      | cons i path =>
          simp only [reduceCtorEq, false_or, at?_cons_eq_some_iff, Nat.zero_add, List.cons.injEq]
          refine ⟨?_, ?_⟩
          · rintro ⟨_, child, _, hchild, hpath, rfl, rfl⟩
            have hend := (ih child (List.mem_of_getElem? hchild)).mp hpath
            obtain ⟨m, hm⟩ := Option.isSome_iff_exists.mp hend
            exact ⟨m, child, hchild, hm⟩
          · rintro ⟨m, child, hchild, hm⟩
            have hend := Option.isSome_iff_exists.mpr ⟨m, hm⟩
            exact ⟨i, child, path, hchild, (ih child (List.mem_of_getElem? hchild)).mpr hend,
              rfl, rfl⟩

/-! ### Their order -/

/-- The paths to a row of trees are in order when those of each tree are. -/
theorem pairwise_pathsFrom {ns : List Node} (h : ∀ n ∈ ns, n.paths.Pairwise (· < ·)) (i : ℕ) :
    (pathsFrom i ns).Pairwise (· < ·) := by
  induction ns generalizing i with
  | nil => exact .nil
  | cons n ns ih =>
      obtain ⟨hn, hns⟩ := List.forall_mem_cons.mp h
      rw [pathsFrom, List.pairwise_append, List.pairwise_map]
      refine ⟨hn.imp List.cons_lt_cons_self.mpr, ih hns (i + 1), ?_⟩
      -- the trees behind this one stand in later places
      intro path hpath path' hpath'
      obtain ⟨rest, -, rfl⟩ := List.mem_map.mp hpath
      obtain ⟨j, -, rest', -, -, rfl⟩ := mem_pathsFrom_iff.mp hpath'
      exact List.cons_lt_cons_iff.mpr (.inl (by omega))

theorem pairwise_paths (n : Node) : n.paths.Pairwise (· < ·) := by
  induction n with
  | node tag text children ih =>
      rw [paths_eq, List.pairwise_cons]
      refine ⟨fun path hpath => ?_, pairwise_pathsFrom ih 0⟩
      obtain ⟨j, -, rest, -, -, rfl⟩ := mem_pathsFrom_iff.mp hpath
      exact List.nil_lt_cons _ _

/-! ### The nodes at their ends -/

/-- The nodes of a row of children are those at the ends of the paths to them. -/
theorem forall₂_pathsFrom {n : Node} {ns : List Node} {i : ℕ}
    (hplaces : ∀ j, n.children[i + j]? = ns[j]?)
    (h : ∀ m ∈ ns, List.Forall₂ (fun path m' => m.at? path = some m') m.paths m.preorder) :
    List.Forall₂ (fun path m => n.at? path = some m) (pathsFrom i ns) (preorderList ns) := by
  induction ns generalizing i with
  | nil => exact .nil
  | cons m ns ih =>
      obtain ⟨hm, hns⟩ := List.forall_mem_cons.mp h
      rw [pathsFrom, preorderList]
      refine List.rel_append (List.forall₂_map_left_iff.mpr (hm.imp fun path m' hm' => ?_)) ?_
      · exact at?_cons_eq_some_iff.mpr ⟨m, hplaces 0, hm'⟩
      · refine ih (fun j => ?_) hns
        rw [Nat.add_assoc, Nat.add_comm 1]
        exact hplaces (j + 1)

theorem forall₂_paths (n : Node) :
    List.Forall₂ (fun path m => n.at? path = some m) n.paths n.preorder := by
  induction n with
  | node tag text children ih =>
      rw [paths_eq, preorder]
      refine .cons rfl (forall₂_pathsFrom (fun j => ?_) ih)
      rw [Nat.zero_add]

theorem length_preorder (n : Node) :
    n.preorder.length = 1 + (n.children.map fun child => child.preorder.length).sum := by
  rw [preorder_eq, List.length_cons, List.length_flatMap, Nat.add_comm]

/-- A tree occurs among the nodes as often as there are paths to it. -/
theorem count_preorder {n : Node} {paths : List (List ℕ)}
    (h : List.Forall₂ (fun path m => n.at? path = some m) paths n.preorder) (m : Node) :
    n.preorder.count m = paths.countP fun path => n.at? path = some m := by
  generalize n.preorder = nodes at h
  induction h with
  | nil => rfl
  | @cons path m' _ _ hm' _ ih =>
      rw [List.count_cons, List.countP_cons, ih]
      simp [hm']

/-- **The nodes of a tree are listed once for each path, in the order of the paths.**  There is just
one list of the paths that stay in the tree in which each comes before the ones that are greater,
and along this list the nodes are those at the ends of the paths.  There are as many of them as the
children have together, and the root. -/
theorem preorder_lists_paths (n : Node) :
    (∃! paths : List (List ℕ), paths.Pairwise (· < ·) ∧
      (∀ path, path ∈ paths ↔ (n.at? path).isSome) ∧
      List.Forall₂ (fun path m => n.at? path = some m) paths n.preorder ∧
      ∀ m, n.preorder.count m = paths.countP fun path => n.at? path = some m) ∧
    n.preorder.length = 1 + (n.children.map fun child => child.preorder.length).sum := by
  refine ⟨⟨n.paths, ?_, ?_⟩, n.length_preorder⟩
  · exact ⟨n.pairwise_paths, fun _ => mem_paths_iff, n.forall₂_paths,
      count_preorder n.forall₂_paths⟩
  · rintro paths ⟨hpairwise, hmem, -⟩
    refine hpairwise.eq_of_mem_iff n.pairwise_paths fun path => ?_
    rw [hmem, mem_paths_iff]

/-- Two equal leaves below a node are two nodes. -/
example (tag tag' : Tag) :
    (Node.mk tag none [⟨tag', none, []⟩, ⟨tag', none, []⟩]).paths = [[], [0], [1]] := rfl

end AccessControl.Node
