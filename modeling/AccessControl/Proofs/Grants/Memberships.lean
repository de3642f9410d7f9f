import AccessControl.Proofs.Verdicts.Completeness
import AccessControl.Proofs.Verdicts.Kinds

/-!
# Grants — memberships in roles

Statements that give roles to groups and statements that take them away are written alike: first a
list of groups, and then the names of the roles.  `Node.IsMembership` is their grammar, without a
reader, and `Node.Enrols` says which membership a tree of the grammar tells of.

In a tree outside the grammar a part is missing, or a principal is no group.  What is missing comes
first, wherever it stands: the tree is told of the first part that is missing
(`Node.MembershipGap`), with the principals before the roles, and only a tree that has all its parts
is told of a principal of another kind (`Node.Misfit`).

**Both kinds of statement are read exactly from the grammar, and both alike**
(`Compiler.build_membership`).  So whatever can be granted can be revoked by the same words.
-/

namespace AccessControl

/-! ### The grammar -/

namespace Node

/-- The node is a group, marked as one by its word or its number, and has a name. -/
structure IsGroup (n : Node) : Prop where
  mark : n.tag = .word (.principal .group) ∨ n.tag = .number 685
  name : n.HasName

/-- The principal is the group of the node's name. -/
structure NamesGroup (n : Node) (p : Principal) : Prop where
  kind : p.kind = some .group
  name : ∃ named ∈ n.children[0]?, named.Names p.name

/-- The grammar of a membership: a list of groups, and roles, each with a name. -/
structure IsMembership (n : Node) : Prop where
  groups : ∃ list ∈ n.children[0]?, ∀ m ∈ list.children, m.IsGroup
  roles : ∀ m ∈ n.children.drop 1, m.text.isSome

/-- The membership is what the tree tells of: its groups and its roles in order, by the user of the
session. -/
structure Enrols (issue : Issue) (n : Node) (m : Membership) : Prop where
  groups : ∀ list ∈ n.children[0]?, List.Forall₂ NamesGroup list.children m.principals
  roles : List.Forall₂ Names (n.children.drop 1) m.roles
  grantor : m.grantor = issue.session.bind Session.user
  grantorKind : m.grantorKind = .user
  grantOption : m.grantOption = false

/-! ### What a tree outside the grammar is told -/

/-- The node has no text for a name. -/
def TextGap (n : Node) (r : Rejection) : Prop :=
  n.text = none ∧ r = .missingText n.tag

/-- The node of a principal has no child for its name, or the child has no text. -/
inductive NameGap (n : Node) : Rejection → Prop where
  | child (h : n.children = []) : n.NameGap (.missingChild n.tag 0 0)
  | text {named : Node} {r : Rejection} (hnamed : n.children[0]? = some named)
      (h : named.TextGap r) : n.NameGap r

/-- The first part of a membership that is missing: the list of principals, the name of one of them,
or the name of a role after all these. -/
inductive MembershipGap (n : Node) : Rejection → Prop where
  | list (h : n.children = []) : n.MembershipGap (.missingChild n.tag 0 0)
  | principal {list : Node} {r : Rejection} (hlist : n.children[0]? = some list)
      (h : MeetsIn HasName NameGap list.children r) : n.MembershipGap r
  | role {list : Node} {r : Rejection} (hlist : n.children[0]? = some list)
      (hprincipals : list.HasPrincipals)
      (h : MeetsIn (fun m => m.text.isSome) TextGap (n.children.drop 1) r) : n.MembershipGap r

/-- The first principal that is no group. -/
def Misfit (n : Node) (r : Rejection) : Prop :=
  ∃ list ∈ n.children[0]?, ∃ m,
    (list.children.find? fun m => m.tag.principalKind? ≠ some .group) = some m ∧
      r = .principalNotSupported m.tag.principalKind? .group

end Node

/-- The one operation gives the membership that the other takes away. -/
def Operation.Undoes (op' op : Operation) : Prop :=
  ∃ m, op = .grantRole m ∧ op' = .revokeRole m

/-! ### Groups -/

variable {n : Node} {issue : Issue} {r : Rejection}

theorem Tag.principalKind?_eq_group_iff {tag : Tag} :
    tag.principalKind? = some .group ↔ tag = .word (.principal .group) ∨ tag = .number 685 := by
  unfold Tag.principalKind?
  split <;> simp_all

namespace Principal

theorem exists_ofNode_iff : (∃ p, (ofNode n).result = .ok p) ↔ n.HasName := by
  simp only [ofNode_result_ok_iff, Node.name_iff_names]
  refine ⟨?_, ?_⟩
  · rintro ⟨p, ⟨named, hnamed, hname⟩, -⟩
    exact ⟨named, hnamed, Node.exists_names_iff.mp ⟨_, hname⟩⟩
  · rintro ⟨named, hnamed, htext⟩
    obtain ⟨name, hname⟩ := Node.exists_names_iff.mpr htext
    exact ⟨⟨name, _⟩, ⟨named, hnamed, hname⟩, rfl⟩

/-- A group is read exactly from a node that is one, and as the group of the node's name. -/
theorem ofNode_iff_namesGroup {p : Principal} :
    (ofNode n).result = .ok p ∧ p.kind = some .group ↔ n.IsGroup ∧ n.NamesGroup p := by
  rw [ofNode_iff_ofKind, Tag.principalKind?_eq_group_iff]
  refine ⟨?_, ?_⟩
  · rintro ⟨hmark, hgroup, named, hn, hname⟩
    exact ⟨⟨hmark, named, hn, Node.exists_names_iff.mp ⟨_, hname⟩⟩, hgroup, named, hn, hname⟩
  · rintro ⟨⟨hmark, -⟩, hgroup, hname⟩
    exact ⟨hmark, hgroup, hname⟩

theorem listOfNode_iff_namesGroup {ps : List Principal} :
    (listOfNode n).result = .ok ps ∧ (∀ p ∈ ps, p.kind = some .group) ↔
      (∀ m ∈ n.children, m.IsGroup) ∧ List.Forall₂ Node.NamesGroup n.children ps := by
  rw [listOfNode_result_ok_iff, ← List.forall₂_and_left, forall₂_and_right]
  simp only [ofNode_iff_namesGroup]

end Principal

/-! ### Accepted trees -/

/-- The reader accepts what the grammar accepts, and reads what the tree tells of. -/
theorem Membership.ofNode_iff_enrols {m : Membership} :
    (ofNode issue n).result = .ok m ↔ n.IsMembership ∧ n.Enrols issue m := by
  rw [ofNode_result_ok_iff]
  simp only [Node.name_iff_names]
  refine ⟨?_, ?_⟩
  · rintro ⟨⟨list, hlist, hps⟩, hroles, hkind, hgrantor, hgrantorKind, hoption⟩
    obtain ⟨hgroups, hnames⟩ := Principal.listOfNode_iff_namesGroup.mp ⟨hps, hkind⟩
    have htexts := fun m hm => Node.exists_names_iff.mp (exists_forall₂_iff.mp ⟨_, hroles⟩ m hm)
    refine ⟨⟨⟨list, hlist, hgroups⟩, htexts⟩, fun list' hlist' => ?_, hroles, hgrantor,
      hgrantorKind, hoption⟩
    cases hlist.symm.trans hlist'
    exact hnames
  · rintro ⟨⟨⟨list, hlist, hgroups⟩, -⟩, h⟩
    obtain ⟨hps, hkind⟩ := Principal.listOfNode_iff_namesGroup.mpr ⟨hgroups, h.groups list hlist⟩
    exact ⟨⟨list, hlist, hps⟩, h.roles, hkind, h.grantor, h.grantorKind, h.grantOption⟩

/-- A tree of the grammar tells of a membership. -/
theorem Node.IsMembership.exists_enrols (h : n.IsMembership) (issue : Issue) :
    ∃ m, n.Enrols issue m := by
  obtain ⟨⟨list, hlist, hgroups⟩, htexts⟩ := h
  have hnamed : ∀ m ∈ list.children, ∃ p, m.NamesGroup p := by
    intro m hm
    obtain ⟨named, hnamed, htext⟩ := (hgroups m hm).name
    obtain ⟨name, hname⟩ := Node.exists_names_iff.mpr htext
    exact ⟨⟨name, some .group⟩, rfl, named, hnamed, hname⟩
  obtain ⟨ps, hps⟩ := exists_forall₂_iff.mpr hnamed
  obtain ⟨roles, hroles⟩ := exists_forall₂_iff.mpr
    fun m hm => Node.exists_names_iff.mpr (htexts m hm)
  refine ⟨⟨roles, ps, issue.grantor, .user, false⟩, fun list' hlist' => ?_, hroles, rfl, rfl, rfl⟩
  cases hlist.symm.trans hlist'
  exact hps

/-! ### Rejected trees -/

namespace Node

theorem exists_name_iff : (∃ name, n.name = .ok name) ↔ n.text.isSome := by
  simp only [name_iff_names, exists_names_iff]

theorem name_error_iff : n.name = .error r ↔ n.TextGap r := by
  rw [name, token, TextGap]
  cases n.text with
  | none => simp [Except.map, eq_comm]
  | some text => simp [Except.map]

theorem part_zero_error_iff :
    n.part 0 = .error r ↔ n.children = [] ∧ r = .missingChild n.tag 0 0 := by
  have hchild : n.child? 0 = n.children[0]? := n.child?_ofNat 0
  rw [part, hchild]
  cases n.children with
  | nil => simp [eq_comm]
  | cons child rest => simp

end Node

theorem Principal.ofNode_result_error_iff : (ofNode n).result = .error r ↔ n.NameGap r := by
  rw [ofNode_result, bind_error_iff, Node.part_zero_error_iff]
  refine ⟨?_, ?_⟩
  · rintro (⟨hnone, rfl⟩ | ⟨named, hnamed, hr⟩)
    · exact .child hnone
    · rcases bind_error_iff.mp hr with hr | ⟨name, -, ⟨⟩⟩
      exact .text (Node.part_ok_nat_iff.mp hnamed) (Node.name_error_iff.mp hr)
  · rintro (hnone | ⟨hnamed, hr⟩)
    · exact .inl ⟨hnone, rfl⟩
    · exact .inr ⟨_, Node.part_ok_nat_iff.mpr hnamed,
        bind_error_iff.mpr (.inl (Node.name_error_iff.mpr hr))⟩

theorem Principal.exists_listOfNode_iff :
    (∃ ps, (listOfNode n).result = .ok ps) ↔ n.HasPrincipals := by
  simp only [listOfNode_result_ok_iff, exists_forall₂_iff, exists_ofNode_iff, Node.HasPrincipals]

theorem Principal.listOfNode_error_iff :
    (listOfNode n).result = .error r ↔ MeetsIn Node.HasName Node.NameGap n.children r := by
  rw [listOfNode, Attempt.result_mapM]
  exact MeetsIn.mapM_error_iff (fun _ => exists_ofNode_iff) fun _ _ => ofNode_result_error_iff

namespace Membership

theorem exists_rolesOfNode_iff :
    (∃ roles, rolesOfNode n = .ok roles) ↔ ∀ m ∈ n.children.drop 1, m.text.isSome := by
  simp only [rolesOfNode, mapM_ok_iff, exists_forall₂_iff, Node.exists_name_iff]

theorem rolesOfNode_error_iff :
    rolesOfNode n = .error r ↔
      MeetsIn (fun m => m.text.isSome) Node.TextGap (n.children.drop 1) r :=
  MeetsIn.mapM_error_iff (fun _ => Node.exists_name_iff) fun _ _ => Node.name_error_iff

/-- A membership can be drafted when all its parts are there. -/
theorem exists_draft_iff :
    (∃ m, (draft issue n).result = .ok m) ↔ StatementKind.grantRole.IsComplete n := by
  simp only [draft, Attempt.bind_result_ok_iff, Attempt.liftM_eq, Attempt.result_ofExcept,
    Attempt.result_pure]
  refine ⟨?_, ?_⟩
  · rintro ⟨m, list, hlist, ps, hps, roles, hroles, -⟩
    exact ⟨⟨list, Node.part_ok_nat_iff.mp hlist, Principal.exists_listOfNode_iff.mp ⟨ps, hps⟩⟩,
      exists_rolesOfNode_iff.mp ⟨roles, hroles⟩⟩
  · rintro ⟨⟨list, hlist, hprincipals⟩, htexts⟩
    obtain ⟨ps, hps⟩ := Principal.exists_listOfNode_iff.mpr hprincipals
    obtain ⟨roles, hroles⟩ := exists_rolesOfNode_iff.mpr htexts
    exact ⟨_, list, Node.part_ok_nat_iff.mpr hlist, ps, hps, roles, hroles, rfl⟩

/-- A membership that cannot be drafted lacks a part, and the first one is told. -/
theorem draft_error_iff : (draft issue n).result = .error r ↔ n.MembershipGap r := by
  simp only [draft, Attempt.result_bind, Attempt.liftM_eq, Attempt.result_ofExcept]
  rw [bind_error_iff, Node.part_zero_error_iff]
  refine ⟨?_, ?_⟩
  · rintro (⟨hnone, rfl⟩ | ⟨list, hlist, hr⟩)
    · exact .list hnone
    · replace hlist := Node.part_ok_nat_iff.mp hlist
      rcases bind_error_iff.mp hr with hr | ⟨ps, hps, hr⟩
      · exact .principal hlist (Principal.listOfNode_error_iff.mp hr)
      · rcases bind_error_iff.mp hr with hr | ⟨roles, -, ⟨⟩⟩
        exact .role hlist (Principal.exists_listOfNode_iff.mp ⟨ps, hps⟩)
          (rolesOfNode_error_iff.mp hr)
  · rintro (hnone | ⟨hlist, hr⟩ | ⟨hlist, hprincipals, hr⟩)
    · exact .inl ⟨hnone, rfl⟩
    · exact .inr ⟨_, Node.part_ok_nat_iff.mpr hlist,
        bind_error_iff.mpr (.inl (Principal.listOfNode_error_iff.mpr hr))⟩
    · obtain ⟨ps, hps⟩ := Principal.exists_listOfNode_iff.mpr hprincipals
      have hroles := rolesOfNode_error_iff.mpr hr
      exact .inr ⟨_, Node.part_ok_nat_iff.mpr hlist,
        bind_error_iff.mpr (.inr ⟨ps, hps, bind_error_iff.mpr (.inl hroles)⟩)⟩

end Membership

/-! ### Statements -/

namespace Compiler

variable {c : Compiler}

/-- What can be granted can be revoked by the same words, and what cannot is turned down alike. -/
theorem build_endAlike_undoes (c : Compiler) (issue : Issue) (n : Node) :
    EndAlike Eq (fun op op' => op'.Undoes op) (c.build issue n .grantRole).result
      (c.build issue n .revokeRole).result := by
  rw [build, build, Attempt.result_map, Attempt.result_map]
  cases (Membership.ofNode issue n).result with
  | ok m => exact .ok ⟨m, rfl, rfl⟩
  | error r => exact .error rfl

theorem build_grantRole_ok_iff {op : Operation} :
    (c.build issue n .grantRole).result = .ok op ↔
      ∃ m, op = .grantRole m ∧ n.IsMembership ∧ n.Enrols issue m := by
  rw [build, Attempt.map_result_ok_iff]
  refine ⟨?_, ?_⟩
  · rintro ⟨m, hm, rfl⟩
    exact ⟨m, rfl, Membership.ofNode_iff_enrols.mp hm⟩
  · rintro ⟨m, rfl, hm⟩
    exact ⟨m, Membership.ofNode_iff_enrols.mpr hm, rfl⟩

/-- The kinds of the principals are looked at when nothing is missing. -/
theorem build_grantRole_error_iff :
    (c.build issue n .grantRole).result = .error r ↔
      n.MembershipGap r ∨ StatementKind.grantRole.IsComplete n ∧ n.Misfit r := by
  have hdraft_ok (op : Operation) : (c.draft issue n .grantRole).result = .ok op ↔
      ∃ m, (Membership.draft issue n).result = .ok m ∧ .grantRole m = op :=
    Attempt.map_result_ok_iff
  have hdraft_error : (c.draft issue n .grantRole).result = .error r ↔ n.MembershipGap r := by
    rw [draft, Attempt.result_map]
    exact map_error_iff.trans Membership.draft_error_iff
  rw [build_eq_draft_bind rfl, Attempt.result_bind, bind_error_iff, hdraft_error]
  refine or_congr Iff.rfl ⟨?_, ?_⟩
  · rintro ⟨op, hop, hr⟩
    obtain ⟨list, hlist, hgrantees⟩ := grantees_of_draft rfl hop
    obtain ⟨m, hm, -⟩ := (hdraft_ok op).mp hop
    refine ⟨Membership.exists_draft_iff.mp ⟨m, hm⟩, list, hlist, ?_⟩
    rw [Operation.standing_result hgrantees] at hr
    split at hr
    · rename_i m' hfind
      cases hr
      exact ⟨m', hfind, rfl⟩
    · cases hr
  · rintro ⟨hcomplete, list, hlist, m', hfind, rfl⟩
    obtain ⟨m, hm⟩ := Membership.exists_draft_iff.mpr hcomplete
    have hop := (hdraft_ok _).mpr ⟨m, hm, rfl⟩
    obtain ⟨list', hlist', hgrantees⟩ := grantees_of_draft rfl hop
    obtain rfl : list = list' := Option.some.inj (hlist.symm.trans hlist')
    refine ⟨_, hop, ?_⟩
    rw [Operation.standing_result hgrantees, hfind]

/-- What is missing breaks an invariant, whatever the kinds of the principals are. -/
theorem build_grantRole_broken_iff :
    (∃ r, (c.build issue n .grantRole).result = .error r ∧ r.category = .brokenInvariant) ↔
      ¬ StatementKind.grantRole.IsComplete n := by
  have hneeds : Needs (StatementKind.grantRole.IsComplete n) (fun _ => False)
      (fun r => r.category.isUserFacing) (c.build issue n .grantRole).result :=
    build_needs .grantRole
  generalize (c.build issue n .grantRole).result = x at hneeds
  cases hneeds with
  | ok h => exact iff_of_false (fun ⟨_, hr, _⟩ => nomatch hr) (not_not_intro h)
  | broken h _ hr => exact iff_of_true ⟨_, rfl, hr⟩ h
  | mistaken hr => exact hr.elim
  | late h _ hr =>
      refine iff_of_false ?_ (not_not_intro h)
      rintro ⟨_, ⟨⟩, hcategory⟩
      rw [hcategory] at hr
      cases hr

/-- **Statements that give and that take memberships are read exactly from their grammar, and both
alike.**  Of the same tree both are accepted, with the same membership, or both are turned down for
the same cause.  They are accepted when the tree is in the grammar, and as the membership that it
tells of.  Any other tree is told of the first part that is missing, which breaks an invariant, or,
when none is, of the first principal that is no group. -/
theorem build_membership (c : Compiler) (issue : Issue) (n : Node) :
    EndAlike Eq (fun op op' => op'.Undoes op) (c.build issue n .grantRole).result
      (c.build issue n .revokeRole).result ∧
    ((∃ op, (c.build issue n .grantRole).result = .ok op) ↔ n.IsMembership) ∧
    (∀ op, (c.build issue n .grantRole).result = .ok op ↔
      ∃ m, op = .grantRole m ∧ n.IsMembership ∧ n.Enrols issue m) ∧
    (∀ r, (c.build issue n .grantRole).result = .error r ↔
      n.MembershipGap r ∨ StatementKind.grantRole.IsComplete n ∧ n.Misfit r) ∧
    ((∃ r, (c.build issue n .grantRole).result = .error r ∧ r.category = .brokenInvariant) ↔
      ¬ StatementKind.grantRole.IsComplete n) := by
  refine ⟨c.build_endAlike_undoes issue n, ⟨?_, fun h => ?_⟩, fun _ => build_grantRole_ok_iff,
    fun _ => build_grantRole_error_iff, build_grantRole_broken_iff⟩
  · rintro ⟨op, hop⟩
    obtain ⟨m, -, h, -⟩ := build_grantRole_ok_iff.mp hop
    exact h
  · obtain ⟨m, hm⟩ := h.exists_enrols issue
    exact ⟨.grantRole m, build_grantRole_ok_iff.mpr ⟨m, rfl, h, hm⟩⟩

/-- A user among the groups is of no account while the text of a role is missing. -/
example (c : Compiler) (issue : Issue) :
    (c.build issue ⟨.word (.statement .revokeRole), none,
      [⟨.word .principalList, none,
        [⟨.word (.principal .user), none, [.identifier "u"]⟩]⟩,
       ⟨.word .identifier, none, []⟩]⟩ .revokeRole).result =
      .error (.missingText (.word .identifier)) := rfl

end Compiler

end AccessControl
