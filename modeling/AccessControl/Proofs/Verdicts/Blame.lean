import AccessControl.Proofs.Grants.Grammar
import AccessControl.Proofs.Reading.Within

/-!
# Verdicts — every rejection blames a node

A rejection tells of a flaw: a tag that stands for nothing here, a missing text, a privilege that
the policy does not allow.  `Rejection.IsFlawOf` says without a reader when a node has the flaw, and
a rejection blames a tree (`Rejection.Blames`) when some node of the tree has it.

**Every rejection blames the tree that is read** (`Compiler.build_blames`), whatever the catalog
answers: no error has its cause outside the tree and the policy.  Each reader blames its own node,
and what blames a child blames the node above it (`FailsOnly.below`).
-/

namespace AccessControl

/-! ### Flaws -/

/-- The kinds of node that a place takes. -/
def Place.takes : Place → List NodeKind
  | .grant => [.grantOption, .object]
  | .revoke => [.object]
  | .privilege => [.columnList]
  | .showGrant => [.shownObject]

namespace Rejection

/-- What the rejection tells is so of the node. -/
def IsFlawOf (policy : Policy) (m : Node) : Rejection → Prop
  | .partitionTarget => m.tag = .word .partition
  | .unknownPrivilege tag => m.tag = tag ∧ tag.privilege? = none
  | .privilegeNotAllowed privilege =>
      m.tag = .word (.privilege privilege) ∧ privilege ∉ policy.allowed
  | .columnsNotAllowed privilege =>
      (∃ head, m.children[0]? = some head ∧ head.tag = .word (.privilege privilege)) ∧
        (privilege = .insert ∨ privilege = .all) ∧ m.columns ≠ []
  | .principalNotSupported found required =>
      m.tag.principalKind? = found ∧ found ≠ some required
  | .reservedRole reserved =>
      reserved = policy.reservedNames ∧ ∃ role, m.Names role ∧ policy.isReserved role
  | .unknownStatement tag => m.tag = tag ∧ tag.statement? = none
  | .unknownTarget tag => m.tag = tag ∧ tag.objectKind? = none
  | .unexpectedNode place tag => m.tag = tag ∧ ∀ kind ∈ place.takes, tag ≠ .word kind
  | .missingText tag => m.tag = tag ∧ m.text = none
  | .missingChild tag count position =>
      m.tag = tag ∧ m.children.length = count ∧ (position = 0 ∨ position = 1) ∧
        m.child? position = none
  | .missingObject => m.objects = []
  | .emptyTableName => m.tag = .word .tableName ∧ m.children = []
  | .notOneRole tags => m.children.map Node.tag = tags ∧ m.children.length ≠ 1

/-- Some node of the tree has the flaw. -/
def Blames (policy : Policy) (n : Node) (r : Rejection) : Prop :=
  ∃ m : Node, m.Within n ∧ r.IsFlawOf policy m

variable {policy : Policy} {n child : Node} {r : Rejection}

theorem Blames.of_root (h : r.IsFlawOf policy n) : r.Blames policy n :=
  ⟨n, .root, h⟩

theorem Blames.of_child (hchild : child ∈ n.children) (h : r.Blames policy child) :
    r.Blames policy n := by
  obtain ⟨m, hm, hflaw⟩ := h
  exact ⟨m, .child hchild hm, hflaw⟩

end Rejection

open Rejection (Blames)

variable {α : Type} {policy : Policy} {catalog : Option Catalog} {issue : Issue} {n : Node}

/-- What blames a child blames the node above it. -/
theorem FailsOnly.below {child : Node} {x : Except Rejection α} {i : ℕ}
    (h : FailsOnly (Blames policy child) x) (hchild : n.children[i]? = some child) :
    FailsOnly (Blames policy n) x :=
  h.imp fun _ => .of_child (List.mem_of_getElem? hchild)

/-! ### Parts and names -/

namespace Node

theorem part_blames {i : ℕ} (hi : i < 2) : FailsOnly (Blames policy n) (n.part i) := by
  rw [part]
  cases h : n.child? i with
  | some child => exact .ok child
  | none => exact .error (.of_root ⟨rfl, rfl, by omega, h⟩)

/-- The child that a reader goes on with is a child of its node, the first or the second. -/
theorem part_bind_blames {i : ℕ} {f : Node → Except Rejection α} (hi : i < 2)
    (hf : ∀ child, n.children[i]? = some child → FailsOnly (Blames policy n) (f child)) :
    FailsOnly (Blames policy n) (n.part i >>= f) :=
  (part_blames hi).bind fun child h => hf child (part_ok_nat_iff.mp h)

theorem token_blames : FailsOnly (Blames policy n) n.token := by
  rw [token]
  cases h : n.text with
  | some text => exact .ok text
  | none => exact .error (.of_root ⟨rfl, h⟩)

theorem name_blames : FailsOnly (Blames policy n) n.name :=
  token_blames.map _

theorem mapM_blames {f : Node → Except Rejection α} {ms : List Node}
    (hms : ∀ m ∈ ms, m ∈ n.children) (hf : ∀ m ∈ ms, FailsOnly (Blames policy m) (f m)) :
    FailsOnly (Blames policy n) (ms.mapM f) :=
  .mapM fun m hm => (hf m hm).imp fun _ => .of_child (hms m hm)

theorem names_blames : FailsOnly (Blames policy n) n.names :=
  mapM_blames (fun _ => id) fun _ _ => name_blames

end Node

/-! ### Privileges -/

namespace PrivilegeRequest

theorem privilegeOfTag_blames : FailsOnly (Blames policy n) (privilegeOfTag policy n.tag) := by
  rw [privilegeOfTag]
  cases h : n.tag.privilege? with
  | none => exact .error (.of_root ⟨rfl, h⟩)
  | some privilege =>
      have htag := Tag.privilege?_eq_some_iff.mp h
      dsimp only
      split
      · exact .ok privilege
      · rename_i hallows
        refine .error (.of_root ⟨htag, fun hmem => hallows ?_⟩)
        simpa [Policy.allows] using hmem

theorem columnsOfNode_blames : FailsOnly (Blames policy n) (columnsOfNode n) := by
  rw [columnsOfNode]
  cases h : n.children[1]? with
  | none => exact .ok []
  | some list =>
      dsimp only
      split
      · exact Node.names_blames.below h
      · rename_i htag
        refine .error (.of_child (List.mem_of_getElem? h) (.of_root ⟨rfl, ?_⟩))
        simpa [Place.takes] using htag

theorem ofNode_blames : FailsOnly (Blames policy n) (ofNode policy n) := by
  refine Node.part_bind_blames (by decide) fun head hhead => ?_
  refine (privilegeOfTag_blames.below hhead).bind fun privilege hp => ?_
  refine columnsOfNode_blames.bind fun columns hc => ?_
  rw [scope]
  split
  · -- the columns that are read stand for as many nodes
    rename_i h
    obtain ⟨-, hnames⟩ := columnsOfNode_iff_names.mp hc
    refine .error (.of_root ⟨⟨head, hhead, (privilegeOfTag_ok_iff.mp hp).1⟩,
      Privilege.isWholeRow_iff.mp h.2, fun hnil => h.1 ?_⟩)
    rw [hnil] at hnames
    exact List.forall₂_nil_left_iff.mp hnames
  · exact .ok _

theorem listOfNode_blames : FailsOnly (Blames policy n) (listOfNode policy n) :=
  Node.mapM_blames (fun _ => id) fun _ _ => ofNode_blames

end PrivilegeRequest

/-! ### Principals -/

namespace Principal

theorem ofNode_blames : FailsOnly (Blames policy n) (ofNode n).result := by
  rw [ofNode_result]
  refine Node.part_bind_blames (by decide) fun named hnamed => ?_
  exact (Node.name_blames.below hnamed).bind fun name _ => .ok _

theorem listOfNode_blames : FailsOnly (Blames policy n) (listOfNode n).result := by
  rw [listOfNode, Attempt.result_mapM]
  exact Node.mapM_blames (fun _ => id) fun _ _ => ofNode_blames

theorem requireKind_failsOnly (required : PrincipalKind) (principals : List Principal) :
    FailsOnly (fun r => ∃ p ∈ principals, p.kind ≠ some required ∧
      r = .principalNotSupported p.kind required) (requireKind required principals) := by
  rw [requireKind]
  split
  · rename_i p h
    exact .error ⟨p, List.mem_of_find?_eq_some h, by simpa using List.find?_some h, rfl⟩
  · exact .ok ()

/-- A principal of the wrong kind is read off a node that is marked so. -/
theorem requireKind_blames {required : PrincipalKind} {ps : List Principal}
    (h : (listOfNode n).result = .ok ps) :
    FailsOnly (Blames policy n) (requireKind required ps) := by
  refine (requireKind_failsOnly required ps).imp ?_
  rintro _ ⟨p, hp, hkind, rfl⟩
  obtain ⟨m, hm, hread⟩ := exists_of_forall₂ (listOfNode_result_ok_iff.mp h) p hp
  have hmark := (ofNode_result_ok_iff.mp hread).2
  exact .of_child hm (.of_root ⟨hmark.symm, hkind⟩)

theorem soleOfNode_blames {required : PrincipalKind} :
    FailsOnly (Blames policy n) (soleOfNode required n).result := by
  simp only [soleOfNode, Attempt.result_bind, Attempt.liftM_eq, Attempt.result_ofExcept]
  refine Node.part_bind_blames (by decide) fun child hchild => ?_
  refine (ofNode_blames.below hchild).bind fun p hp => ?_
  refine FailsOnly.bind ?_ fun _ _ => .ok p
  refine (requireKind_failsOnly required [p]).imp ?_
  rintro _ ⟨q, hq, hkind, rfl⟩
  obtain rfl := List.mem_singleton.mp hq
  have hmark := (ofNode_result_ok_iff.mp hp).2
  exact .of_child (List.mem_of_getElem? hchild) (.of_root ⟨hmark.symm, hkind⟩)

end Principal

/-! ### Targets and clauses -/

theorem Node.tableName_blames : FailsOnly (Blames policy n) n.tableName := by
  rw [tableName]
  split
  · rename_i htag
    cases h : n.children.getLast? with
    | none => exact .error (.of_root ⟨htag, List.getLast?_eq_none_iff.mp h⟩)
    | some last => exact name_blames.imp fun _ => .of_child (List.mem_of_getLast? h)
  · exact token_blames.map _

theorem ObjectKind.nameOfNode_blames (kind : ObjectKind) :
    FailsOnly (Blames policy n) (kind.nameOfNode n) := by
  cases kind with
  | server | database => exact Node.name_blames
  | table => exact Node.tableName_blames
  | uri => exact Node.name_blames.map _

namespace Target

theorem kindOfTag_blames : FailsOnly (Blames policy n) (kindOfTag n.tag) := by
  rw [kindOfTag]
  cases h : n.tag.objectKind? with
  | some kind => exact .ok kind
  | none => exact .error (.of_root ⟨rfl, h⟩)

theorem columnsOfNodes_blames :
    FailsOnly (Blames policy n) (columnsOfNodes (n.children.drop 1)) := by
  refine FailsOnly.bind ?_ fun lists _ => .ok _
  exact Node.mapM_blames (fun m hm => List.mem_of_mem_drop (List.mem_of_mem_filter hm))
    fun _ _ => Node.names_blames

theorem ofNode_blames : FailsOnly (Blames policy n) (ofNode catalog n).result := by
  rw [ofNode_result]
  split
  · rename_i hpartition
    obtain ⟨m, hm, htag⟩ := Node.hasPartition_iff_within.mp hpartition
    exact .error ⟨m, hm, htag⟩
  · refine Node.part_bind_blames (by decide) fun target htarget => FailsOnly.below ?_ htarget
    refine Node.part_bind_blames (by decide) fun named hnamed => ?_
    refine kindOfTag_blames.bind fun kind _ => ?_
    refine ((kind.nameOfNode_blames).below hnamed).bind fun name _ => ?_
    exact columnsOfNodes_blames.bind fun columns _ => .ok _

theorem shownOfNode_blames : FailsOnly (Blames policy n) (shownOfNode catalog n).result := by
  rw [shownOfNode]
  cases h : n.children[1]? with
  | none => exact .ok none
  | some object =>
      dsimp only
      split
      · rw [Attempt.result_map]
        exact (ofNode_blames.below h).map _
      · rename_i htag
        refine .error (.of_child (List.mem_of_getElem? h) (.of_root ⟨rfl, ?_⟩))
        simpa [Place.takes] using htag

end Target

namespace Clause

/-- The place is one where clauses stand. -/
theorem ofNode_blames {place : Place} (hplace : place = .grant ∨ place = .revoke) :
    FailsOnly (Blames policy n) (ofNode catalog place n).result := by
  rw [ofNode]
  split
  · exact .ok _
  · rename_i hoption
    split
    · rw [Attempt.result_bind]
      exact Target.ofNode_blames.bind fun target _ => .ok _
    · rename_i hobject
      refine .error (.of_root ⟨rfl, ?_⟩)
      rcases hplace with rfl | rfl
      · simpa [Place.takes, hobject] using hoption
      · simpa [Place.takes] using hobject

theorem listOfNode_blames {place : Place} (hplace : place = .grant ∨ place = .revoke) :
    FailsOnly (Blames policy n) (listOfNode catalog place n).result := by
  rw [listOfNode, Attempt.result_mapM]
  exact Node.mapM_blames (fun _ => List.mem_of_mem_drop) fun _ _ => ofNode_blames hplace

end Clause

/-! ### Statements -/

theorem Policy.roleOfNode_blames : FailsOnly (Blames policy n) (policy.roleOfNode n) := by
  refine Node.part_bind_blames (by decide) fun named hnamed => ?_
  refine (Node.name_blames.below hnamed).bind fun role hrole => ?_
  split
  · rename_i hreserved
    exact .error (.of_child (List.mem_of_getElem? hnamed)
      (.of_root ⟨rfl, role, Node.name_iff_names.mp hrole, hreserved⟩))
  · exact .ok role

theorem PrivilegeGrant.ofNode_blames :
    FailsOnly (Blames policy n) (ofNode policy catalog issue n).result := by
  rw [ofNode_result]
  refine Node.part_bind_blames (by decide) fun privilegeList hpl => ?_
  refine (PrivilegeRequest.listOfNode_blames.below hpl).bind fun privileges _ => ?_
  refine Node.part_bind_blames (by decide) fun principalList hpr => ?_
  refine (Principal.listOfNode_blames.below hpr).bind fun principals hps => ?_
  refine (Clause.listOfNode_blames (.inl rfl)).bind fun clauses hc => ?_
  cases ht : Clause.lastTarget? clauses with
  | none =>
      -- every object has a target, so there is no object
      have hnone := List.getLast?_eq_none_iff.mp ht
      have hobjects := Clause.forall₂_objects hc
      rw [hnone, List.forall₂_nil_right_iff] at hobjects
      exact .error (.of_root hobjects)
  | some target =>
      exact ((Principal.requireKind_blames hps).below hpr).bind fun _ _ => .ok _

theorem PrivilegeRevocation.ofNode_blames :
    FailsOnly (Blames policy n) (ofNode policy catalog n).result := by
  rw [ofNode_result]
  refine Node.part_bind_blames (by decide) fun privilegeList hpl => ?_
  refine (PrivilegeRequest.listOfNode_blames.below hpl).bind fun privileges _ => ?_
  refine Node.part_bind_blames (by decide) fun principalList hpr => ?_
  refine (Principal.listOfNode_blames.below hpr).bind fun principals hps => ?_
  refine (Clause.listOfNode_blames (.inr rfl)).bind fun clauses _ => ?_
  exact ((Principal.requireKind_blames hps).below hpr).bind fun _ _ => .ok _

theorem Membership.ofNode_blames : FailsOnly (Blames policy n) (ofNode issue n).result := by
  simp only [ofNode, Attempt.result_bind, Attempt.liftM_eq, Attempt.result_ofExcept]
  refine Node.part_bind_blames (by decide) fun principalList hpr => ?_
  refine (Principal.listOfNode_blames.below hpr).bind fun principals hps => ?_
  refine FailsOnly.bind ?_ fun roles _ => ?_
  · exact Node.mapM_blames (fun _ => List.mem_of_mem_drop) fun _ _ => Node.name_blames
  · exact ((Principal.requireKind_blames hps).below hpr).bind fun _ _ => .ok _

theorem Operation.showRolePrincipalsOfNode_blames :
    FailsOnly (Blames policy n) (showRolePrincipalsOfNode issue n) := by
  unfold showRolePrincipalsOfNode
  split
  · rename_i role hrole
    refine Node.name_blames.map _ |>.imp fun _ => .of_child ?_
    rw [hrole]
    exact List.mem_singleton_self role
  · rename_i hne
    refine .error (.of_root ⟨rfl, fun hlength => ?_⟩)
    obtain ⟨role, hrole⟩ := List.length_eq_one_iff.mp hlength
    exact hne role hrole

/-- **Every rejection blames the tree that is read.** -/
theorem Compiler.build_blames {c : Compiler} {kind : StatementKind} :
    FailsOnly (Blames c.policy n) (c.build issue n kind).result := by
  cases kind with
  | createRole | dropRole =>
      rw [build, Attempt.result_map]
      exact Policy.roleOfNode_blames.map _
  | grant =>
      rw [build, Attempt.result_map]
      exact PrivilegeGrant.ofNode_blames.map _
  | revoke =>
      rw [build, Attempt.result_map]
      exact PrivilegeRevocation.ofNode_blames.map _
  | grantRole | revokeRole =>
      rw [build, Attempt.result_map]
      exact Membership.ofNode_blames.map _
  | setRole =>
      rw [build, Attempt.result_map]
      refine FailsOnly.map ?_ _
      exact Node.part_bind_blames (by decide) fun named hnamed => Node.name_blames.below hnamed
  | showGrant =>
      simp only [build, Operation.showGrantOfNode, Attempt.result_bind]
      refine Principal.soleOfNode_blames.bind fun principal _ => ?_
      exact Target.shownOfNode_blames.bind fun target _ => .ok _
  | showRoleGrant =>
      simp only [build, Operation.showRoleGrantOfNode, Attempt.result_bind]
      exact Principal.soleOfNode_blames.bind fun principal _ => .ok _
  | showRoles | showCurrentRole => exact .ok _
  | showRolePrincipals => exact Operation.showRolePrincipalsOfNode_blames

end AccessControl
