import AccessControl.Proofs.Verdicts.Promises

/-!
# Verdicts — what the readers of parts need

The readers of privileges, principals, objects and clauses.  Each has one lemma, which says what it
needs of its node and which mistakes it meets on the way.

* `PrivilegeRequest.listOfNode_needs`: privileges, each with a mistake of its own kind.
* `Principal.listOfNode_needs`: principals, where the only thing to look out for is their kind,
  which is looked at later (`Principal.soleOfNode_needs`).
* `Target.ofNode_needs`: objects.  **The catalog has no say in what is needed.**
* `Clause.listOfNode_needs`: the clauses of a grant or revocation.
-/

namespace AccessControl

variable {policy : Policy} {catalog : Option Catalog} {n : Node}
variable {L : Rejection → Prop}

/-! ### Privileges -/

namespace PrivilegeRequest

theorem privilegeOfTag_needs {tag : Tag} :
    Needs True (tag.PrivilegeMistake policy) L (privilegeOfTag policy tag) := by
  rw [privilegeOfTag]
  cases hp : tag.privilege? with
  | none => exact .mistaken (.unknown hp)
  | some privilege =>
      have htag := Tag.privilege?_eq_some_iff.mp hp
      dsimp only
      split
      · rename_i hallows
        refine .ok trivial ?_ privilege
        rintro _ (hnone | ⟨htag', hnot⟩)
        · cases hp.symm.trans hnone
        · cases htag.symm.trans htag'
          exact hnot (by simpa [Policy.allows] using hallows)
      · rename_i hallows
        refine .mistaken (.notAllowed htag fun hmem => hallows ?_)
        simpa [Policy.allows] using hmem

theorem columnsOfNode_needs : Needs n.HasColumns n.ColumnsMistake L (columnsOfNode n) := by
  rw [columnsOfNode]
  cases h : n.children[1]? with
  | none =>
      refine .ok (by simp [Node.HasColumns, h]) ?_ []
      rintro _ ⟨hlist, -⟩
      cases h.symm.trans hlist
  | some list =>
      dsimp only
      split
      · rename_i htag
        refine Node.names_needs.congr (by simp [Node.HasColumns, h, htag]) fun r =>
          ⟨False.elim, ?_⟩
        rintro ⟨hlist, hne⟩
        cases h.symm.trans hlist
        exact hne htag
      · rename_i htag
        exact .mistaken (.mk h htag)

theorem scope_needs {tag : Tag} {privilege : Privilege} {columns : List String}
    (htag : tag = .word (.privilege privilege)) (hc : columnsOfNode n = .ok columns) :
    Needs True (n.ScopeMistake tag) L (scope privilege columns) := by
  -- the columns that are read stand for as many nodes
  have hcolumns : columns = [] ↔ n.columns = [] := by
    obtain ⟨-, hnames⟩ := columnsOfNode_iff_names.mp hc
    rw [← List.length_eq_zero_iff, ← hnames.length_eq, List.length_eq_zero_iff]
  rw [scope]
  split
  · rename_i h
    exact .mistaken (.mk htag (Privilege.isWholeRow_iff.mp h.2) fun hnil => h.1 (hcolumns.mpr hnil))
  · rename_i h
    refine .ok trivial ?_ _
    rintro _ ⟨htag', hrow, hne⟩
    cases htag.symm.trans htag'
    exact h ⟨fun hnil => hne (hcolumns.mp hnil), Privilege.isWholeRow_iff.mpr hrow⟩

theorem ofNode_needs :
    Needs n.IsCompleteRequest (n.RequestMistake policy) L (ofNode policy n) := by
  refine Needs.congr (Q := ∃ head ∈ n.children[0]?, n.HasColumns)
    (M := fun r => ∃ head ∈ n.children[0]?, head.tag.PrivilegeMistake policy r ∨
      n.ColumnsMistake r ∨ n.HasColumns ∧ n.ScopeMistake head.tag r) ?_ ?_ fun r => ?_
  · refine Node.part_bind_needs fun head _ => ?_
    refine privilegeOfTag_needs.check_bind fun privilege hp => ?_
    refine columnsOfNode_needs.bind_check fun columns hc => ?_
    exact scope_needs (privilegeOfTag_ok_iff.mp hp).1 hc
  · refine ⟨?_, fun h => ?_⟩
    · rintro ⟨head, hhead, hcolumns⟩
      exact ⟨Option.isSome_of_mem hhead, hcolumns⟩
    · obtain ⟨head, hhead⟩ := Option.isSome_iff_exists.mp h.head
      exact ⟨head, hhead, h.columns⟩
  · refine ⟨?_, ?_⟩
    · rintro ⟨head, hhead, hr | hr | ⟨hcolumns, hr⟩⟩
      · exact .privilege hhead hr
      · exact .columns (Option.isSome_of_mem hhead) hr
      · exact .scope hhead hcolumns hr
    · rintro (⟨hhead, hr⟩ | ⟨hhead, hr⟩ | ⟨hhead, hcolumns, hr⟩)
      · exact ⟨_, hhead, .inl hr⟩
      · obtain ⟨head, hhead⟩ := Option.isSome_iff_exists.mp hhead
        exact ⟨head, hhead, .inr (.inl hr)⟩
      · exact ⟨_, hhead, .inr (.inr ⟨hcolumns, hr⟩)⟩

theorem listOfNode_needs :
    Needs (∀ m ∈ n.children, m.IsCompleteRequest)
      (MeetsIn Node.IsCompleteRequest (Node.RequestMistake policy) n.children) L
      (listOfNode policy n) :=
  .mapM fun _ _ => ofNode_needs

end PrivilegeRequest

/-! ### Principals -/

namespace Principal

theorem ofNode_needs : Needs n.HasName (fun _ => False) L (ofNode n).result := by
  rw [ofNode_result]
  refine Node.part_bind_clean fun named _ => ?_
  exact Node.name_needs.finish fun name _ => .ok _

theorem listOfNode_needs : Needs n.HasPrincipals (fun _ => False) L (listOfNode n).result := by
  rw [listOfNode, Attempt.result_mapM]
  exact .mapM_clean fun _ _ => ofNode_needs

theorem requireKind_isUserFacing (required : PrincipalKind) (principals : List Principal) :
    FailsOnly (fun r => r.category.isUserFacing) (requireKind required principals) := by
  refine (requireKind_failsOnly required principals).imp ?_
  rintro _ ⟨p, -, -, rfl⟩
  rfl

theorem requireKind_needs {required : PrincipalKind} {p : Principal}
    (hp : (ofNode n).result = .ok p) :
    Needs True (n.KindMistake required) L (requireKind required [p]) := by
  have hmark := (ofNode_result_ok_iff.mp hp).2
  cases hx : requireKind required [p] with
  | ok =>
      have hkind := requireKind_ok_iff.mp hx p (List.mem_singleton_self p)
      refine .ok trivial ?_ ()
      rintro _ ⟨hne⟩
      exact hne (hmark.symm.trans hkind)
  | error r =>
      obtain ⟨q, hq, hkind, rfl⟩ := requireKind_failsOnly required [p] r hx
      obtain rfl := List.mem_singleton.mp hq
      rw [hmark] at hkind ⊢
      exact .mistaken ⟨hkind⟩

/-- The kind of the principal is looked at when its name is there. -/
theorem soleOfNode_needs {required : PrincipalKind} :
    Needs (∃ principal ∈ n.children[0]?, principal.HasName) (n.PrincipalMistake required) L
      (soleOfNode required n).result := by
  simp only [soleOfNode, Attempt.result_bind, Attempt.liftM_eq, Attempt.result_ofExcept]
  refine Node.part_bind_needs fun principal _ => ?_
  refine Needs.congr (Q := principal.HasName ∧ True)
    (ofNode_needs.clean_bind fun p hp => ?_) (iff_of_eq (and_true _)) fun _ => Iff.rfl
  exact (requireKind_needs hp).finish fun _ _ => .ok p

end Principal

/-! ### Targets and clauses -/

theorem Node.tableName_needs {named : Node} :
    Needs (named.YieldsName (.word (.target .table))) (fun _ => False) L named.tableName := by
  rw [tableName, YieldsName]
  by_cases h : named.tag = .word .tableName
  · rw [if_pos h, if_pos ⟨rfl, h⟩]
    cases hlast : named.children.getLast? with
    | none => exact .broken (by simp) (fun _ => id) rfl
    | some last => exact name_needs.congr (by simp) fun _ => Iff.rfl
  · rw [if_neg h, if_neg fun hand => h hand.2]
    exact token_needs.map _

theorem ObjectKind.nameOfNode_needs (kind : ObjectKind) {named : Node} :
    Needs (named.YieldsName (.word (.target kind))) (fun _ => False) L
      (kind.nameOfNode named) := by
  -- only tables have names in parts
  cases kind with
  | table => exact Node.tableName_needs
  | server | database =>
      exact Node.name_needs.congr (by simp [Node.YieldsName]) fun _ => Iff.rfl
  | uri => exact (Node.name_needs.map _).congr (by simp [Node.YieldsName]) fun _ => Iff.rfl

namespace Target

theorem kindOfTag_needs {tag : Tag} :
    Needs True (fun r => tag.objectKind? = none ∧ r = .unknownTarget tag) L (kindOfTag tag) := by
  rw [kindOfTag]
  cases hkind : tag.objectKind? with
  | some kind => exact .ok trivial (by simp) kind
  | none => exact .mistaken ⟨rfl, rfl⟩

theorem columnsOfNodes_needs {further : List Node} :
    Needs (∀ m ∈ further, m.tag = .word .columnList → m.HasTexts) (fun _ => False) L
      (columnsOfNodes further) := by
  refine Needs.congr (Q := ∀ m ∈ further.filter fun m => m.tag = .word .columnList, m.HasTexts)
    ?_ ?_ fun _ => Iff.rfl
  · refine Needs.finish (.mapM_clean fun _ _ => Node.names_needs) fun lists _ => ?_
    exact .ok _
  · simp only [List.mem_filter, decide_eq_true_eq, and_imp]

/-- The catalog has no say in what is needed. -/
theorem ofNode_needs :
    Needs n.IsCompleteObject n.ObjectMistake L (ofNode catalog n).result := by
  rw [ofNode_result]
  split
  · rename_i hpartition
    obtain ⟨m, hm, htag⟩ := Node.hasPartition_iff_within.mp hpartition
    exact .mistaken (.partition hm htag)
  · rename_i hpartition
    refine Needs.congr (Q := ∃ target ∈ n.children[0]?, ∃ named ∈ target.children[0]?,
        named.YieldsName target.tag ∧
          ∀ m ∈ target.children.drop 1, m.tag = .word .columnList → m.HasTexts)
      (M := fun r => ∃ target ∈ n.children[0]?, ∃ named ∈ target.children[0]?,
        target.tag.objectKind? = none ∧ r = .unknownTarget target.tag) ?_ ?_ fun r => ⟨?_, ?_⟩
    · refine Node.part_bind_needs fun target _ => Node.part_bind_needs fun named _ => ?_
      refine Needs.congr (kindOfTag_needs.bind_clean fun kind hkind => ?_)
        (iff_of_eq (true_and _)) fun _ => Iff.rfl
      rw [kindOfTag_ok_iff.mp hkind]
      refine (kind.nameOfNode_needs).bind_clean fun name _ => ?_
      exact columnsOfNodes_needs.finish fun columns _ => .ok _
    · refine ⟨?_, ?_⟩
      · rintro ⟨target, htarget, named, hnamed, hyields, hcolumns⟩
        exact ⟨target, htarget, ⟨named, hnamed, hyields⟩, hcolumns⟩
      · rintro ⟨target, htarget, ⟨named, hnamed, hyields⟩, hcolumns⟩
        exact ⟨target, htarget, named, hnamed, hyields, hcolumns⟩
    · rintro ⟨target, htarget, named, hnamed, hnone, rfl⟩
      exact .unknownTarget htarget (Option.isSome_of_mem hnamed) hnone
    · rintro (⟨hm, htag⟩ | ⟨htarget, hnamed, hnone⟩)
      · exact absurd (Node.hasPartition_iff_within.mpr ⟨_, hm, htag⟩) hpartition
      · obtain ⟨named, hnamed⟩ := Option.isSome_iff_exists.mp hnamed
        exact ⟨_, htarget, named, hnamed, hnone, rfl⟩

/-- An object in its place needs to be complete, and meets its own mistakes. -/
theorem ofNode_needs_clause {place : Place} (hplace : place.objectKind ∈ place.takes)
    (htag : n.tag = .word place.objectKind) :
    Needs (n.IsCompleteClause place) (n.ClauseMistake place) L (ofNode catalog n).result := by
  refine ofNode_needs.congr (by simp [Node.IsCompleteClause, htag]) fun r => ⟨.object htag, ?_⟩
  rintro (hmisplaced | ⟨-, hr⟩)
  · exact absurd htag (hmisplaced _ hplace)
  · exact hr

theorem shownOfNode_needs :
    Needs (∀ object ∈ n.children[1]?, object.IsCompleteClause .showGrant)
      (fun r => ∃ object ∈ n.children[1]?, object.ClauseMistake .showGrant r) L
      (shownOfNode catalog n).result := by
  rw [shownOfNode]
  cases n.children[1]? with
  | none => exact .ok (by simp) (by simp) none
  | some object =>
      dsimp only
      split
      · rename_i htag
        rw [Attempt.result_map]
        have hobject : Needs (object.IsCompleteClause .showGrant)
            (object.ClauseMistake .showGrant) L (ofNode catalog object).result :=
          ofNode_needs_clause (List.mem_singleton_self _) htag
        exact (hobject.map _).congr (by simp) (by simp)
      · rename_i htag
        refine .mistaken ⟨object, rfl, .misplaced ?_⟩
        simpa [Place.takes] using htag

end Target

namespace Clause

variable {place : Place}

/-- The place is one where clauses stand. -/
theorem ofNode_needs (hplace : place = .grant ∨ place = .revoke) :
    Needs (n.IsCompleteClause place) (n.ClauseMistake place) L
      (ofNode catalog place n).result := by
  have hkind : place.objectKind = .object := by
    rcases hplace with rfl | rfl <;> rfl
  have htakes : place.objectKind ∈ place.takes := by
    rcases hplace with rfl | rfl <;> simp [Place.takes, Place.objectKind]
  rw [ofNode]
  split
  · rename_i hoption
    obtain ⟨htag, rfl⟩ := hoption
    refine .ok (by simp [Node.IsCompleteClause, Place.objectKind, htag]) ?_ _
    rintro _ (hmisplaced | ⟨hobject, -⟩)
    · exact hmisplaced .grantOption List.mem_cons_self htag
    · cases htag.symm.trans hobject
  · rename_i hoption
    split
    · rename_i hobject
      rw [Attempt.result_bind]
      rw [← hkind] at hobject
      exact (Target.ofNode_needs_clause htakes hobject).finish fun target _ => .ok _
    · rename_i hobject
      refine .mistaken (.misplaced ?_)
      rcases hplace with rfl | rfl
      · simpa [Place.takes, hobject] using hoption
      · simpa [Place.takes] using hobject

theorem listOfNode_needs (hplace : place = .grant ∨ place = .revoke) :
    Needs (∀ m ∈ n.clauses, m.IsCompleteClause place)
      (MeetsIn (Node.IsCompleteClause place) (Node.ClauseMistake place) n.clauses) L
      (listOfNode catalog place n).result := by
  rw [listOfNode, Attempt.result_mapM]
  exact .mapM fun _ _ => ofNode_needs hplace

end Clause

end AccessControl
