import AccessControl.Catalog.Entries
import AccessControl.Proofs.Grants.Columns
import AccessControl.Proofs.Targets.Partitions
import AccessControl.Proofs.Verdicts.PartNeeds

/-!
# Targets — what an object describes

An object that holds no partition describes a target when its first child has a kind that is known,
a name, and readable lists of columns.  The name is found in its own way for each kind
(`Node.NamesTarget`), the columns are those of the last list, and what else the target holds has no
part in it (`Node.Describes`).

**An object is read exactly when it describes a target, as this target and with the owner that the
catalog gives it** (`Target.ofNode_iff_describes`).  Otherwise there are two ways to fail: the kind
of a target that has a child for its name is not known, or something is missing that the grammar
promises.
-/

namespace AccessControl

/-! ### Names and kinds -/

namespace Node

/-- The node names a target of a kind.  The name of a place outside the store loses its quote marks.
A table is named by the last child of a table name, or by the last part of any other text. -/
def NamesTarget (named : Node) (name : String) : ObjectKind → Prop
  | .server | .database => named.Names name
  | .uri => ∃ text, named.Names text ∧ Text.withoutQuotes text = name
  | .table =>
      if named.tag = .word .tableName then ∃ last ∈ named.children.getLast?, last.Names name
      else named.text.map Text.unqualified = some name

/-- The target of the object is of a known kind. -/
def HasKnownKind (object : Node) : Prop :=
  ∃ target ∈ object.children[0]?, ∃ kind, target.tag = .word (.target kind)

/-- The target of the object has a child for its name, and is of no known kind. -/
def HasUnknownKind (object : Node) : Prop :=
  ∃ target ∈ object.children[0]?, target.children[0]?.isSome ∧
    ∀ kind, target.tag ≠ .word (.target kind)

/-- The target is the one that the object describes, with the owner that the catalog gives it. -/
structure Describes (catalog : Option Catalog) (object : Node) (t : Target) : Prop where
  name : ∃ target ∈ object.children[0]?, ∃ named ∈ target.children[0]?,
    target.tag = .word (.target t.kind) ∧ named.NamesTarget t.name t.kind
  columns : List.Forall₂ Names (object.columnLists.getLast?.elim [] children) t.columns
  owner : t.owner = Catalog.advice catalog t.kind t.name
  partition : t.partition = none

theorem HasKnownKind.not_hasUnknownKind {object : Node} (h : object.HasKnownKind) :
    ¬ object.HasUnknownKind := by
  obtain ⟨target, htarget, kind, hkind⟩ := h
  rintro ⟨target', htarget', -, hunknown⟩
  obtain rfl : target = target' := Option.some.inj (htarget.symm.trans htarget')
  exact hunknown kind hkind

theorem exists_names_ok_iff {n : Node} : (∃ xs, n.names = .ok xs) ↔ n.HasTexts := by
  simp only [names_ok_iff, exists_forall₂_iff, name_iff_names, exists_names_iff, HasTexts]

theorem tableName_ok_iff {named : Node} {name : String} :
    named.tableName = .ok name ↔ named.NamesTarget name .table := by
  rw [tableName, NamesTarget]
  split
  · cases named.children.getLast? with
    | none => simp
    | some last => simp [name_iff_names]
  · rw [token]
    cases named.text <;> simp [Except.map]

theorem nameOfNode_ok_iff {kind : ObjectKind} {named : Node} {name : String} :
    kind.nameOfNode named = .ok name ↔ named.NamesTarget name kind := by
  cases kind with
  | server | database => exact name_iff_names
  | table => exact tableName_ok_iff
  | uri => simp only [ObjectKind.nameOfNode, map_ok_iff, name_iff_names, NamesTarget]

theorem columns_elim_ok_iff {list? : Option Node} {columns : List String} :
    list?.elim (.ok []) names = .ok columns ↔
      List.Forall₂ Names (list?.elim [] children) columns := by
  cases list? with
  | none => simp [eq_comm]
  | some list => simp [names_ok_iff, name_iff_names]

theorem columnLists_of_target {object target : Node} (h : object.children[0]? = some target) :
    object.columnLists = (target.children.drop 1).filter fun m => m.tag = .word .columnList := by
  rw [columnLists, h]
  rfl

end Node

/-! ### Objects -/

variable {catalog : Option Catalog} {object : Node}

/-- Without a partition the only mistake in an object is a target of no known kind. -/
theorem Node.exists_objectMistake_iff (hwhole : object.IsWhole) :
    (∃ r, object.ObjectMistake r) ↔ object.HasUnknownKind := by
  have hkind (target : Node) : target.tag.objectKind? = none ↔
      ∀ kind, target.tag ≠ .word (.target kind) := by
    simp only [Option.eq_none_iff_forall_ne_some, ne_eq, Tag.objectKind?_eq_some_iff]
  refine ⟨?_, ?_⟩
  · rintro ⟨_, ⟨hm, htag⟩ | ⟨htarget, hnamed, hnone⟩⟩
    · exact absurd htag (hwhole _ hm)
    · exact ⟨_, htarget, hnamed, (hkind _).mp hnone⟩
  · rintro ⟨target, htarget, hnamed, hunknown⟩
    exact ⟨_, .unknownTarget htarget hnamed ((hkind target).mpr hunknown)⟩

namespace Target

/-- An object that is not read has a target of no known kind, or else is not complete. -/
theorem category_of_ofNode (hwhole : object.IsWhole) {r : Rejection}
    (h : (ofNode catalog object).result = .error r) :
    object.HasUnknownKind ∧ r.category = .unrecognizedNode ∨
      ¬ object.HasUnknownKind ∧ ¬ object.IsCompleteObject ∧ r.category = .brokenInvariant := by
  have hneeds : Needs object.IsCompleteObject object.ObjectMistake (fun _ => False)
      (ofNode catalog object).result := ofNode_needs
  rw [h] at hneeds
  rw [← Node.exists_objectMistake_iff hwhole]
  cases hneeds with
  | broken hmissing hnone hr => exact .inr ⟨fun ⟨r, hr⟩ => hnone r hr, hmissing, hr⟩
  | mistaken hr =>
      refine .inl ⟨⟨r, hr⟩, ?_⟩
      cases hr with
      | partition hm htag => exact absurd htag (hwhole _ hm)
      | unknownTarget => rfl
  | late _ _ hr => exact hr.elim

/-- An object is read as the target that it describes. -/
theorem ofNode_ok_iff_describes (hwhole : object.IsWhole) {t : Target} :
    (ofNode catalog object).result = .ok t ↔
      object.IsCompleteObject ∧ object.Describes catalog t := by
  refine ⟨fun h => ⟨?_, ?_⟩, ?_⟩
  · have hneeds : Needs object.IsCompleteObject object.ObjectMistake (fun _ => False)
        (ofNode catalog object).result := ofNode_needs
    rw [h] at hneeds
    cases hneeds with
    | ok hcomplete => exact hcomplete
  · obtain ⟨-, ⟨target, named, htarget, hnamed, hkind, hname, hcolumns⟩, howner, hpartition⟩ :=
      ofNode_result_ok_iff.mp h
    refine ⟨⟨target, htarget, named, hnamed, hkind, Node.nameOfNode_ok_iff.mp hname⟩, ?_, howner,
      hpartition⟩
    rw [Node.columnLists_of_target htarget]
    exact Node.columns_elim_ok_iff.mp (columnsOfNodes_ok_iff.mp hcolumns).2
  · rintro ⟨⟨target, htarget, hcomplete⟩, ⟨target', htarget', named, hnamed, hkind, hname⟩,
      hcolumns, howner, hpartition⟩
    obtain rfl : target = target' := Option.some.inj (htarget.symm.trans htarget')
    rw [Node.columnLists_of_target htarget] at hcolumns
    have hlists : ∀ m ∈ target.children.drop 1, m.tag = .word .columnList →
        ∃ names, m.names = .ok names :=
      fun m hm htag => Node.exists_names_ok_iff.mpr (hcomplete.columns m hm htag)
    refine ofNode_result_ok_iff.mpr ⟨Node.hasPartition_eq_false_iff.mpr hwhole,
      ⟨target, named, htarget, hnamed, hkind, Node.nameOfNode_ok_iff.mpr hname, ?_⟩, howner,
      hpartition⟩
    exact columnsOfNodes_ok_iff.mpr ⟨hlists, Node.columns_elim_ok_iff.mpr hcolumns⟩

theorem exists_ofNode_iff (hwhole : object.IsWhole) :
    (∃ t, (ofNode catalog object).result = .ok t) ↔
      object.IsCompleteObject ∧ object.HasKnownKind := by
  refine ⟨?_, ?_⟩
  · rintro ⟨t, ht⟩
    obtain ⟨hcomplete, ⟨target, htarget, _, -, hkind, -⟩, -⟩ :=
      (ofNode_ok_iff_describes hwhole).mp ht
    exact ⟨hcomplete, target, htarget, t.kind, hkind⟩
  · rintro ⟨hcomplete, hknown⟩
    cases h : (ofNode catalog object).result with
    | ok t => exact ⟨t, rfl⟩
    | error r =>
        rcases category_of_ofNode hwhole h with ⟨hunknown, -⟩ | ⟨-, hmissing, -⟩
        · exact absurd hunknown hknown.not_hasUnknownKind
        · exact absurd hcomplete hmissing

end Target

end AccessControl
