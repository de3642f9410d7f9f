import AccessControl.Compiler.Basic
import AccessControl.Proofs.Reading.Targets
import AccessControl.Proofs.Text.Pieces

/-!
# Targets — two ways to name a table

A qualified table name is written in two ways: as a node with one child for each part, or as one
name whose text joins the parts by dots.

**The two ways are interchangeable** (`Compiler.compile_tableName`): in every grant, revocation or
question about grants, wherever a table can be named, they lead to the same operation or rejection
and to the same journal.  All that a reader takes from the node of the name is the unqualified name
(`TableStatement.ofNode_object_congr`), and in both ways this is the last part
(`Node.tableName_ofParts`, `Node.tableName_identifier`).
-/

namespace AccessControl

/-! ### The two ways -/

namespace Node

/-- The node of a table name with one child for each part. -/
def ofParts (text : Option String) (parts : List String) : Node where
  tag := .word .tableName
  text := text
  children := parts.map identifier

theorem tableName_ofParts (text : Option String) {parts : List String} (h : parts ≠ []) :
    (ofParts text parts).tableName = .ok (Text.unquote (parts.getLast h)) := by
  have htag : (ofParts text parts).tag = .word .tableName := rfl
  rw [tableName, if_pos htag, ofParts, List.getLast?_map, List.getLast?_eq_some_getLast h]
  rfl

theorem tableName_identifier {parts : List String} (h : Text.AreParts parts) :
    (identifier (".".intercalate parts)).tableName =
      .ok (Text.unquote (parts.getLast h.ne_nil)) := by
  rw [← Text.unqualified_intercalate h]
  rfl

theorem hasPartition_identifier (text : String) : (identifier text).hasPartition = false := rfl

theorem hasPartition_ofParts (text : Option String) (parts : List String) :
    (ofParts text parts).hasPartition = false := by
  rw [ofParts, hasPartition_mk, List.any_map]
  simp [Function.comp_def, hasPartition_identifier]

theorem part_congr {n n' : Node} {i : ℕ} (htag : n.tag = n'.tag)
    (hlength : n.children.length = n'.children.length) (hget : n.children[i]? = n'.children[i]?) :
    n.part i = n'.part i := by
  rw [part, part, child?_ofNat, child?_ofNat, htag, hlength, hget]

end Node

/-! ### The place of the name -/

/-- A grant, a revocation or a question about grants that names a table, without the node of the
name: the object of the table with what stands around the name in it, and the other children of the
statement before and after the object. -/
structure TableStatement where
  kind : StatementKind
  text : Option String
  before : List Node
  objectTag : Tag
  objectText : Option String
  targetText : Option String
  /-- What else the target holds, columns for example. -/
  further : List Node
  /-- What else the object holds. -/
  others : List Node
  after : List Node
  /-- The object stands where objects are read. -/
  isPlace : (kind = .grant ∨ kind = .revoke) ∧ 2 ≤ before.length ∨
    kind = .showGrant ∧ before.length = 1

namespace TableStatement

variable (s : TableStatement)

/-- The object with a node for the name of its table. -/
def object (named : Node) : Node where
  tag := s.objectTag
  text := s.objectText
  children :=
    { tag := .word (.target .table), text := s.targetText, children := named :: s.further } ::
      s.others

/-- The statement with a node for the name of its table. -/
def statement (named : Node) : Node where
  tag := .word (.statement s.kind)
  text := s.text
  children := s.before ++ s.object named :: s.after

variable {s} {named named' : Node} {catalog : Option Catalog}

/-- What the reader of an object does with the node of a table name. -/
theorem ofNode_object (h : (s.object named).hasPartition = false) :
    Target.ofNode catalog (s.object named) = (do
      let name ← named.tableName
      let owner ← Target.ownerOf catalog .table name
      let columns ← Target.columnsOfNodes s.further
      pure { name, kind := .table, owner, columns }) := by
  rw [Target.ofNode, if_neg (by simp [h])]
  rfl

/-- The unqualified name is all that the reader of an object takes from the node of a table
name. -/
theorem ofNode_object_congr (hname : named.tableName = named'.tableName)
    (hpartition : named.hasPartition = named'.hasPartition) :
    Target.ofNode catalog (s.object named) = Target.ofNode catalog (s.object named') := by
  have hwhole : (s.object named).hasPartition = (s.object named').hasPartition := by
    simp only [object, Node.hasPartition_mk, List.any_cons, hpartition]
  cases h : (s.object named).hasPartition with
  | true => rw [Target.ofNode, Target.ofNode, if_pos h, if_pos (hwhole ▸ h)]
  | false => rw [ofNode_object h, ofNode_object (hwhole ▸ h), hname]

/-- The objects among the clauses are read alike, and the other clauses are the same. -/
theorem listOfNode_statement_congr (place : Place) (hbefore : 2 ≤ s.before.length)
    (hobject : Target.ofNode catalog (s.object named) = Target.ofNode catalog (s.object named')) :
    Clause.listOfNode catalog place (s.statement named) =
      Clause.listOfNode catalog place (s.statement named') := by
  have hclause : Clause.ofNode catalog place (s.object named) =
      Clause.ofNode catalog place (s.object named') := by
    rw [Clause.ofNode, Clause.ofNode, hobject]
    rfl
  simp only [Clause.listOfNode, statement, List.drop_append_of_le_length hbefore,
    List.mapM_append, List.mapM_cons, hclause]

theorem part_statement_congr {i : ℕ} (hi : i < s.before.length) :
    (s.statement named).part i = (s.statement named').part i := by
  refine Node.part_congr rfl (by simp [statement]) ?_
  rw [statement, statement, List.getElem?_append_left hi, List.getElem?_append_left hi]

/-- A statement is built from its first children and from its objects. -/
theorem build_statement_congr {c : Compiler} {issue : Issue}
    (hobject : Target.ofNode c.catalog (s.object named) =
      Target.ofNode c.catalog (s.object named')) :
    c.build issue (s.statement named) s.kind = c.build issue (s.statement named') s.kind := by
  rcases s.isPlace with ⟨hkind, hbefore⟩ | ⟨hkind, hbefore⟩
  · have hprivileges : (s.statement named).part 0 = (s.statement named').part 0 :=
      part_statement_congr (i := 0) (by omega)
    have hprincipals : (s.statement named).part 1 = (s.statement named').part 1 :=
      part_statement_congr (i := 1) (by omega)
    have hclauses := fun place => listOfNode_statement_congr place hbefore hobject
    rcases hkind with hkind | hkind
    · simp only [hkind, Compiler.build, PrivilegeGrant.ofNode, hprivileges, hprincipals, hclauses]
    · simp only [hkind, Compiler.build, PrivilegeRevocation.ofNode, hprivileges, hprincipals,
        hclauses]
  · have hprincipal : (s.statement named).part 0 = (s.statement named').part 0 :=
      part_statement_congr (i := 0) (by omega)
    have hshown : ∀ m, (s.statement m).children[1]? = some (s.object m) := fun m => by
      rw [statement, List.getElem?_append_right (by omega), hbefore]
      rfl
    have htag : (s.object named).tag = (s.object named').tag := rfl
    simp only [hkind, Compiler.build, Operation.showGrantOfNode, Principal.soleOfNode, hprincipal,
      Target.shownOfNode, hshown, htag, hobject]

theorem compile_statement_congr {c : Compiler} {issue : Issue}
    (hobject : Target.ofNode c.catalog (s.object named) =
      Target.ofNode c.catalog (s.object named')) :
    c.compile issue (s.statement named) = c.compile issue (s.statement named') := by
  have hdispatch : c.dispatch issue (s.statement named) = c.dispatch issue (s.statement named') :=
    congrArg (Attempt.after _) (build_statement_congr hobject)
  rw [Compiler.compile, Compiler.compile, hdispatch]
  rfl

end TableStatement

/-- **The two ways to write a qualified table name are interchangeable.**  In a statement about a
table, with any policy, any catalog and in any circumstances, both lead to the same end and to the
same journal.  In both the name of the table is the last part without its ticks, and an object that
is read has that name. -/
theorem Compiler.compile_tableName (c : Compiler) (issue : Issue) (s : TableStatement)
    (text : Option String) (parts : List String) (h : Text.AreParts parts) :
    c.compile issue (s.statement (.ofParts text parts)) =
        c.compile issue (s.statement (.identifier (".".intercalate parts))) ∧
      ∀ named ∈ [Node.ofParts text parts, .identifier (".".intercalate parts)],
        named.tableName = .ok (Text.unquote (parts.getLast h.ne_nil)) ∧
        ∀ t, (Target.ofNode c.catalog (s.object named)).result = .ok t →
          t.kind = .table ∧ t.name = Text.unquote (parts.getLast h.ne_nil) := by
  have hnames : ∀ named ∈ [Node.ofParts text parts, .identifier (".".intercalate parts)],
      named.tableName = .ok (Text.unquote (parts.getLast h.ne_nil)) :=
    List.forall_mem_cons.mpr ⟨Node.tableName_ofParts text h.ne_nil,
      List.forall_mem_cons.mpr ⟨Node.tableName_identifier h, fun _ hm => nomatch hm⟩⟩
  refine ⟨TableStatement.compile_statement_congr (TableStatement.ofNode_object_congr ?_ ?_),
    fun named hnamed => ⟨hnames named hnamed, fun t ht => ?_⟩⟩
  · rw [Node.tableName_ofParts text h.ne_nil, Node.tableName_identifier h]
  · rw [Node.hasPartition_ofParts, Node.hasPartition_identifier]
  · obtain ⟨-, ⟨target, m, htarget, hm, hkind, hname, -⟩, -⟩ := Target.ofNode_result_ok_iff.mp ht
    -- the only target of the object is the table, and its first child the node of the name
    cases htarget
    cases hm
    have htable : t.kind = .table := by simpa using hkind.symm
    rw [htable, ObjectKind.nameOfNode, hnames named hnamed] at hname
    exact ⟨htable, (Except.ok.inj hname).symm⟩

/-- A grant on some columns of a table, without the name of the table. -/
def TableStatement.grantOnColumns : TableStatement where
  kind := .grant
  text := none
  before := [{ tag := .word .privilegeList }, { tag := .word .principalList }]
  objectTag := .word .object
  objectText := none
  targetText := none
  further := [{ tag := .word .columnList, children := [.identifier "c"] }]
  others := []
  after := [{ tag := .word .grantOption }]
  isPlace := .inl ⟨.inl rfl, Nat.le_refl 2⟩

/-- Three parts: one with a dot between ticks, an empty one, and one whose tick stays open. -/
theorem Compiler.compile_tableName_threeParts :
    Text.AreParts ["\x60a.b\x60", "", "c\x60.d"] ∧
      (compile {} {} (TableStatement.grantOnColumns.statement
        (.ofParts none ["\x60a.b\x60", "", "c\x60.d"]))).result =
          .ok (.grant ⟨[], [], ⟨"c\x60.d", .table, none, ["c"], none⟩, none, .user, true⟩) ∧
      compile {} {} (TableStatement.grantOnColumns.statement
          (.ofParts none ["\x60a.b\x60", "", "c\x60.d"])) =
        compile {} {} (TableStatement.grantOnColumns.statement
          (.identifier "\x60a.b\x60..c\x60.d")) := by
  have hparts : Text.AreParts ["\x60a.b\x60", "", "c\x60.d"] := by
    refine ⟨List.cons_ne_nil _ _, ?_, ?_⟩
    · decide +kernel
    · decide +kernel
  exact ⟨hparts, rfl,
    (compile_tableName {} {} .grantOnColumns none ["\x60a.b\x60", "", "c\x60.d"] hparts).1⟩

end AccessControl
