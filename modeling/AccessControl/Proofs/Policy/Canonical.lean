import AccessControl.Proofs.Catalog.Owners
import AccessControl.Proofs.Policy.Permitted

/-!
# Policies — what is permitted can be said

Every operation has a canonical statement (`Operation.statement`): each name stands between ticks,
whatever its characters, a table name has one part, and a list of columns is there only when there
are columns.  The operation also tells in which circumstances the statement has to be issued
(`Operation.issue`).

**The canonical statement of an operation comes to the operation exactly when it is permitted and
its owner is the advice of the catalog** (`Compiler.compile_statement_iff`).  With
`Permitted.lean` this describes all that can be compiled.  For each part of an operation there is
its canonical node, and the reader of the part gives the part back (`ofNode_node`).
-/

namespace AccessControl

/-! ### Names -/

namespace Node

/-- The node of a name between ticks. -/
def quoted (name : String) : Node :=
  identifier (Text.quote name)

/-- The list of columns, if there are any. -/
def columnNodes (columns : List String) : List Node :=
  if columns = [] then [] else [{ tag := .word .columnList, children := columns.map quoted }]

theorem name_quoted (name : String) : (quoted name).name = .ok name :=
  name_ok_iff.mpr ⟨_, rfl, Text.unquote_quote name⟩

/-- A row of names in ticks is read as the row of the names. -/
theorem forall₂_name_quoted (names : List String) :
    List.Forall₂ (fun n name => n.name = .ok name) (names.map quoted) names :=
  forall₂_map_self fun name _ => name_quoted name

theorem hasPartition_columnNodes (columns : List String) :
    (columnNodes columns).any hasPartition = false := by
  rw [columnNodes]
  split
  · rfl
  · rw [List.any_cons, List.any_nil, Bool.or_false, hasPartition_mk, List.any_map]
    exact List.any_eq_false.mpr fun _ _ => Bool.false_ne_true

end Node

/-! ### Privileges -/

namespace PrivilegeRequest

/-- The canonical node of a privilege. -/
def node (r : PrivilegeRequest) : Node where
  tag := .word .privilegeItem
  children := { tag := .word (.privilege r.privilege) } :: Node.columnNodes r.columns

theorem columnsOfNode_node (r : PrivilegeRequest) : columnsOfNode r.node = .ok r.columns := by
  rw [columnsOfNode_ok_iff]
  -- without columns there is no second child
  by_cases h : r.columns = []
  · exact .inl ⟨by simp [node, Node.columnNodes, h], h⟩
  · refine .inr ⟨_, by simp only [node, Node.columnNodes, if_neg h]; rfl, rfl, ?_⟩
    exact Node.names_ok_iff.mpr (Node.forall₂_name_quoted r.columns)

theorem ofNode_node {policy : Policy} {r : PrivilegeRequest} (h : r.Permitted policy) :
    ofNode policy r.node = .ok r :=
  ofNode_ok_iff.mpr ⟨⟨_, rfl, rfl⟩, h.allowed, columnsOfNode_node r,
    fun hw => h.columns (Privilege.isWholeRow_iff.mp hw)⟩

end PrivilegeRequest

/-! ### Principals -/

namespace Principal

/-- The canonical tag of a principal; a principal of no kind gets a tag of no kind. -/
def tag (p : Principal) : Tag :=
  match p.kind with
  | some kind => .word (.principal kind)
  | none => .word .identifier

/-- The canonical node of a principal. -/
def node (p : Principal) : Node where
  tag := p.tag
  children := [.quoted p.name]

theorem principalKind?_tag (p : Principal) : p.tag.principalKind? = p.kind := by
  rw [tag]
  cases p.kind <;> rfl

theorem ofNode_node (p : Principal) : (ofNode p.node).result = .ok p :=
  ofNode_result_ok_iff.mpr ⟨⟨_, rfl, Node.name_quoted p.name⟩, (principalKind?_tag p).symm⟩

end Principal

/-! ### Targets -/

namespace Target

/-- The node that names a target. -/
def nameNode (t : Target) : Node :=
  match t.kind with
  | .table => { tag := .word .tableName, children := [.quoted t.name] }
  | _ => .quoted t.name

/-- The canonical node of an object, which is tagged with a word. -/
def node (word : NodeKind) (t : Target) : Node where
  tag := .word word
  children := [{ tag := .word (.target t.kind)
                 children := t.nameNode :: Node.columnNodes t.columns }]

theorem nameOfNode_nameNode {t : Target} (h : t.Permitted) :
    t.kind.nameOfNode t.nameNode = .ok t.name := by
  cases hk : t.kind with
  | server | database =>
      rw [nameNode, hk]
      exact Node.name_quoted t.name
  | table =>
      rw [nameNode, hk]
      exact Node.name_quoted t.name
  | uri =>
      rw [nameNode, hk]
      -- the reader drops quote marks, and a permitted name has none
      refine map_ok_iff.mpr ⟨t.name, Node.name_quoted t.name, ?_⟩
      exact Text.withoutQuotes_of_not_mem (h.quotes hk)

theorem columnsOfNodes_columnNodes (columns : List String) :
    columnsOfNodes (Node.columnNodes columns) = .ok columns := by
  rw [columnsOfNodes, bind_ok_iff, Node.columnNodes]
  split
  · rename_i h
    exact ⟨[], rfl, h ▸ rfl⟩
  · refine ⟨[columns], mapM_ok_iff.mpr (.cons ?_ .nil), rfl⟩
    exact Node.names_ok_iff.mpr (Node.forall₂_name_quoted columns)

theorem hasPartition_node {word : NodeKind} (hword : word ≠ .partition) (t : Target) :
    (t.node word).hasPartition = false := by
  have hname : t.nameNode.hasPartition = false := by
    rw [nameNode]
    split <;> rfl
  simp only [node, Node.hasPartition_mk, List.any_cons, hname, Node.hasPartition_columnNodes]
  simp [hword]

theorem ofNode_node {catalog : Option Catalog} {word : NodeKind} (hword : word ≠ .partition)
    {t : Target} (h : t.Permitted) (howner : t.owner = Catalog.advice catalog t.kind t.name) :
    (ofNode catalog (t.node word)).result = .ok t :=
  ofNode_result_ok_iff.mpr ⟨hasPartition_node hword t,
    ⟨_, _, rfl, rfl, rfl, nameOfNode_nameNode h, columnsOfNodes_columnNodes t.columns⟩,
    howner, h.partition⟩

end Target

/-! ### Statements -/

namespace Operation

/-- The canonical node of a list of privileges. -/
def privilegeList (rs : List PrivilegeRequest) : Node where
  tag := .word .privilegeList
  children := rs.map PrivilegeRequest.node

/-- The canonical node of a list of principals. -/
def principalList (ps : List Principal) : Node where
  tag := .word .principalList
  children := ps.map Principal.node

/-- The children of the canonical statement of an operation. -/
def parts : Operation → List Node
  | .createRole role | .dropRole role | .setRole role | .showRolePrincipals _ role =>
      [.quoted role]
  | .grant g =>
      privilegeList g.privileges :: principalList g.principals :: g.target.node .object ::
        if g.grantOption then [{ tag := .word .grantOption }] else []
  | .revoke r =>
      privilegeList r.privileges :: principalList r.principals ::
        r.target.toList.map (Target.node .object)
  | .grantRole m | .revokeRole m => principalList m.principals :: m.roles.map .quoted
  | .showGrant _ principal target =>
      principal.node :: target.toList.map (Target.node .shownObject)
  | .showRoleGrant _ principal => [principal.node]
  | .showRoles _ | .showCurrentRole _ => []

/-- The canonical statement of an operation. -/
def statement (op : Operation) : Node where
  tag := .word (.statement op.statementKind)
  children := op.parts

/-- The user that an operation records. -/
def grantor : Operation → Option String
  | .grant g => g.grantor
  | .grantRole m | .revokeRole m => m.grantor
  | _ => none

/-- Where the rows that answer a question go. -/
def resultFile : Operation → Option String
  | .showGrant file _ _ | .showRoleGrant file _ | .showRoles file | .showCurrentRole file
  | .showRolePrincipals file _ => file
  | _ => none

/-- The circumstances in which the canonical statement has to be issued: in a session of the
user that the operation records, and with its result file. -/
def issue (op : Operation) : Issue where
  session := some { user := op.grantor }
  resultFile := op.resultFile

end Operation

/-! ### The parts of a statement -/

theorem PrivilegeRequest.listOfNode_privilegeList {policy : Policy} {rs : List PrivilegeRequest}
    (h : ∀ r ∈ rs, r.Permitted policy) :
    listOfNode policy (Operation.privilegeList rs) = .ok rs :=
  listOfNode_ok_iff.mpr (forall₂_map_self fun r hr => ofNode_node (h r hr))

theorem Principal.listOfNode_principalList (ps : List Principal) :
    (listOfNode (Operation.principalList ps)).result = .ok ps :=
  listOfNode_result_ok_iff.mpr (forall₂_map_self fun p _ => ofNode_node p)

theorem Policy.roleOfNode_quoted {policy : Policy} {n : Node} {role : String}
    (hn : n.children[0]? = some (.quoted role))
    (h : Text.upper role ∉ policy.reserved.map Text.upper) : policy.roleOfNode n = .ok role :=
  roleOfNode_ok_iff.mpr ⟨⟨_, hn, Node.name_quoted role⟩, h⟩

theorem Clause.ofNode_node {catalog : Option Catalog} (place : Place) {t : Target}
    (h : t.Permitted) (howner : t.owner = Catalog.advice catalog t.kind t.name) :
    (ofNode catalog place (t.node .object)).result = .ok (.object t) :=
  have hword : NodeKind.object ≠ .partition := by decide
  ofNode_result_ok_iff.mpr (.inr ⟨rfl, t, Target.ofNode_node hword h howner, rfl⟩)

/-! ### Whole statements -/

namespace Compiler

variable {c : Compiler}

theorem grant_statement {g : PrivilegeGrant} (h : (Operation.grant g).Permitted c.policy)
    (howner : (Operation.grant g).Advised c.catalog) :
    (PrivilegeGrant.ofNode c.policy c.catalog (Operation.grant g).issue
      (Operation.grant g).statement).result = .ok g := by
  have hprivileges := PrivilegeRequest.listOfNode_privilegeList h.privileges
  have hprincipals := Principal.listOfNode_principalList g.principals
  have hobject := Clause.ofNode_node .grant h.target (howner _ rfl)
  have hclauses : (Clause.listOfNode c.catalog .grant (Operation.grant g).statement).result =
      .ok (.object g.target :: if g.grantOption then [.grantOption] else []) := by
    refine Clause.listOfNode_result_ok_iff.mpr (.cons hobject ?_)
    -- the permission to grant further is the only other clause
    cases g.grantOption with
    | true => exact .cons (Clause.ofNode_result_ok_iff.mpr (.inl ⟨rfl, rfl, rfl⟩)) .nil
    | false => exact .nil
  refine PrivilegeGrant.ofNode_result_ok_iff.mpr ⟨⟨_, rfl, hprivileges⟩, ⟨_, rfl, hprincipals⟩,
    ⟨_, hclauses, ?_, ?_⟩, h.principals, rfl, h.grantorKind⟩
  · cases g.grantOption <;> rfl
  · cases g.grantOption <;> rfl

theorem revoke_statement {r : PrivilegeRevocation} (h : (Operation.revoke r).Permitted c.policy)
    (howner : (Operation.revoke r).Advised c.catalog) :
    (PrivilegeRevocation.ofNode c.policy c.catalog (Operation.revoke r).statement).result =
      .ok r := by
  have hprivileges := PrivilegeRequest.listOfNode_privilegeList h.privileges
  have hprincipals := Principal.listOfNode_principalList r.principals
  have hclauses : (Clause.listOfNode c.catalog .revoke (Operation.revoke r).statement).result =
      .ok (r.target.toList.map .object) := by
    rw [Clause.listOfNode_result_ok_iff]
    change List.Forall₂ _ (r.target.toList.map (Target.node .object)) _
    rw [List.forall₂_map_right_iff]
    refine forall₂_map_self fun t ht => ?_
    have ht := Option.mem_toList.mp ht
    exact Clause.ofNode_node .revoke (h.target t ht) (howner t ht)
  refine PrivilegeRevocation.ofNode_result_ok_iff.mpr ⟨⟨_, rfl, hprivileges⟩,
    ⟨_, rfl, hprincipals⟩, ⟨_, hclauses, ?_⟩, h.principals⟩
  cases r.target <;> rfl

/-- The statement of a change of membership, of either kind. -/
theorem membership_statement {op : Operation} {m : Membership} (h : m.Permitted)
    (hop : op = .grantRole m ∨ op = .revokeRole m) :
    (Membership.ofNode op.issue op.statement).result = .ok m := by
  have hparts : op.parts = Operation.principalList m.principals :: m.roles.map .quoted := by
    rcases hop with rfl | rfl <;> rfl
  have hgrantor : m.grantor = op.issue.grantor := by
    rcases hop with rfl | rfl <;> rfl
  have hprincipals := Principal.listOfNode_principalList m.principals
  refine Membership.ofNode_result_ok_iff.mpr ⟨⟨Operation.principalList m.principals, ?_,
    hprincipals⟩, ?_, h.principals, hgrantor, h.grantorKind, h.grantOption⟩
  · rw [Operation.statement, hparts]
    rfl
  · rw [Operation.statement, hparts]
    exact Node.forall₂_name_quoted m.roles

theorem shown_statement {file : Option String} {p : Principal} {t? : Option Target}
    (h : ∀ t ∈ t?, t.Permitted)
    (howner : ∀ t ∈ t?, t.owner = Catalog.advice c.catalog t.kind t.name) :
    (Target.shownOfNode c.catalog (Operation.showGrant file p t?).statement).result = .ok t? := by
  rw [Target.shownOfNode_result_ok_iff]
  cases t? with
  | none => exact .inl ⟨rfl, rfl⟩
  | some t =>
      have hword : NodeKind.shownObject ≠ .partition := by decide
      exact .inr ⟨_, t, rfl, rfl, Target.ofNode_node hword (h t rfl) (howner t rfl), rfl⟩

/-- The canonical statement of a permitted operation is read as the operation. -/
theorem build_statement {op : Operation} (h : op.Permitted c.policy)
    (howner : op.Advised c.catalog) :
    (c.build op.issue op.statement op.statementKind).result = .ok op := by
  cases op with
  | createRole role | dropRole role =>
      exact Attempt.map_result_ok_iff.mpr ⟨role, Policy.roleOfNode_quoted rfl h, rfl⟩
  | setRole role =>
      refine Attempt.map_result_ok_iff.mpr ⟨role, ?_, rfl⟩
      exact bind_ok_iff.mpr ⟨_, Node.part_ok_nat_iff.mpr rfl, Node.name_quoted role⟩
  | grant g => exact Attempt.map_result_ok_iff.mpr ⟨g, grant_statement h howner, rfl⟩
  | revoke r => exact Attempt.map_result_ok_iff.mpr ⟨r, revoke_statement h howner, rfl⟩
  | grantRole m =>
      exact Attempt.map_result_ok_iff.mpr ⟨m, membership_statement h (.inl rfl), rfl⟩
  | revokeRole m =>
      exact Attempt.map_result_ok_iff.mpr ⟨m, membership_statement h (.inr rfl), rfl⟩
  | showGrant file p t? =>
      refine Operation.showGrantOfNode_result_ok_iff.mpr ⟨p, t?,
        Principal.soleOfNode_result_ok_iff.mpr ⟨⟨_, rfl, Principal.ofNode_node p⟩, h.1⟩, ?_, rfl⟩
      exact shown_statement h.2 howner
  | showRoleGrant file p =>
      exact Operation.showRoleGrantOfNode_result_ok_iff.mpr ⟨p,
        Principal.soleOfNode_result_ok_iff.mpr ⟨⟨_, rfl, Principal.ofNode_node p⟩, h⟩, rfl⟩
  | showRoles | showCurrentRole => rfl
  | showRolePrincipals file role =>
      change Operation.showRolePrincipalsOfNode _ (Operation.showRolePrincipals file role).statement
        = _
      exact Operation.showRolePrincipalsOfNode_ok_iff.mpr
        ⟨_, role, rfl, Node.name_quoted role, rfl⟩

/-- **What is permitted can be said.**  The canonical statement of an operation, issued in its
circumstances, comes to the operation exactly when the operation is permitted and the owner of its
target is the advice of the catalog. -/
theorem compile_statement_iff {op : Operation} :
    (c.compile op.issue op.statement).result = .ok op ↔
      op.Permitted c.policy ∧ op.Advised c.catalog := by
  refine ⟨fun h => ?_, fun h => ?_⟩
  · obtain ⟨_, -, hbuild⟩ := compile_result_ok_iff.mp h
    exact ⟨permitted_of_build hbuild, advised_of_compile h⟩
  · exact compile_result_ok_iff.mpr ⟨_, rfl, build_statement h.1 h.2⟩

end Compiler

end AccessControl
