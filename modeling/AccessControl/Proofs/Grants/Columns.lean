import AccessControl.Proofs.Catalog.Owners
import AccessControl.Proofs.Grants.Grammar
import AccessControl.Proofs.Policy.Permitted

/-!
# Grants — what is limited to columns

Columns stand in two places: after a privilege, and after the name of a target.  The two are read
apart from each other, and in both places a list without columns is read like a list that is not
there.

* `Compiler.compile_columns_eq_nil_iff`: **a privilege or a target is limited to no columns exactly
  if its list of columns is missing or empty.**  Of several lists of a target the last one counts.
* `Compiler.limitsWholeRows_iff`: **a privilege on whole rows has no columns of its own, and is
  limited to some exactly if the target is.**
-/

namespace AccessControl

/-! ### The parts of a statement and of an operation -/

/-- The privileges that are granted or revoked. -/
def Operation.requests : Operation → List PrivilegeRequest
  | .grant g => g.privileges
  | .revoke r => r.privileges
  | _ => []

namespace Node

/-- The nodes of the privileges of a tree that is read as a statement of some kind. -/
def requestNodes (n : Node) : StatementKind → List Node
  | .grant | .revoke => n.children[0]?.elim [] children
  | _ => []

/-- The node of the object that counts, in a tree that is read as a statement of some kind. -/
def objectNode? (n : Node) : StatementKind → Option Node
  | .grant | .revoke => n.objects.getLast?
  | .showGrant => n.children[1]?
  | _ => none

/-- The lists of columns of the target of an object. -/
def columnLists (object : Node) : List Node :=
  object.children[0]?.elim [] fun target =>
    (target.children.drop 1).filter fun m => m.tag = .word .columnList

end Node

/-- **The parts of an operation are read from the parts of its statement**, each privilege from the
node in its place and the target from the object that counts. -/
theorem Compiler.parts_of_build {c : Compiler} {issue : Issue} {n : Node} {kind : StatementKind}
    {op : Operation} (h : (c.build issue n kind).result = .ok op) :
    List.Forall₂ (fun m r => PrivilegeRequest.ofNode c.policy m = .ok r) (n.requestNodes kind)
        op.requests ∧
      Option.Rel (fun object t => (Target.ofNode c.catalog object).result = .ok t)
        (n.objectNode? kind) op.target? := by
  cases kind with
  | grant =>
      obtain ⟨g, hg, rfl⟩ := Attempt.map_result_ok_iff.mp h
      obtain ⟨⟨list, hl, hr⟩, -, ⟨clauses, hc, ht, -⟩, -⟩ :=
        PrivilegeGrant.ofNode_result_ok_iff.mp hg
      refine ⟨?_, ?_⟩
      · rw [Node.requestNodes, hl]
        exact PrivilegeRequest.listOfNode_ok_iff.mp hr
      · have hlast := Clause.rel_lastTarget? hc
        rwa [ht] at hlast
  | revoke =>
      obtain ⟨r, hr, rfl⟩ := Attempt.map_result_ok_iff.mp h
      obtain ⟨⟨list, hl, hq⟩, -, ⟨clauses, hc, ht⟩, -⟩ :=
        PrivilegeRevocation.ofNode_result_ok_iff.mp hr
      refine ⟨?_, ?_⟩
      · rw [Node.requestNodes, hl]
        exact PrivilegeRequest.listOfNode_ok_iff.mp hq
      · have hlast := Clause.rel_lastTarget? hc
        rwa [← ht] at hlast
  | showGrant =>
      obtain ⟨principal, target, -, ht, rfl⟩ := Operation.showGrantOfNode_result_ok_iff.mp h
      refine ⟨.nil, ?_⟩
      rw [Node.objectNode?]
      rcases Target.shownOfNode_result_ok_iff.mp ht with ⟨hnone, rfl⟩ | ⟨_, _, ho, -, hobject, rfl⟩
      · rw [hnone]
        exact .none
      · rw [ho]
        exact .some hobject
  | createRole | dropRole | setRole | grantRole | revokeRole =>
      obtain ⟨_, -, rfl⟩ := Attempt.map_result_ok_iff.mp h
      exact ⟨.nil, .none⟩
  | showRoleGrant =>
      obtain ⟨_, -, rfl⟩ := Operation.showRoleGrantOfNode_result_ok_iff.mp h
      exact ⟨.nil, .none⟩
  | showRoles | showCurrentRole =>
      cases h
      exact ⟨.nil, .none⟩
  | showRolePrincipals =>
      obtain ⟨_, _, -, -, rfl⟩ := Operation.showRolePrincipalsOfNode_ok_iff.mp h
      exact ⟨.nil, .none⟩

theorem Compiler.parts_of_compile {c : Compiler} {issue : Issue} {n : Node} {op : Operation}
    (h : (c.compile issue n).result = .ok op) :
    List.Forall₂ (fun m r => PrivilegeRequest.ofNode c.policy m = .ok r)
        (n.requestNodes op.statementKind) op.requests ∧
      Option.Rel (fun object t => (Target.ofNode c.catalog object).result = .ok t)
        (n.objectNode? op.statementKind) op.target? := by
  obtain ⟨kind, -, hbuild⟩ := compile_result_ok_iff.mp h
  rw [statementKind_of_build hbuild]
  exact parts_of_build hbuild

/-! ### Lists of columns -/

/-- A list of names is empty exactly if it has no children. -/
theorem Node.names_eq_nil_iff {n : Node} {xs : List String} (h : n.names = .ok xs) :
    xs = [] ↔ n.children = [] := by
  rw [names_ok_iff] at h
  refine ⟨?_, ?_⟩
  · rintro rfl
    exact List.forall₂_nil_right_iff.mp h
  · intro hnil
    rw [hnil] at h
    exact List.forall₂_nil_left_iff.mp h

theorem PrivilegeRequest.columns_eq_nil_iff {policy : Policy} {n : Node} {r : PrivilegeRequest}
    (h : ofNode policy n = .ok r) :
    r.columns = [] ↔ ∀ list ∈ n.children[1]?, list.children = [] := by
  obtain ⟨-, -, hcolumns, -⟩ := ofNode_ok_iff.mp h
  rcases columnsOfNode_ok_iff.mp hcolumns with ⟨hnone, hnil⟩ | ⟨list, hlist, -, hnames⟩
  · simp [hnone, hnil]
  · simp [hlist, Node.names_eq_nil_iff hnames]

theorem Target.columns_eq_nil_iff {catalog : Option Catalog} {object : Node} {t : Target}
    (h : (ofNode catalog object).result = .ok t) :
    t.columns = [] ↔ ∀ list ∈ object.columnLists.getLast?, list.children = [] := by
  obtain ⟨-, ⟨target, _, htarget, -, -, -, hcolumns⟩, -⟩ := ofNode_result_ok_iff.mp h
  have hlast := (columnsOfNodes_ok_iff.mp hcolumns).2
  rw [Node.columnLists, htarget, Option.elim_some]
  generalize ((target.children.drop 1).filter _).getLast? = last? at hlast ⊢
  cases last? with
  | none =>
      have hnil : [] = t.columns := Except.ok.inj hlast
      simp [← hnil]
  | some list => simp [Node.names_eq_nil_iff hlast]

namespace Compiler

variable {c : Compiler} {issue : Issue} {n : Node} {op : Operation}

/-- **A privilege or a target is limited to no columns exactly if its list of columns is missing or
empty.**  In an accepted statement this holds of each privilege, in its place, and of the target; of
several lists of a target the last one counts. -/
theorem compile_columns_eq_nil_iff (h : (c.compile issue n).result = .ok op) :
    List.Forall₂ (fun m r => r.columns = [] ↔ ∀ list ∈ m.children[1]?, list.children = [])
        (n.requestNodes op.statementKind) op.requests ∧
      Option.Rel
        (fun object t => t.columns = [] ↔ ∀ list ∈ object.columnLists.getLast?, list.children = [])
        (n.objectNode? op.statementKind) op.target? := by
  obtain ⟨hrequests, htarget⟩ := parts_of_compile h
  refine ⟨hrequests.imp fun _ _ => PrivilegeRequest.columns_eq_nil_iff, ?_⟩
  generalize n.objectNode? op.statementKind = object?, op.target? = target? at htarget ⊢
  cases htarget with
  | none => exact .none
  | some ht => exact .some (Target.columns_eq_nil_iff ht)

/-- A list of columns. -/
def columnListOf (names : List String) : Node where
  tag := .word .columnList
  children := names.map .identifier

/-- A grant of one privilege on the table `t` to a role, with what follows the privilege and what
follows the name of the table. -/
def grantLimited (privilege : Privilege) (own ofTarget : List Node) : Node where
  tag := .word (.statement .grant)
  children :=
    [{ tag := .word .privilegeList
       children := [{ tag := .word .privilegeItem
                      children := { tag := .word (.privilege privilege) } :: own }] },
     { tag := .word .principalList
       children := [{ tag := .word (.principal .role), children := [.identifier "r"] }] },
     { tag := .word .object
       children := [{ tag := .word (.target .table), children := .identifier "t" :: ofTarget }] }]

/-- The same grant as an operation. -/
def limitedGrant (privilege : Privilege) (own ofTarget : List String) : Operation :=
  .grant ⟨[⟨privilege, own⟩], [⟨"r", some .role⟩], ⟨"t", .table, none, ofTarget, none⟩, none,
    .user, false⟩

/-- A grant with a column after the privilege, and after the name a column and then an empty
list. -/
def grantLosingColumn : Node :=
  grantLimited .select [columnListOf ["a"]] [columnListOf ["b"], columnListOf []]

/-- The column of the privilege is kept, and that of the target is lost. -/
theorem compile_columns_eq_nil_iff_grantLosingColumn :
    (compile {} {} grantLosingColumn).result = .ok (limitedGrant .select ["a"] []) ∧
      List.Forall₂ (fun (m : Node) (r : PrivilegeRequest) =>
          r.columns = [] ↔ ∀ list ∈ m.children[1]?, list.children = [])
        (grantLosingColumn.requestNodes .grant) [⟨.select, ["a"]⟩] ∧
      Option.Rel (fun (object : Node) (t : Target) =>
          t.columns = [] ↔ ∀ list ∈ object.columnLists.getLast?, list.children = [])
        (grantLosingColumn.objectNode? .grant) (some ⟨"t", .table, none, [], none⟩) :=
  ⟨rfl, @compile_columns_eq_nil_iff {} {} grantLosingColumn (limitedGrant .select ["a"] []) rfl⟩

/-- A grant with an empty list after the privilege, and another one after the name. -/
def grantOnNoColumns : Node :=
  grantLimited .select [columnListOf []] [columnListOf []]

/-- So a list of columns does not limit anything by being there: with empty lists a privilege and a
target are accepted without columns. -/
theorem compile_grantOnNoColumns :
    (compile {} {} grantOnNoColumns).result = .ok (limitedGrant .select [] []) ∧
      ¬ List.Forall₂ (fun (m : Node) (r : PrivilegeRequest) =>
          m.children[1]?.isSome → r.columns ≠ [])
        (grantOnNoColumns.requestNodes .grant) (limitedGrant .select [] []).requests ∧
      ¬ Option.Rel (fun (object : Node) (t : Target) => object.columnLists ≠ [] → t.columns ≠ [])
        (grantOnNoColumns.objectNode? .grant) (limitedGrant .select [] []).target? := by
  refine ⟨rfl, ?_, ?_⟩
  · intro hrequests
    obtain ⟨hlimited, -⟩ := List.forall₂_cons.mp hrequests
    exact hlimited rfl rfl
  · rintro (hlimited | _)
    exact hlimited nofun rfl

end Compiler

/-! ### Privileges on whole rows -/

/-- The node asks for a privilege on whole rows. -/
def Node.AsksWholeRows (m : Node) : Prop :=
  ∃ head ∈ m.children[0]?,
    head.tag = .word (.privilege .insert) ∨ head.tag = .word (.privilege .all)

theorem PrivilegeRequest.wholeRow_iff_asks {policy : Policy} {n : Node} {r : PrivilegeRequest}
    (h : ofNode policy n = .ok r) :
    r.privilege = .insert ∨ r.privilege = .all ↔ n.AsksWholeRows := by
  obtain ⟨⟨head, hhead, htag⟩, -⟩ := ofNode_ok_iff.mp h
  simp [Node.AsksWholeRows, hhead, htag]

/-- The operation limits a privilege on whole rows to columns, its own or those of the target. -/
def Operation.LimitsWholeRows (op : Operation) : Prop :=
  ∃ r ∈ op.requests, (r.privilege = .insert ∨ r.privilege = .all) ∧
    (r.columns ≠ [] ∨ ∃ t ∈ op.target?, t.columns ≠ [])

namespace Compiler

variable {c : Compiler} {issue : Issue} {n : Node} {op : Operation}

/-- **A privilege on whole rows has no columns of its own, and is limited to some exactly if the
target is.**  An accepted statement limits such a privilege exactly if it asks for one and the last
list of columns of its object has some. -/
theorem limitsWholeRows_iff (h : (c.compile issue n).result = .ok op) :
    (∀ r ∈ op.requests, r.privilege = .insert ∨ r.privilege = .all → r.columns = []) ∧
      (op.LimitsWholeRows ↔
        (∃ m ∈ n.requestNodes op.statementKind, m.AsksWholeRows) ∧
          ∃ object ∈ n.objectNode? op.statementKind,
            ∃ list ∈ object.columnLists.getLast?, list.children ≠ []) := by
  obtain ⟨hrequests, htarget⟩ := parts_of_compile h
  have hown : ∀ r ∈ op.requests, r.privilege = .insert ∨ r.privilege = .all → r.columns = [] :=
    forall_of_forall₂ hrequests fun m r hm => (PrivilegeRequest.permitted_of_ofNode hm).columns
  have hasks : (∃ m ∈ n.requestNodes op.statementKind, m.AsksWholeRows) ↔
      ∃ r ∈ op.requests, r.privilege = .insert ∨ r.privilege = .all := by
    refine ⟨?_, ?_⟩
    · rintro ⟨m, hm, hasks⟩
      obtain ⟨r, hr, hread⟩ := exists_of_forall₂ hrequests.flip m hm
      exact ⟨r, hr, (PrivilegeRequest.wholeRow_iff_asks hread).mpr hasks⟩
    · rintro ⟨r, hr, hwhole⟩
      obtain ⟨m, hm, hread⟩ := exists_of_forall₂ hrequests r hr
      exact ⟨m, hm, (PrivilegeRequest.wholeRow_iff_asks hread).mp hwhole⟩
  have hcolumns : (∃ object ∈ n.objectNode? op.statementKind,
      ∃ list ∈ object.columnLists.getLast?, list.children ≠ []) ↔
        ∃ t ∈ op.target?, t.columns ≠ [] := by
    generalize n.objectNode? op.statementKind = object?, op.target? = target? at htarget ⊢
    cases htarget with
    | none => simp
    | some ht => simp [Target.columns_eq_nil_iff ht]
  refine ⟨hown, ?_⟩
  rw [hasks, hcolumns, Operation.LimitsWholeRows]
  refine ⟨?_, ?_⟩
  · rintro ⟨r, hr, hwhole, hlimits⟩
    exact ⟨⟨r, hr, hwhole⟩, hlimits.resolve_left fun hne => hne (hown r hr hwhole)⟩
  · rintro ⟨⟨r, hr, hwhole⟩, hlimits⟩
    exact ⟨r, hr, hwhole, .inr hlimits⟩

/-- A privilege that is not on whole rows can be limited in both places. -/
theorem limitsWholeRows_iff_grantLimited :
    (compile {} {} (grantLimited .select [columnListOf ["a"]] [columnListOf ["b"]])).result =
        .ok (limitedGrant .select ["a"] ["b"]) ∧
      ¬ (limitedGrant .select ["a"] ["b"]).LimitsWholeRows := by
  obtain ⟨-, hiff⟩ := @limitsWholeRows_iff {} {}
    (grantLimited .select [columnListOf ["a"]] [columnListOf ["b"]])
    (limitedGrant .select ["a"] ["b"]) rfl
  refine ⟨rfl, ?_⟩
  rw [hiff]
  rintro ⟨⟨m, hm, head, hhead, hword⟩, -⟩
  obtain rfl := List.mem_singleton.mp hm
  obtain rfl := Option.mem_some.mp hhead
  rcases hword with hinsert | hall
  · exact nomatch hinsert
  · exact nomatch hall

/-- The columns of the target limit a privilege that is granted on whole rows. -/
theorem limitsWholeRows_of_target :
    (compile {} {} (grantLimited .insert [] [columnListOf ["a"]])).result =
        .ok (limitedGrant .insert [] ["a"]) ∧
      (limitedGrant .insert [] ["a"]).LimitsWholeRows :=
  ⟨rfl, ⟨.insert, []⟩, .head _, .inl rfl, .inr ⟨_, rfl, nofun⟩⟩

end Compiler

end AccessControl
