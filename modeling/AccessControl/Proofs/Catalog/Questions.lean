import AccessControl.Proofs.Catalog.Savepoints
import AccessControl.Proofs.Reading.Remarks
import AccessControl.Proofs.Targets.Partitions

/-!
# Catalogs — which questions a statement puts

A catalog is asked about an object when the object is read, if its target is a table or a database
with a name (`Node.question?`).  It is asked before the columns of the target are read and before
the kinds of the principals are looked at, so a statement can put questions and be turned down all
the same.  What is turned down earlier puts none.

**The questions of a statement are those of the objects that are reached, in order**
(`Compiler.compile_asks`): in a grant or revocation the objects up to the first clause that is
turned down, once both lists are read; in a question about grants its object, once its principal is
found to be a role.  The objects that are reached are told by the tree and the policy
(`Node.questions`), whatever the catalog answers.  With the principals that are read they make up
the whole journal (`Compiler.journal_compile`).
-/

namespace AccessControl

open Attempt (reached)

/-! ### The questions of a tree -/

/-- The question about a target: for the owner of a table or database. -/
def ObjectKind.question? (name : String) : ObjectKind → Option Question
  | .table => some ⟨.table, name⟩
  | .database => some ⟨.database, name⟩
  | .server | .uri => none

/-- The question about an object, if it holds no partition and its target has a name. -/
def Node.question? (object : Node) : Option Question :=
  if object.hasPartition then none
  else do
    let target ← object.children[0]?
    let named ← target.children[0]?
    let kind ← target.tag.objectKind?
    let name ← (kind.nameOfNode named).toOption
    kind.question? name

namespace Node

/-- An object has a question when no partition lies within it and its target is a table or a
database whose name can be read. -/
theorem question?_eq_some_iff {object : Node} {q : Question} :
    object.question? = some q ↔
      object.IsWhole ∧ ∃ target named, object.children[0]? = some target ∧
        target.children[0]? = some named ∧
          (target.tag = .word (.target .table) ∧ q.kind = .table ∧
              named.tableName = .ok q.name ∨
            target.tag = .word (.target .database) ∧ q.kind = .database ∧
              named.name = .ok q.name) := by
  have hquestion (kind : ObjectKind) (name : String) : kind.question? name = some q ↔
      (kind = .table ∧ q.kind = .table ∨ kind = .database ∧ q.kind = .database) ∧
        name = q.name := by
    obtain ⟨_, _⟩ := q
    cases kind <;> simp [ObjectKind.question?, eq_comm]
  rw [IsWhole, ← hasPartition_eq_false_iff, question?]
  cases object.hasPartition with
  | true => simp
  | false =>
      simp only [Bool.false_eq_true, if_false, Option.bind_eq_bind, Option.bind_eq_some_iff,
        Tag.objectKind?_eq_some_iff, toOption_eq_some_iff, hquestion, true_and]
      refine exists_congr fun target => ⟨?_, ?_⟩
      · rintro ⟨htarget, named, hnamed, kind, htag, name, hname, hkinds, rfl⟩
        refine ⟨named, htarget, hnamed, hkinds.imp ?_ ?_⟩
        · rintro ⟨rfl, hk⟩
          exact ⟨htag, hk, hname⟩
        · rintro ⟨rfl, hk⟩
          exact ⟨htag, hk, hname⟩
      · rintro ⟨named, htarget, hnamed, ⟨htag, hk, hname⟩ | ⟨htag, hk, hname⟩⟩
        · exact ⟨htarget, named, hnamed, .table, htag, q.name, hname, .inl ⟨rfl, hk⟩, rfl⟩
        · exact ⟨htarget, named, hnamed, .database, htag, q.name, hname, .inr ⟨rfl, hk⟩, rfl⟩

/-- The question of an object that can be read is for the name of its target. -/
theorem question?_of_target {catalog : Option Catalog} {object : Node} {t : Target}
    (h : (Target.ofNode catalog object).result = .ok t) :
    object.question? = t.kind.question? t.name := by
  obtain ⟨hp, ⟨target, named, htarget, hnamed, hkind, hname, -⟩, -⟩ :=
    Target.ofNode_result_ok_iff.mp h
  have hkind' := Tag.objectKind?_eq_some_iff.mpr hkind
  simp only [question?, hp, Bool.false_eq_true, if_false, htarget, hnamed, hkind', hname,
    Option.bind_eq_bind, Option.bind_some, Except.toOption]

end Node

/-! ### The objects that are reached -/

namespace Node

/-- The two lists of a grant or revocation. -/
def lists (policy : Policy) (n : Node) :
    Attempt Rejection (List PrivilegeRequest × List Principal) := do
  let privilegeList ← n.part 0
  let privileges ← PrivilegeRequest.listOfNode policy privilegeList
  let principalList ← n.part 1
  let principals ← Principal.listOfNode principalList
  pure (privileges, principals)

/-- Both lists of a grant or revocation are there and can be read. -/
structure HasLists (policy : Policy) (n : Node) : Prop where
  privileges : ∃ list privileges, n.children[0]? = some list ∧
    PrivilegeRequest.listOfNode policy list = .ok privileges
  principals : ∃ list principals, n.children[1]? = some list ∧
    (Principal.listOfNode list).result = .ok principals

theorem lists_result_ok_iff {policy : Policy} {n : Node}
    {l : List PrivilegeRequest × List Principal} :
    (n.lists policy).result = .ok l ↔
      (∃ list, n.children[0]? = some list ∧ PrivilegeRequest.listOfNode policy list = .ok l.1) ∧
        ∃ list, n.children[1]? = some list ∧ (Principal.listOfNode list).result = .ok l.2 := by
  simp only [lists, Attempt.bind_result_ok_iff, Attempt.liftM_eq, Attempt.result_ofExcept,
    Attempt.result_pure, Except.ok.injEq]
  refine ⟨?_, ?_⟩
  · rintro ⟨list, hl, privileges, hr, list', hl', principals, hp, rfl⟩
    exact ⟨⟨list, part_ok_nat_iff.mp hl, hr⟩, ⟨list', part_ok_nat_iff.mp hl', hp⟩⟩
  · rintro ⟨⟨list, hl, hr⟩, ⟨list', hl', hp⟩⟩
    exact ⟨list, part_ok_nat_iff.mpr hl, l.1, hr, list', part_ok_nat_iff.mpr hl', l.2, hp, rfl⟩

theorem exists_lists_iff {policy : Policy} {n : Node} :
    (∃ lists, (n.lists policy).result = .ok lists) ↔ n.HasLists policy := by
  simp only [lists_result_ok_iff]
  refine ⟨?_, ?_⟩
  · rintro ⟨lists, ⟨list, hl, hr⟩, ⟨list', hl', hp⟩⟩
    exact ⟨⟨list, lists.1, hl, hr⟩, ⟨list', lists.2, hl', hp⟩⟩
  · rintro ⟨⟨list, privileges, hl, hr⟩, ⟨list', principals, hl', hp⟩⟩
    exact ⟨(privileges, principals), ⟨list, hl, hr⟩, ⟨list', hl', hp⟩⟩

instance (policy : Policy) (n : Node) : Decidable (n.HasLists policy) :=
  decidable_of_iff ((n.lists policy).result.isOk) <| by
    rw [← exists_lists_iff]
    cases (n.lists policy).result <;> simp [Except.isOk, Except.toBool]

/-- The objects that a grant or revocation gets to: none before its lists are read, and none after a
clause that is turned down. -/
def objectsReached (policy : Policy) (place : Place) (n : Node) : List Node :=
  if n.HasLists policy then
    (reached (Clause.ofNode none place) n.clauses).filter fun m => m.tag = .word .object
  else []

/-- The first child is a role. -/
def HasRole (n : Node) : Prop :=
  ∃ principal, n.children[0]? = some principal ∧ principal.IsRole

theorem exists_soleOfNode_iff {n : Node} :
    (∃ p, (Principal.soleOfNode .role n).result = .ok p) ↔ n.HasRole := by
  simp only [Principal.soleOfNode_result_ok_iff]
  refine ⟨?_, ?_⟩
  · rintro ⟨p, ⟨principal, hprincipal, hp⟩, hk⟩
    exact ⟨principal, hprincipal, (Principal.ofNode_iff_namesRole.mp ⟨hp, hk⟩).1⟩
  · rintro ⟨principal, hprincipal, hrole⟩
    obtain ⟨p, hnames⟩ := Principal.exists_namesRole hrole
    obtain ⟨hp, hk⟩ := Principal.ofNode_iff_namesRole.mpr ⟨hrole, hnames⟩
    exact ⟨p, ⟨principal, hprincipal, hp⟩, hk⟩

instance (n : Node) : Decidable n.HasRole :=
  decidable_of_iff ((Principal.soleOfNode .role n).result.isOk) <| by
    rw [← exists_soleOfNode_iff]
    cases (Principal.soleOfNode .role n).result <;> simp [Except.isOk, Except.toBool]

/-- The object that a question about grants gets to: none unless the principal is a role. -/
def shownReached (n : Node) : List Node :=
  if n.HasRole then n.children[1]?.toList.filter fun m => m.tag = .word .shownObject else []

/-- The objects that a tree gets to when it is read as a statement of some kind. -/
def reachedAs (policy : Policy) (n : Node) : StatementKind → List Node
  | .grant => n.objectsReached policy .grant
  | .revoke => n.objectsReached policy .revoke
  | .showGrant => n.shownReached
  | _ => []

/-- The questions that a statement puts, in order. -/
def questions (policy : Policy) (n : Node) : List Question :=
  n.tag.statement?.toList.flatMap fun kind => (n.reachedAs policy kind).filterMap question?

end Node

/-! ### Questions to a catalog -/

/-- What a catalog does when a question is put to it. -/
def Catalog.asked (catalog : Catalog) (q : Question) : List Call :=
  calls (catalog.owner q.kind q.name).journal

/-- A question as it is put to a catalog. -/
def Question.call (q : Question) : Call :=
  .ask q.kind q.name

theorem Entries.asked_catalog (entries : Entries) (q : Question) :
    entries.catalog.asked q = [q.call] :=
  congrArg calls (entries.journal_owner q.kind q.name)

theorem Catalog.asked_broken (reason : String) (q : Question) :
    (Catalog.broken reason).asked q = [q.call] := rfl

/-- The kind of target that a question is about. -/
def CatalogKind.objectKind : CatalogKind → ObjectKind
  | .table => .table
  | .database => .database

/-- What is noted when a question is put to a catalog, if there is one: what the catalog does, and a
remark if that fails. -/
def Catalog.consulted (catalog : Option Catalog) (q : Question) : List Entry :=
  (lookupOwner (ε := Rejection) catalog q.kind.objectKind q.name).journal

theorem Catalog.calls_consulted (catalog : Catalog) (q : Question) :
    calls (consulted (some catalog) q) = catalog.asked q := by
  rw [consulted, calls_lookupOwner, asked]
  cases q.kind <;> rfl

/-! ### Objects -/

namespace Target

variable (catalog : Option Catalog)

theorem toOption_kindOfTag (tag : Tag) : (kindOfTag tag).toOption = tag.objectKind? := by
  rw [kindOfTag]
  cases tag.objectKind? <;> rfl

theorem journal_ownerOf (kind : ObjectKind) (name : String) :
    (ownerOf catalog kind name).journal =
      (kind.question? name).toList.flatMap (Catalog.consulted catalog) := by
  cases kind with
  | server | uri => rfl
  | table | database =>
      rw [ObjectKind.question?, Option.toList_some, List.flatMap_singleton]
      rfl

/-- **Reading an object puts its question, and nothing else is noted.** -/
theorem journal_ofNode (object : Node) :
    (ofNode catalog object).journal =
      object.question?.toList.flatMap (Catalog.consulted catalog) := by
  rw [ofNode, Node.question?]
  split
  · rfl
  · simp only [Attempt.liftM_eq, Option.bind_eq_bind, Option.toList_bind, Function.comp_def,
      List.flatMap_assoc]
    refine (object.journal_part_bind 0 _).trans (List.flatMap_congr fun target _ => ?_)
    refine (target.journal_part_bind 0 _).trans (List.flatMap_congr fun named _ => ?_)
    rw [Attempt.journal_ofExcept_bind, toOption_kindOfTag]
    refine List.flatMap_congr fun kind _ => ?_
    rw [Attempt.journal_ofExcept_bind]
    refine List.flatMap_congr fun name _ => ?_
    rw [← journal_ownerOf]
    -- the columns are read after the question
    exact Attempt.journal_bind_silent _ fun owner => Attempt.journal_bind_silent _ fun _ => rfl

end Target

/-! ### Clauses -/

namespace Clause

/-- Of the clauses only objects put questions. -/
theorem journal_ofNode (catalog : Option Catalog) (place : Place) (m : Node) :
    (ofNode catalog place m).journal =
      if m.tag = .word .object then m.question?.toList.flatMap (Catalog.consulted catalog)
      else [] := by
  rw [ofNode]
  split
  · rename_i hoption
    rw [if_neg (by simp [hoption.1])]
    rfl
  · split
    · rw [Attempt.journal_bind_silent _ fun target => rfl]
      exact Target.journal_ofNode catalog m
    · rfl

/-- Whether a clause is turned down does not depend on the catalog. -/
theorem isOk_ofNode (catalog : Option Catalog) (place : Place) (m : Node) :
    (ofNode catalog place m).result.isOk = (ofNode none place m).result.isOk := by
  rw [ofNode_result_advised]
  cases (ofNode none place m).result <;> rfl

theorem reached_ofNode (catalog : Option Catalog) (place : Place) (ms : List Node) :
    reached (ofNode catalog place) ms = reached (ofNode none place) ms := by
  simp only [reached, isOk_ofNode catalog]

/-- The clauses put the questions of the objects that are reached among them. -/
theorem journal_listOfNode (catalog : Option Catalog) (place : Place) (n : Node) :
    (listOfNode catalog place n).journal =
      (((reached (ofNode none place) n.clauses).filter fun m => m.tag = .word .object).filterMap
        Node.question?).flatMap (Catalog.consulted catalog) := by
  rw [listOfNode, Attempt.journal_mapM, reached_ofNode, List.filterMap_filter,
    List.filterMap_eq_flatMap_toList, List.flatMap_assoc]
  refine List.flatMap_congr fun m _ => (journal_ofNode catalog place m).trans ?_
  by_cases h : m.tag = .word .object <;> simp [h]

end Clause

/-! ### Statements -/

variable {policy : Policy} {catalog : Option Catalog} {issue : Issue} {n : Node}

/-- The principals are noted once the privileges are read. -/
theorem Node.journal_lists (policy : Policy) (n : Node) :
    (n.lists policy).journal =
      ((n.principalList? policy).toList.flatMap principalsListed).map Principal.noted := by
  simp only [lists, principalList?, Option.bind_eq_bind, Option.toList_bind, Function.comp_def,
    List.flatMap_assoc, List.map_flatMap]
  refine (n.journal_part_bind 0 _).trans (List.flatMap_congr fun list _ => ?_)
  refine (Attempt.journal_ofExcept_bind _ _).trans (List.flatMap_congr fun privileges _ => ?_)
  refine (n.journal_part_bind 1 _).trans (List.flatMap_congr fun list' _ => ?_)
  rw [← Principal.journal_listOfNode]
  exact Attempt.journal_bind_silent _ fun principals => rfl

/-- The clauses put their questions once both lists are read; what follows them notes nothing. -/
theorem Node.journal_lists_bind (catalog : Option Catalog) (place : Place) {α : Type}
    (rest : List PrivilegeRequest × List Principal → List Clause → Attempt Rejection α)
    (hrest : ∀ lists clauses, (rest lists clauses).journal = []) :
    (n.lists policy >>= fun lists =>
      Clause.listOfNode catalog place n >>= rest lists).journal =
      ((n.principalList? policy).toList.flatMap principalsListed).map Principal.noted ++
        ((n.objectsReached policy place).filterMap question?).flatMap
          (Catalog.consulted catalog) := by
  rw [Attempt.journal_bind_const (n.lists policy) exists_lists_iff fun lists =>
    (Attempt.journal_bind_silent _ (hrest lists)).trans (Clause.journal_listOfNode catalog place n),
    journal_lists, objectsReached]
  split <;> rfl

namespace PrivilegeGrant

/-- The grant of two lists and clauses that are read. -/
def ofClauses (issue : Issue) (lists : List PrivilegeRequest × List Principal)
    (clauses : List Clause) : Attempt Rejection PrivilegeGrant :=
  match Clause.lastTarget? clauses with
  | none => Attempt.fail .missingObject
  | some target => do
      Principal.requireKind .role lists.2
      pure {
        privileges := lists.1, principals := lists.2, target
        grantor := issue.grantor
        grantOption := clauses.contains .grantOption }

theorem journal_ofClauses (issue : Issue) (lists : List PrivilegeRequest × List Principal)
    (clauses : List Clause) : (ofClauses issue lists clauses).journal = [] := by
  rw [ofClauses]
  cases Clause.lastTarget? clauses with
  | none => rfl
  | some target => exact Attempt.journal_bind_silent _ fun _ => rfl

theorem ofNode_eq_lists_bind :
    ofNode policy catalog issue n = n.lists policy >>= fun lists =>
      Clause.listOfNode catalog .grant n >>= ofClauses issue lists := by
  simp only [ofNode, Node.lists, bind_assoc, pure_bind]
  rfl

end PrivilegeGrant

namespace PrivilegeRevocation

/-- The revocation of two lists and clauses that are read. -/
def ofClauses (lists : List PrivilegeRequest × List Principal) (clauses : List Clause) :
    Attempt Rejection PrivilegeRevocation := do
  Principal.requireKind .role lists.2
  pure { privileges := lists.1, principals := lists.2, target := Clause.lastTarget? clauses }

theorem ofNode_eq_lists_bind :
    ofNode policy catalog n = n.lists policy >>= fun lists =>
      Clause.listOfNode catalog .revoke n >>= ofClauses lists := by
  simp only [ofNode, Node.lists, bind_assoc, pure_bind]
  rfl

end PrivilegeRevocation

theorem Target.journal_shownOfNode (catalog : Option Catalog) (n : Node) :
    (shownOfNode catalog n).journal =
      ((n.children[1]?.toList.filter fun m => m.tag = .word .shownObject).filterMap
        Node.question?).flatMap (Catalog.consulted catalog) := by
  rw [shownOfNode]
  cases n.children[1]? with
  | none => rfl
  | some object =>
      by_cases h : object.tag = .word .shownObject
      · simp only [h, if_true, Attempt.journal_map, journal_ofNode, Option.toList_some,
          List.filter_cons, decide_true, List.filter_nil, List.filterMap_eq_flatMap_toList,
          List.flatMap_singleton]
      · simp only [h, if_false, Option.toList_some, List.filter_cons, decide_false,
          List.filter_nil]
        rfl

theorem Operation.journal_showGrantOfNode :
    (showGrantOfNode catalog issue n).journal =
      (n.children[0]?.toList.filterMap Node.principal?).map Principal.noted ++
        (n.shownReached.filterMap Node.question?).flatMap (Catalog.consulted catalog) := by
  rw [showGrantOfNode, Attempt.journal_bind_const (Principal.soleOfNode .role n)
    Node.exists_soleOfNode_iff fun principal =>
      (Attempt.journal_bind_silent _ fun target => rfl).trans
        (Target.journal_shownOfNode catalog n),
    Principal.journal_soleOfNode, Node.shownReached]
  split <;> rfl

namespace Compiler

/-- **The journal of a reading.**  First the principals that are read are noted, and then what comes
of the questions. -/
theorem journal_build (c : Compiler) (issue : Issue) (n : Node) (kind : StatementKind) :
    (c.build issue n kind).journal =
      (n.principalsAs c.policy kind).map Principal.noted ++
        ((n.reachedAs c.policy kind).filterMap Node.question?).flatMap
          (Catalog.consulted c.catalog) := by
  cases kind with
  | grant =>
      rw [build, Attempt.journal_map, PrivilegeGrant.ofNode_eq_lists_bind]
      exact Node.journal_lists_bind c.catalog .grant _ (PrivilegeGrant.journal_ofClauses issue)
  | revoke =>
      rw [build, Attempt.journal_map, PrivilegeRevocation.ofNode_eq_lists_bind]
      exact Node.journal_lists_bind c.catalog .revoke _ fun lists clauses =>
        Attempt.journal_bind_silent _ fun _ => rfl
  | showGrant => exact Operation.journal_showGrantOfNode
  | grantRole | revokeRole =>
      rw [build, Attempt.journal_map, Membership.journal_ofNode]
      exact (List.append_nil _).symm
  | showRoleGrant =>
      refine (Attempt.journal_bind_silent _ fun principal => rfl).trans ?_
      rw [Principal.journal_soleOfNode]
      exact (List.append_nil _).symm
  | createRole | dropRole | setRole => exact Attempt.journal_map _ _
  | showRoles | showCurrentRole | showRolePrincipals => rfl

/-- **The journal of a compilation.**  Between the remark that it begins and the one that it is
turned down the principals that are read are noted, and then what comes of the questions. -/
theorem journal_compile (c : Compiler) (issue : Issue) (n : Node) :
    (c.compile issue n).journal =
      (n.tag.statement?.toList.map fun _ => .record (.compiling n.tag)) ++
        (n.principals c.policy).map Principal.noted ++
        (n.questions c.policy).flatMap (Catalog.consulted c.catalog) ++
        match (c.compile issue n).result with
        | .ok _ => []
        | .error r => [.record (.refused n.tag r)] := by
  have hdispatch : (c.dispatch issue n).journal =
      (n.tag.statement?.toList.map fun _ => .record (.compiling n.tag)) ++
        (n.principals c.policy).map Principal.noted ++
        (n.questions c.policy).flatMap (Catalog.consulted c.catalog) := by
    rw [dispatch, Node.principals, Node.questions]
    cases n.tag.statement? with
    | none => rfl
    | some kind =>
        rw [Attempt.journal_after, journal_build, Option.toList_some, List.flatMap_singleton,
          List.flatMap_singleton]
        rfl
  rw [compile, Attempt.journal_noteError, Attempt.result_noteError, hdispatch]
  cases (c.dispatch issue n).result <;> rfl

/-- A statement turns to its catalog with its questions, whatever the catalog is. -/
theorem calls_compile (policy : Policy) (catalog : Catalog) (issue : Issue) (n : Node) :
    calls (compile ⟨policy, some catalog⟩ issue n).journal =
      (n.questions policy).flatMap catalog.asked := by
  have hopening : calls (n.tag.statement?.toList.map fun _ => .record (.compiling n.tag)) = [] := by
    cases n.tag.statement? <;> rfl
  have hprincipals : calls ((n.principals policy).map Principal.noted) = [] := by
    rw [calls, List.filterMap_map]
    exact List.filterMap_eq_nil_iff.mpr fun _ _ => rfl
  have hquestions : calls ((n.questions policy).flatMap (Catalog.consulted (some catalog))) =
      (n.questions policy).flatMap catalog.asked := by
    rw [calls, List.filterMap_flatMap]
    exact List.flatMap_congr fun q _ => catalog.calls_consulted q
  rw [journal_compile, calls_append, calls_append, calls_append, hopening, hprincipals, hquestions]
  cases (compile ⟨policy, some catalog⟩ issue n).result <;> exact List.append_nil _

/-- **The questions of a statement are those of the objects that are reached, in order.**  A catalog
that answers from entries is asked just these, and so is one that always fails.  An object has a
question when no partition lies within it and its target is a table or a database whose name can be
read; the name is the one that the target is given, if the object can be read to its end. -/
theorem compile_asks (policy : Policy) (issue : Issue) (n : Node) :
    (∀ entries : Entries, calls (compile ⟨policy, some entries.catalog⟩ issue n).journal =
      (n.questions policy).map Question.call) ∧
    (∀ reason, calls (compile ⟨policy, some (Catalog.broken reason)⟩ issue n).journal =
      (n.questions policy).map Question.call) ∧
    (∀ (object : Node) (q : Question), object.question? = some q ↔
      object.IsWhole ∧ ∃ target named, object.children[0]? = some target ∧
        target.children[0]? = some named ∧
          (target.tag = .word (.target .table) ∧ q.kind = .table ∧
              named.tableName = .ok q.name ∨
            target.tag = .word (.target .database) ∧ q.kind = .database ∧
              named.name = .ok q.name)) ∧
    ∀ (catalog : Option Catalog) (object : Node) (t : Target),
      (Target.ofNode catalog object).result = .ok t →
        object.question? = t.kind.question? t.name := by
  have hmap (catalog : Catalog) (hasked : ∀ q, catalog.asked q = [q.call]) :
      calls (compile ⟨policy, some catalog⟩ issue n).journal =
        (n.questions policy).map Question.call := by
    rw [calls_compile, funext hasked, List.map_eq_flatMap]
  exact ⟨fun entries => hmap _ entries.asked_catalog,
    fun reason => hmap _ (Catalog.asked_broken reason),
    fun _ _ => Node.question?_eq_some_iff, fun _ _ _ => Node.question?_of_target⟩

/-- An object with a target of a kind, its name and whatever follows the name. -/
def objectOf (kind : ObjectKind) (name : String) (further : List Node := []) : Node where
  tag := .word .object
  children := [{ tag := .word (.target kind), children := .identifier name :: further }]

/-- A grant on the table `d.t`, a server, a database with a nameless column and the table `u`. -/
def grantOnMany : Node :=
  { grantOnTable with
    children := grantOnTable.children.take 2 ++
      [objectOf .table "d.t", objectOf .server "s",
        objectOf .database "d"
          [{ tag := .word .columnList, children := [{ tag := .word .identifier }] }],
        objectOf .table "u"] }

/-- The database is asked about and then its column is turned down, so the last table is not
reached. -/
theorem compile_asks_grantOnMany :
    (compile ⟨{}, some ownedTable⟩ {} grantOnMany).result =
        .error (.missingText (.word .identifier)) ∧
      calls (compile ⟨{}, some ownedTable⟩ {} grantOnMany).journal =
        [.ask .table "t", .ask .database "d"] ∧
      calls (compile ⟨{}, some (Catalog.broken "down")⟩ {} grantOnMany).journal =
        [.ask .table "t", .ask .database "d"] ∧
      (objectOf .table "d.t").question? = some ⟨.table, "t"⟩ := by
  obtain ⟨hentries, hbroken, -, hread⟩ := compile_asks {} {} grantOnMany
  have hquestions : grantOnMany.questions {} = [⟨.table, "t"⟩, ⟨.database, "d"⟩] := by
    decide +kernel
  exact ⟨rfl, (hentries _).trans (congrArg _ hquestions),
    (hbroken _).trans (congrArg _ hquestions), hread none _ ⟨"t", .table, none, [], none⟩ rfl⟩

end Compiler

end AccessControl
