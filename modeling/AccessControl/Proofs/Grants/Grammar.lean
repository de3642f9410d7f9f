import AccessControl.Proofs.Reading.Statements

/-!
# Grants — the grammar

Which trees are grants of privileges, and what they grant.  `Node.IsGrant` is the grammar of the
statement, clause by clause and without a reader: a list of privileges, a list of roles, and then
objects, at least one, and permissions to grant further, in any order.  `Node.Grants` says what a
tree of the grammar grants: each privilege and each role in its place, the last object, and the
permission to grant further when it is there at all.

**A grant is read exactly from the grammar, and as what the tree grants**
(`PrivilegeGrant.ofNode_iff_isGrant`).  The grammar leaves to the catalog and the reader of objects
what an object is.

* `PrivilegeRequest.ofNode_iff_requests`, `Principal.ofNode_iff_namesRole`: the same for one
  privilege and for one principal.
* `Clause.lastTarget?_eq_some_iff`, `Clause.contains_grantOption_iff`: the clauses in terms of the
  nodes they come from.
-/

namespace AccessControl

/-! ### Names -/

namespace Node

/-- The node has a text, and the text is the name, perhaps in ticks. -/
def Names (n : Node) (name : String) : Prop :=
  n.text.map Text.unquote = some name

theorem name_iff_names {n : Node} {name : String} : n.name = .ok name ↔ n.Names name := by
  rw [name_ok_iff, Names, Option.map_eq_some_iff]

theorem exists_names_iff {n : Node} : (∃ name, n.Names name) ↔ n.text.isSome := by
  cases h : n.text <;> simp [Names, h]

/-! ### Privileges -/

/-- The nodes of the columns that a privilege is limited to. -/
def columns (n : Node) : List Node :=
  n.children[1]?.elim [] children

/-- The node is a privilege of the policy: the first child is its word, and the second, if there
is one, is a list of columns, which is empty when the privilege applies to whole rows. -/
structure IsRequest (policy : Policy) (n : Node) : Prop where
  word : ∃ head privilege, n.children[0]? = some head ∧ head.tag = .word (.privilege privilege) ∧
    privilege ∈ policy.allowed ∧ (privilege = .insert ∨ privilege = .all → n.columns = [])
  list : ∀ list ∈ n.children[1]?, list.tag = .word .columnList
  names : ∀ m ∈ n.columns, m.text.isSome

/-- The node asks for the privilege, on its columns in order. -/
structure Requests (n : Node) (r : PrivilegeRequest) : Prop where
  word : ∃ head, n.children[0]? = some head ∧ head.tag = .word (.privilege r.privilege)
  columns : List.Forall₂ Names n.columns r.columns

end Node

namespace PrivilegeRequest

/-- The columns are read when they are a list, if there is a second child, and all have a name. -/
theorem columnsOfNode_iff_names {n : Node} {columns : List String} :
    columnsOfNode n = .ok columns ↔
      (∀ list ∈ n.children[1]?, list.tag = .word .columnList) ∧
        List.Forall₂ Node.Names n.columns columns := by
  rw [columnsOfNode_ok_iff, Node.columns]
  cases n.children[1]? with
  | none => simp
  | some list => simp [Node.names_ok_iff, Node.name_iff_names]

/-- A privilege is read exactly from a privilege of the policy, and as what the node asks for. -/
theorem ofNode_iff_requests {policy : Policy} {n : Node} {r : PrivilegeRequest} :
    ofNode policy n = .ok r ↔ n.IsRequest policy ∧ n.Requests r := by
  rw [ofNode_ok_iff, columnsOfNode_iff_names]
  -- the reader limits the columns and the grammar their nodes: there are as many of both
  refine ⟨?_, ?_⟩
  · rintro ⟨⟨head, hh, ht⟩, ha, ⟨hl, hc⟩, hw⟩
    refine ⟨⟨⟨head, r.privilege, hh, ht, ha, fun hp => ?_⟩, hl, ?_⟩, ⟨head, hh, ht⟩, hc⟩
    · rw [hw (Privilege.isWholeRow_iff.mpr hp), List.forall₂_nil_right_iff] at hc
      exact hc
    · exact fun m hm => Node.exists_names_iff.mp (exists_forall₂_iff.mp ⟨_, hc⟩ m hm)
  · rintro ⟨⟨⟨head, privilege, hh, ht, ha, hw⟩, hl, -⟩, ⟨head', hh', ht'⟩, hc⟩
    obtain rfl : head = head' := Option.some.inj (hh.symm.trans hh')
    obtain rfl : privilege = r.privilege := by simpa [ht] using ht'
    refine ⟨⟨head, hh, ht⟩, ha, ⟨hl, hc⟩, fun hp => ?_⟩
    rw [hw (Privilege.isWholeRow_iff.mp hp), List.forall₂_nil_left_iff] at hc
    exact hc

theorem exists_requests {policy : Policy} {n : Node} (h : n.IsRequest policy) :
    ∃ r, n.Requests r := by
  obtain ⟨⟨head, privilege, hh, ht, -⟩, -, hnames⟩ := h
  obtain ⟨columns, hc⟩ := exists_forall₂_iff.mpr
    fun m hm => Node.exists_names_iff.mpr (hnames m hm)
  exact ⟨⟨privilege, columns⟩, ⟨head, hh, ht⟩, hc⟩

theorem listOfNode_iff_requests {policy : Policy} {n : Node} {rs : List PrivilegeRequest} :
    listOfNode policy n = .ok rs ↔
      (∀ m ∈ n.children, m.IsRequest policy) ∧ List.Forall₂ Node.Requests n.children rs := by
  rw [listOfNode_ok_iff, ← List.forall₂_and_left]
  simp only [ofNode_iff_requests]

end PrivilegeRequest

/-! ### Principals -/

namespace Node

/-- The node is a role, marked as one by its word or its number, and has a name. -/
structure IsRole (n : Node) : Prop where
  mark : n.tag = .word (.principal .role) ∨ n.tag = .number 782
  name : ∃ named, n.children[0]? = some named ∧ named.text.isSome

/-- The principal is the role of the node's name. -/
structure NamesRole (n : Node) (p : Principal) : Prop where
  kind : p.kind = some .role
  name : ∃ named, n.children[0]? = some named ∧ named.Names p.name

end Node

namespace Principal

/-- A principal of some kind is read from a node that stands for the kind, with the node's name. -/
theorem ofNode_iff_ofKind {n : Node} {p : Principal} {kind : PrincipalKind} :
    (ofNode n).result = .ok p ∧ p.kind = some kind ↔
      n.tag.principalKind? = some kind ∧ p.kind = some kind ∧
        ∃ named, n.children[0]? = some named ∧ named.Names p.name := by
  rw [ofNode_result_ok_iff]
  simp only [Node.name_iff_names]
  refine ⟨?_, ?_⟩
  · rintro ⟨⟨hname, hk⟩, hkind⟩
    exact ⟨hk.symm.trans hkind, hkind, hname⟩
  · rintro ⟨hmark, hkind, hname⟩
    exact ⟨⟨hname, hkind.trans hmark.symm⟩, hkind⟩

/-- A role is read exactly from a node that is one, and as the role of the node's name. -/
theorem ofNode_iff_namesRole {n : Node} {p : Principal} :
    (ofNode n).result = .ok p ∧ p.kind = some .role ↔ n.IsRole ∧ n.NamesRole p := by
  rw [ofNode_iff_ofKind, Tag.principalKind?_eq_role_iff]
  refine ⟨?_, ?_⟩
  · rintro ⟨hmark, hrole, named, hn, hname⟩
    exact ⟨⟨hmark, named, hn, Node.exists_names_iff.mp ⟨_, hname⟩⟩, hrole, named, hn, hname⟩
  · rintro ⟨⟨hmark, -⟩, hrole, hname⟩
    exact ⟨hmark, hrole, hname⟩

theorem exists_namesRole {n : Node} (h : n.IsRole) : ∃ p, n.NamesRole p := by
  obtain ⟨-, named, hn, htext⟩ := h
  obtain ⟨name, hname⟩ := Node.exists_names_iff.mpr htext
  exact ⟨⟨name, some .role⟩, rfl, named, hn, hname⟩

theorem listOfNode_iff_namesRole {n : Node} {ps : List Principal} :
    (listOfNode n).result = .ok ps ∧ (∀ p ∈ ps, p.kind = some .role) ↔
      (∀ m ∈ n.children, m.IsRole) ∧ List.Forall₂ Node.NamesRole n.children ps := by
  rw [listOfNode_result_ok_iff, ← List.forall₂_and_left, forall₂_and_right]
  simp only [ofNode_iff_namesRole]

end Principal

/-! ### Clauses -/

namespace Node

/-- The clauses of a statement, after its two lists. -/
def clauses (n : Node) : List Node :=
  n.children.drop 2

/-- The objects among the clauses. -/
def objects (n : Node) : List Node :=
  n.clauses.filter fun m => m.tag = .word .object

theorem mem_objects_iff {m n : Node} : m ∈ n.objects ↔ m ∈ n.clauses ∧ m.tag = .word .object := by
  simp [objects]

/-- The node is a clause of a grant: the permission to grant further, or an object. -/
def IsClause (catalog : Option Catalog) (n : Node) : Prop :=
  n.tag = .word .grantOption ∨
    n.tag = .word .object ∧ ∃ target, (Target.ofNode catalog n).result = .ok target

end Node

namespace Clause

variable {catalog : Option Catalog} {n : Node} {clauses : List Clause}

theorem exists_ofNode_iff :
    (∃ clause, (ofNode catalog .grant n).result = .ok clause) ↔ n.IsClause catalog := by
  simp only [ofNode_result_ok_iff, true_and]
  refine ⟨?_, ?_⟩
  · rintro ⟨_, ⟨hg, -⟩ | ⟨ho, target, ht, -⟩⟩
    · exact .inl hg
    · exact .inr ⟨ho, target, ht⟩
  · rintro (hg | ⟨ho, target, ht⟩)
    · exact ⟨.grantOption, .inl ⟨hg, rfl⟩⟩
    · exact ⟨.object target, .inr ⟨ho, target, ht, rfl⟩⟩

theorem exists_listOfNode_iff :
    (∃ clauses, (listOfNode catalog .grant n).result = .ok clauses) ↔
      ∀ m ∈ n.clauses, m.IsClause catalog := by
  simp only [listOfNode_result_ok_iff, exists_forall₂_iff, exists_ofNode_iff, Node.clauses]

/-- The targets of the clauses are those of the objects, in order. -/
theorem forall₂_objects {place : Place} (h : (listOfNode catalog place n).result = .ok clauses) :
    List.Forall₂ (fun m target => (Target.ofNode catalog m).result = .ok target) n.objects
      (clauses.filterMap target?) := by
  rw [listOfNode_result_ok_iff] at h
  rw [Node.objects, Node.clauses]
  generalize n.children.drop 2 = ms at h ⊢
  -- along the clauses: a permission is no object and has no target
  induction h with
  | nil => exact .nil
  | cons hm _ ih =>
      rcases ofNode_result_ok_iff.mp hm with ⟨hg, -, rfl⟩ | ⟨ho, target, ht, rfl⟩
      · rw [List.filter_cons_of_neg (by simp [hg])]
        exact ih
      · rw [List.filter_cons_of_pos (by simp [ho])]
        exact .cons ht ih

/-- The last target is that of the last object. -/
theorem rel_lastTarget? {place : Place} (h : (listOfNode catalog place n).result = .ok clauses) :
    Option.Rel (fun m target => (Target.ofNode catalog m).result = .ok target) n.objects.getLast?
      (lastTarget? clauses) :=
  forall₂_getLast? (forall₂_objects h)

theorem lastTarget?_eq_some_iff (h : (listOfNode catalog .grant n).result = .ok clauses)
    {target : Target} :
    lastTarget? clauses = some target ↔
      ∃ object, n.objects.getLast? = some object ∧
        (Target.ofNode catalog object).result = .ok target := by
  have hlast := rel_lastTarget? h
  generalize n.objects.getLast? = object? at hlast
  generalize lastTarget? clauses = target? at hlast
  cases hlast with
  | none => simp
  | some ht => simp [ht]

theorem contains_grantOption_iff (h : (listOfNode catalog .grant n).result = .ok clauses) :
    clauses.contains .grantOption = true ↔ ∃ m ∈ n.clauses, m.tag = .word .grantOption := by
  rw [listOfNode_result_ok_iff] at h
  rw [Node.clauses]
  generalize n.children.drop 2 = ms at h ⊢
  induction h with
  | nil => simp
  | cons hm _ ih =>
      rw [List.contains_cons, Bool.or_eq_true, ih]
      rcases ofNode_result_ok_iff.mp hm with ⟨hg, -, rfl⟩ | ⟨ho, target, ht, rfl⟩
      · simp [hg]
      · simp [ho]

end Clause

/-! ### Whole statements -/

/-- The grammar of a grant of privileges. -/
structure Node.IsGrant (policy : Policy) (catalog : Option Catalog) (n : Node) : Prop where
  lists : 2 ≤ n.children.length
  privileges : ∀ list ∈ n.children[0]?, ∀ m ∈ list.children, m.IsRequest policy
  principals : ∀ list ∈ n.children[1]?, ∀ m ∈ list.children, m.IsRole
  clauses : ∀ m ∈ n.clauses, m.IsClause catalog
  object : ∃ m ∈ n.clauses, m.tag = .word .object

/-- The grant is what the tree grants: its privileges and roles in order, on its last object, with
the permission to grant further when it is among the clauses, by the user of the session. -/
structure Node.Grants (catalog : Option Catalog) (issue : Issue) (n : Node)
    (g : PrivilegeGrant) : Prop where
  privileges : ∀ list ∈ n.children[0]?, List.Forall₂ Node.Requests list.children g.privileges
  principals : ∀ list ∈ n.children[1]?, List.Forall₂ Node.NamesRole list.children g.principals
  target : ∃ object, n.objects.getLast? = some object ∧
    (Target.ofNode catalog object).result = .ok g.target
  grantOption : g.grantOption = true ↔ ∃ m ∈ n.clauses, m.tag = .word .grantOption
  grantor : g.grantor = issue.session.bind Session.user
  grantorKind : g.grantorKind = .user

/-- The last object of a grant has a target: every object has one. -/
theorem Node.IsGrant.exists_last {policy : Policy} {catalog : Option Catalog} {n : Node}
    (h : n.IsGrant policy catalog) :
    ∃ object, n.objects.getLast? = some object ∧
      ∃ target, (Target.ofNode catalog object).result = .ok target := by
  obtain ⟨m, hm, ho⟩ := h.object
  have hobject : m ∈ n.objects := List.mem_filter.mpr ⟨hm, by simpa using ho⟩
  obtain ⟨object, hlast⟩ := Option.isSome_iff_exists.mp
    (List.getLast?_isSome.mpr (List.ne_nil_of_mem hobject))
  obtain ⟨hmem, htag⟩ := List.mem_filter.mp (List.mem_of_getLast? hlast)
  rcases h.clauses object hmem with hg | ⟨-, htarget⟩
  · simp [hg] at htag
  · exact ⟨object, hlast, htarget⟩

namespace PrivilegeGrant

variable {policy : Policy} {catalog : Option Catalog} {issue : Issue} {n : Node}

/-- The reader accepts what the grammar accepts, and reads what the tree grants. -/
theorem ofNode_iff_grants {g : PrivilegeGrant} :
    (ofNode policy catalog issue n).result = .ok g ↔
      n.IsGrant policy catalog ∧ n.Grants catalog issue g := by
  rw [ofNode_result_ok_iff]
  refine ⟨?_, ?_⟩
  · rintro ⟨hr, hp, ⟨clauses, hc, ht, ho⟩, hk, hg, hu⟩
    obtain ⟨-, hr⟩ := exists_getElem?_iff.mp hr
    obtain ⟨hlists, hp⟩ := exists_getElem?_iff.mp hp
    have hrequests := fun list hl => PrivilegeRequest.listOfNode_iff_requests.mp (hr list hl)
    have hroles := fun list hl => Principal.listOfNode_iff_namesRole.mp ⟨hp list hl, hk⟩
    obtain ⟨object, hobject, htarget⟩ := (Clause.lastTarget?_eq_some_iff hc).mp ht
    have hmem := List.mem_filter.mp (List.mem_of_getLast? hobject)
    have hgrant : n.IsGrant policy catalog :=
      ⟨hlists, fun list hl => (hrequests list hl).1, fun list hl => (hroles list hl).1,
        Clause.exists_listOfNode_iff.mp ⟨clauses, hc⟩, object, hmem.1, by simpa using hmem.2⟩
    have hoption : g.grantOption = true ↔ ∃ m ∈ n.clauses, m.tag = .word .grantOption := by
      rw [ho, Clause.contains_grantOption_iff hc]
    exact ⟨hgrant, fun list hl => (hrequests list hl).2, fun list hl => (hroles list hl).2,
      ⟨object, hobject, htarget⟩, hoption, hg, hu⟩
  · rintro ⟨h, hs⟩
    -- the grammar only says that the clauses can be read; what they say is in the grant
    obtain ⟨clauses, hc⟩ := Clause.exists_listOfNode_iff.mpr h.clauses
    have hrequests := fun list hl =>
      PrivilegeRequest.listOfNode_iff_requests.mpr ⟨h.privileges list hl, hs.privileges list hl⟩
    have hroles := fun list hl =>
      Principal.listOfNode_iff_namesRole.mpr ⟨h.principals list hl, hs.principals list hl⟩
    obtain ⟨list, hlist, hp, hk⟩ := exists_getElem?_iff.mpr ⟨h.lists, hroles⟩
    have hoption : g.grantOption = clauses.contains .grantOption := by
      rw [Bool.eq_iff_iff, hs.grantOption, Clause.contains_grantOption_iff hc]
    exact ⟨exists_getElem?_iff.mpr ⟨Nat.lt_of_succ_lt h.lists, hrequests⟩, ⟨list, hlist, hp⟩,
      ⟨clauses, hc, (Clause.lastTarget?_eq_some_iff hc).mpr hs.target, hoption⟩, hk, hs.grantor,
      hs.grantorKind⟩

/-- A tree of the grammar grants something. -/
theorem exists_grants (h : n.IsGrant policy catalog) : ∃ g, n.Grants catalog issue g := by
  obtain ⟨list, hlist, hrequests⟩ :=
    exists_getElem?_iff.mpr ⟨Nat.lt_of_succ_lt h.lists, h.privileges⟩
  obtain ⟨list', hlist', hroles⟩ := exists_getElem?_iff.mpr ⟨h.lists, h.principals⟩
  obtain ⟨rs, hrs⟩ := exists_forall₂_iff.mpr
    fun m hm => PrivilegeRequest.exists_requests (hrequests m hm)
  obtain ⟨ps, hps⟩ := exists_forall₂_iff.mpr
    fun m hm => Principal.exists_namesRole (hroles m hm)
  obtain ⟨object, hobject, target, ht⟩ := h.exists_last
  refine ⟨⟨rs, ps, target, issue.grantor, .user,
    decide (∃ m ∈ n.clauses, m.tag = .word .grantOption)⟩, ?_, ?_, ⟨object, hobject, ht⟩,
    decide_eq_true_iff, rfl, rfl⟩
  · rintro _ hl
    cases hlist.symm.trans hl
    exact hrs
  · rintro _ hl
    cases hlist'.symm.trans hl
    exact hps

/-- **A grant is read exactly from the grammar**, whatever the session, and as what the tree
grants. -/
theorem ofNode_iff_isGrant :
    ((∃ g, (ofNode policy catalog issue n).result = .ok g) ↔ n.IsGrant policy catalog) ∧
      ∀ g, (ofNode policy catalog issue n).result = .ok g ↔
        n.IsGrant policy catalog ∧ n.Grants catalog issue g := by
  refine ⟨⟨?_, fun h => ?_⟩, fun _ => ofNode_iff_grants⟩
  · rintro ⟨_, hg⟩
    exact (ofNode_iff_grants.mp hg).1
  · obtain ⟨g, hg⟩ := exists_grants h
    exact ⟨g, ofNode_iff_grants.mpr ⟨h, hg⟩⟩

end PrivilegeGrant

end AccessControl
