import AccessControl.Proofs.Catalog.Questions
import AccessControl.Proofs.Grants.Columns
import AccessControl.Proofs.Verdicts.PartNeeds

/-!
# Verdicts — a principal of the wrong kind is the only fault

A grant or revocation takes roles and a membership takes groups.  The kinds of the principals are
looked at when all else is read (`Compiler.build_eq_draft_bind`): the operation is drafted, with
whatever principals there are (`Compiler.draft`), and then it stands if they are all of the kind.

So a statement that is turned down for a principal is sound but for its principals.  To say so the
tree is retagged (`Node.retag`): the children of its list of principals all get a tag of the kind
that is required.  **The draft of the retagged tree is the draft of the tree with principals of that
kind** (`Compiler.draft_retag_paired`), and the same questions are put to the catalog.

**A statement is turned down for a principal exactly if it lists one of another kind and is accepted
when it is retagged** (`Compiler.build_principalNotSupported_iff`).  It is turned down for the first
such principal, and the retagged statement gives the same privileges on the same target to
principals of the same names.
-/

namespace AccessControl

/-! ### Retagging -/

/-- Where a statement lists its principals, and the kind that they have to be of. -/
def StatementKind.principalsAt? : StatementKind → Option (ℕ × PrincipalKind)
  | .grant | .revoke => some (1, .role)
  | .grantRole | .revokeRole => some (0, .group)
  | _ => none

namespace Node

/-- The list with a tag on all its children. -/
def retagAll (tag : Tag) (list : Node) : Node :=
  { list with children := list.children.map fun m => { m with tag } }

/-- The tree with a tag on all children of the list in a place. -/
def retag (place : ℕ) (tag : Tag) (n : Node) : Node :=
  { n with children := n.children.modify place (retagAll tag) }

variable {n : Node} {place i : ℕ} {tag : Tag}

theorem children_retag_self :
    (n.retag place tag).children[place]? = n.children[place]?.map (retagAll tag) :=
  List.getElem?_modify_eq ..

theorem children_retag_of_ne (h : place ≠ i) :
    (n.retag place tag).children[i]? = n.children[i]? :=
  List.getElem?_modify_ne _ _ h

theorem drop_children_retag (h : place < i) :
    (n.retag place tag).children.drop i = n.children.drop i :=
  List.drop_modify_of_lt _ _ _ _ h

end Node

/-- The principal as one of a kind. -/
def Principal.ofKind (kind : PrincipalKind) (p : Principal) : Principal :=
  { p with kind := some kind }

/-- Those to whom the operation gives, or from whom it takes. -/
def Operation.grantees : Operation → List Principal
  | .grant g => g.principals
  | .revoke r => r.principals
  | .grantRole m | .revokeRole m => m.principals
  | _ => []

/-- The operation with its principals as ones of a kind. -/
def Operation.ofKind (kind : PrincipalKind) : Operation → Operation
  | .grant g => .grant { g with principals := g.principals.map (.ofKind kind) }
  | .revoke r => .revoke { r with principals := r.principals.map (.ofKind kind) }
  | .grantRole m => .grantRole { m with principals := m.principals.map (.ofKind kind) }
  | .revokeRole m => .revokeRole { m with principals := m.principals.map (.ofKind kind) }
  | op => op

theorem Operation.grantees_ofKind (kind : PrincipalKind) (op : Operation) :
    (op.ofKind kind).grantees = op.grantees.map (.ofKind kind) := by
  cases op <;> rfl

/-! ### Drafts -/

variable {policy : Policy} {catalog : Option Catalog} {c : Compiler} {issue : Issue} {n : Node}
  {kind : StatementKind} {place : ℕ} {required : PrincipalKind} {tag : Tag}

/-- The grant of a statement, to principals of any kind. -/
def PrivilegeGrant.draft (policy : Policy) (catalog : Option Catalog) (issue : Issue) (n : Node) :
    Attempt Rejection PrivilegeGrant := do
  let lists ← n.lists policy
  let clauses ← Clause.listOfNode catalog .grant n
  match Clause.lastTarget? clauses with
  | none => Attempt.fail .missingObject
  | some target => pure {
      privileges := lists.1, principals := lists.2, target
      grantor := issue.grantor
      grantOption := clauses.contains .grantOption }

/-- The revocation of a statement, from principals of any kind. -/
def PrivilegeRevocation.draft (policy : Policy) (catalog : Option Catalog) (n : Node) :
    Attempt Rejection PrivilegeRevocation := do
  let lists ← n.lists policy
  let clauses ← Clause.listOfNode catalog .revoke n
  pure {
    privileges := lists.1, principals := lists.2, target := Clause.lastTarget? clauses }

/-- The membership of a statement, of principals of any kind. -/
def Membership.draft (issue : Issue) (n : Node) : Attempt Rejection Membership := do
  let principalList ← n.part 0
  let principals ← Principal.listOfNode principalList
  let roles ← rolesOfNode n
  pure { roles, principals, grantor := issue.grantor }

/-- The operation of a tree, whatever kinds its principals are of.  A tree that lists no principals
is read as it is. -/
def Compiler.draft (c : Compiler) (issue : Issue) (n : Node) :
    StatementKind → Attempt Rejection Operation
  | .grant => .grant <$> PrivilegeGrant.draft c.policy c.catalog issue n
  | .revoke => .revoke <$> PrivilegeRevocation.draft c.policy c.catalog n
  | .grantRole => .grantRole <$> Membership.draft issue n
  | .revokeRole => .revokeRole <$> Membership.draft issue n
  | kind => c.build issue n kind

/-- The operation stands if its principals are all of a kind. -/
def Operation.standing (required : PrincipalKind) (op : Operation) : Attempt Rejection Operation :=
  Attempt.ofExcept (Principal.requireKind required op.grantees) >>= fun _ => pure op

theorem PrivilegeGrant.ofNode_eq_draft_bind :
    PrivilegeGrant.ofNode policy catalog issue n =
      draft policy catalog issue n >>= fun g =>
        Attempt.ofExcept (Principal.requireKind .role g.principals) >>= fun _ => pure g := by
  simp only [ofNode_eq_lists_bind, draft, bind_assoc]
  refine bind_congr fun lists => bind_congr fun clauses => ?_
  rw [ofClauses]
  cases Clause.lastTarget? clauses with
  | none => rfl
  | some target => rfl

theorem PrivilegeRevocation.ofNode_eq_draft_bind :
    PrivilegeRevocation.ofNode policy catalog n =
      draft policy catalog n >>= fun r =>
        Attempt.ofExcept (Principal.requireKind .role r.principals) >>= fun _ => pure r := by
  simp only [ofNode_eq_lists_bind, draft, bind_assoc]
  rfl

theorem Membership.ofNode_eq_draft_bind :
    Membership.ofNode issue n =
      draft issue n >>= fun m =>
        Attempt.ofExcept (Principal.requireKind .group m.principals) >>= fun _ => pure m := by
  simp only [ofNode, draft, bind_assoc]
  rfl

/-- **The kinds of the principals are looked at when all else is read.** -/
theorem Compiler.build_eq_draft_bind (hkind : kind.principalsAt? = some (place, required)) :
    c.build issue n kind = c.draft issue n kind >>= Operation.standing required := by
  cases kind with
  | grant =>
      cases hkind
      simp only [build, draft, PrivilegeGrant.ofNode_eq_draft_bind, bind_map_left, map_bind,
        map_pure]
      rfl
  | revoke =>
      cases hkind
      simp only [build, draft, PrivilegeRevocation.ofNode_eq_draft_bind, bind_map_left, map_bind,
        map_pure]
      rfl
  | grantRole | revokeRole =>
      cases hkind
      simp only [build, draft, Membership.ofNode_eq_draft_bind, bind_map_left, map_bind, map_pure]
      rfl
  | _ => cases hkind

/-! ### Faults of other causes -/

/-- The rejection does not tell of the kind of a principal. -/
def Rejection.OtherCause (r : Rejection) : Prop :=
  r.category ≠ .principalNotSupported

/-- Neither rejection tells of the kind of a principal. -/
def Rejection.OtherCauses (r r' : Rejection) : Prop :=
  r.OtherCause ∧ r'.OtherCause

theorem Rejection.otherCauses_missingChild (tag tag' : Tag) (count count' : ℕ)
    (position : Int) :
    OtherCauses (.missingChild tag count position) (.missingChild tag' count' position) := by
  refine ⟨?_, ?_⟩
  · rintro ⟨⟩
  · rintro ⟨⟩

/-- What is broken or mistaken is so for another cause, unless a mistake is in the kinds. -/
theorem Needs.otherCause {α : Type} {Q : Prop} {M : Rejection → Prop} {x : Except Rejection α}
    (h : Needs Q M (fun _ => False) x) (hM : ∀ r, M r → r.OtherCause) :
    FailsOnly Rejection.OtherCause x := by
  cases h with
  | ok _ _ a => exact .ok a
  | broken _ _ hr => exact .error (by rw [Rejection.OtherCause, hr]; nofun)
  | mistaken hr => exact .error (hM _ hr)
  | late _ _ hr => exact hr.elim

theorem Node.RequestMistake.otherCause {r : Rejection} (h : n.RequestMistake policy r) :
    r.OtherCause := by
  rcases h with ⟨-, ⟨-⟩ | -⟩ | ⟨-, ⟨-, -⟩⟩ | ⟨-, -, ⟨-, -, -⟩⟩ <;> nofun

theorem Node.ClauseMistake.otherCause {r : Rejection} {p : Place} (h : n.ClauseMistake p r) :
    r.OtherCause := by
  cases h with
  | misplaced => nofun
  | object _ h => cases h <;> nofun

theorem PrivilegeRequest.listOfNode_otherCause :
    FailsOnly Rejection.OtherCause (listOfNode policy n) := by
  refine listOfNode_needs.otherCause fun r hr => ?_
  obtain ⟨_, -, hr⟩ := hr.exists_mem
  exact hr.otherCause

theorem Clause.listOfNode_otherCause {p : Place} (hp : p = .grant ∨ p = .revoke) :
    FailsOnly Rejection.OtherCause (listOfNode catalog p n).result := by
  refine (listOfNode_needs hp).otherCause fun r hr => ?_
  obtain ⟨_, -, hr⟩ := hr.exists_mem
  exact hr.otherCause

/-! ### The draft of a retagged tree -/

open Attempt (Paired)
open Rejection (OtherCauses)

/-- The same calls are made. -/
def SameCalls (j j' : List Entry) : Prop :=
  calls j' = calls j

theorem sameCalls_additive : Additive SameCalls :=
  additive_of_append rfl rfl calls_append calls_append

theorem Node.part_retag_of_ne {i : ℕ} (h : place ≠ i) :
    EndAlike OtherCauses Eq (n.part i) ((n.retag place tag).part i) := by
  rw [part, part, child?_ofNat, child?_ofNat, children_retag_of_ne h]
  cases n.children[i]? with
  | none => exact .error (Rejection.otherCauses_missingChild ..)
  | some child => exact .ok rfl

theorem Node.part_retag_self :
    EndAlike OtherCauses (fun list list' => list.retagAll tag = list') (n.part place)
      ((n.retag place tag).part place) := by
  rw [part, part, child?_ofNat, child?_ofNat, children_retag_self]
  cases n.children[place]? with
  | none => exact .error (Rejection.otherCauses_missingChild ..)
  | some list => exact .ok rfl

namespace Principal

/-- A node with another tag is read as the same principal, of another kind. -/
theorem ofNode_retag_paired (htag : tag.principalKind? = some required) (m : Node) :
    Paired SameCalls OtherCauses (fun p p' => p.ofKind required = p') (ofNode m)
      (ofNode { m with tag }) := by
  have hpart : EndAlike OtherCauses Eq (m.part 0) (Node.part { m with tag } 0) := by
    have hchild : ({ m with tag } : Node).child? 0 = m.child? 0 := rfl
    rw [Node.part, Node.part, hchild]
    cases m.child? 0 with
    | none => exact .error (Rejection.otherCauses_missingChild ..)
    | some child => exact .ok rfl
  have hname (named : Node) : EndAlike OtherCauses Eq named.name named.name :=
    .of_failsOnly (Node.name_needs.otherCause fun _ => False.elim)
  refine .ofExcept_bind_eq sameCalls_additive hpart fun named => ?_
  refine .ofExcept_bind_eq sameCalls_additive (hname named) fun name => ?_
  -- the remarks tell of different kinds, and neither is a call
  refine ⟨rfl, .ok ?_⟩
  rw [htag]
  rfl

theorem listOfNode_retagAll_paired (htag : tag.principalKind? = some required) (list : Node) :
    Paired SameCalls OtherCauses (fun ps ps' => ps.map (.ofKind required) = ps')
      (listOfNode list) (listOfNode (list.retagAll tag)) := by
  have hchildren : List.Forall₂ (fun m m' => { m with tag } = m') list.children
      (list.retagAll tag).children :=
    List.forall₂_map_right_iff.mpr (List.forall₂_same.mpr fun _ _ => rfl)
  refine (Paired.mapM sameCalls_additive hchildren ?_).imp (fun _ _ => id) (fun _ _ => id)
    fun _ _ h => eq_of_forall₂ (List.forall₂_map_left_iff.mpr h)
  rintro m _ rfl
  exact ofNode_retag_paired htag m

/-- The list of principals of a statement, read after it is retagged. -/
theorem listAt_retag_paired (htag : tag.principalKind? = some required) :
    Paired SameCalls OtherCauses (fun ps ps' => ps.map (.ofKind required) = ps')
      (Attempt.ofExcept (n.part place) >>= listOfNode)
      (Attempt.ofExcept ((n.retag place tag).part place) >>= listOfNode) := by
  refine .ofExcept_bind sameCalls_additive Node.part_retag_self ?_
  rintro list _ rfl
  exact listOfNode_retagAll_paired htag list

end Principal

theorem Node.lists_retag_paired (htag : tag.principalKind? = some .role) :
    Paired SameCalls OtherCauses (fun l l' => (l.1, l.2.map (.ofKind .role)) = l')
      (n.lists policy) ((n.retag 1 tag).lists policy) := by
  have hpart : EndAlike OtherCauses Eq (n.part 0) ((n.retag 1 tag).part 0) :=
    part_retag_of_ne (by decide : 1 ≠ 0)
  have hprivileges (list : Node) : EndAlike OtherCauses Eq
      (PrivilegeRequest.listOfNode policy list) (PrivilegeRequest.listOfNode policy list) :=
    .of_failsOnly PrivilegeRequest.listOfNode_otherCause
  rw [lists, lists]
  refine .ofExcept_bind_eq sameCalls_additive hpart fun list => ?_
  refine .ofExcept_bind_eq sameCalls_additive (hprivileges list) fun privileges => ?_
  rw [← bind_assoc, ← bind_assoc]
  refine (Principal.listAt_retag_paired htag).bind sameCalls_additive ?_
  rintro principals _ rfl
  exact .pure sameCalls_additive rfl

/-- The clauses stand behind the list that is retagged. -/
theorem Clause.listOfNode_retag_paired {p : Place} (hp : p = .grant ∨ p = .revoke)
    (hplace : place < 2) :
    Paired SameCalls OtherCauses Eq (listOfNode catalog p n)
      (listOfNode catalog p (n.retag place tag)) := by
  rw [listOfNode, listOfNode, Node.drop_children_retag hplace]
  exact ⟨rfl, .of_failsOnly (listOfNode_otherCause hp)⟩

theorem PrivilegeGrant.draft_retag_paired (htag : tag.principalKind? = some .role) :
    Paired SameCalls OtherCauses
      (fun g g' => { g with principals := g.principals.map (.ofKind .role) } = g')
      (draft policy catalog issue n) (draft policy catalog issue (n.retag 1 tag)) := by
  refine (Node.lists_retag_paired htag).bind sameCalls_additive ?_
  rintro lists _ rfl
  refine (Clause.listOfNode_retag_paired (.inl rfl) (by decide)).bind_eq sameCalls_additive
    fun clauses => ?_
  cases Clause.lastTarget? clauses with
  | none => exact .fail sameCalls_additive ⟨nofun, nofun⟩
  | some target => exact .pure sameCalls_additive rfl

theorem PrivilegeRevocation.draft_retag_paired (htag : tag.principalKind? = some .role) :
    Paired SameCalls OtherCauses
      (fun r r' => { r with principals := r.principals.map (.ofKind .role) } = r')
      (draft policy catalog n) (draft policy catalog (n.retag 1 tag)) := by
  refine (Node.lists_retag_paired htag).bind sameCalls_additive ?_
  rintro lists _ rfl
  refine (Clause.listOfNode_retag_paired (.inr rfl) (by decide)).bind_eq sameCalls_additive
    fun clauses => ?_
  exact .pure sameCalls_additive rfl

theorem Membership.draft_retag_paired (htag : tag.principalKind? = some .group) :
    Paired SameCalls OtherCauses
      (fun m m' => { m with principals := m.principals.map (.ofKind .group) } = m')
      (draft issue n) (draft issue (n.retag 0 tag)) := by
  have hroles : EndAlike OtherCauses Eq (rolesOfNode n) (rolesOfNode (n.retag 0 tag)) := by
    rw [rolesOfNode, rolesOfNode, Node.drop_children_retag (by decide)]
    exact .of_failsOnly ((Needs.mapM_clean fun _ _ => Node.name_needs).otherCause
      fun _ => False.elim)
  rw [draft, draft, ← bind_assoc, ← bind_assoc]
  refine (Principal.listAt_retag_paired htag).bind sameCalls_additive ?_
  rintro principals _ rfl
  refine .ofExcept_bind_eq sameCalls_additive hroles fun roles => ?_
  exact .pure sameCalls_additive rfl

/-- **The draft of the retagged tree is the draft of the tree with principals of that kind.** -/
theorem Compiler.draft_retag_paired (c : Compiler) (issue : Issue) (n : Node)
    (hkind : kind.principalsAt? = some (place, required))
    (htag : tag.principalKind? = some required) :
    Paired SameCalls OtherCauses (fun op op' => op.ofKind required = op')
      (c.draft issue n kind) (c.draft issue (n.retag place tag) kind) := by
  cases kind with
  | grant =>
      cases hkind
      exact (PrivilegeGrant.draft_retag_paired htag).map fun _ _ => congrArg Operation.grant
  | revoke =>
      cases hkind
      exact (PrivilegeRevocation.draft_retag_paired htag).map fun _ _ => congrArg Operation.revoke
  | grantRole =>
      cases hkind
      exact (Membership.draft_retag_paired htag).map fun _ _ => congrArg Operation.grantRole
  | revokeRole =>
      cases hkind
      exact (Membership.draft_retag_paired htag).map fun _ _ => congrArg Operation.revokeRole
  | _ => cases hkind

/-! ### The verdict -/

namespace Operation

@[simp] theorem requests_ofKind (op : Operation) : (op.ofKind required).requests = op.requests := by
  cases op <;> rfl

@[simp] theorem target?_ofKind (op : Operation) : (op.ofKind required).target? = op.target? := by
  cases op <;> rfl

/-- The operation stands, or it is turned down for the first principal of another kind in the list
that it was read from. -/
theorem standing_result {list : Node} {op : Operation}
    (h : (Principal.listOfNode list).result = .ok op.grantees) :
    (op.standing required).result =
      match list.children.find? fun m => m.tag.principalKind? ≠ some required with
      | some m => .error (.principalNotSupported m.tag.principalKind? required)
      | none => .ok op := by
  have hkinds (m : Node) (p : Principal) (hp : (Principal.ofNode m).result = .ok p) :
      p.kind = m.tag.principalKind? := (Principal.ofNode_result_ok_iff.mp hp).2
  have hfind := forall₂_find? (p := fun m => decide (m.tag.principalKind? ≠ some required))
    (q := fun p => decide (p.kind ≠ some required)) (Principal.listOfNode_result_ok_iff.mp h)
    fun m p hp => by rw [hkinds m p hp]
  rw [standing, Attempt.result_bind, Attempt.result_ofExcept, Principal.requireKind]
  generalize list.children.find? _ = m?, op.grantees.find? _ = p? at hfind ⊢
  cases hfind with
  | none => rfl
  | @some m p hp =>
      dsimp only
      rw [hkinds m p hp]
      rfl

/-- An operation whose principals are of the kind stands. -/
theorem standing_ofKind_result (op : Operation) :
    ((op.ofKind required).standing required).result = .ok (op.ofKind required) := by
  have hkinds : ∀ p ∈ (op.ofKind required).grantees, p.kind = some required := by
    rw [grantees_ofKind]
    exact List.forall_mem_map.mpr fun _ _ => rfl
  rw [standing, Attempt.result_bind, Attempt.result_ofExcept,
    Principal.requireKind_ok_iff.mpr hkinds]
  rfl

end Operation

/-- A draft names the principals of its list. -/
theorem Compiler.grantees_of_draft (hkind : kind.principalsAt? = some (place, required))
    {op : Operation} (h : (c.draft issue n kind).result = .ok op) :
    ∃ list, n.children[place]? = some list ∧
      (Principal.listOfNode list).result = .ok op.grantees := by
  cases kind with
  | grant =>
      cases hkind
      obtain ⟨g, hg, rfl⟩ := Attempt.map_result_ok_iff.mp h
      obtain ⟨lists, hlists, hg⟩ := Attempt.bind_result_ok_iff.mp hg
      obtain ⟨clauses, -, hg⟩ := Attempt.bind_result_ok_iff.mp hg
      split at hg <;> cases hg
      exact (Node.lists_result_ok_iff.mp hlists).2
  | revoke =>
      cases hkind
      obtain ⟨r, hr, rfl⟩ := Attempt.map_result_ok_iff.mp h
      obtain ⟨lists, hlists, hr⟩ := Attempt.bind_result_ok_iff.mp hr
      obtain ⟨clauses, -, ⟨⟩⟩ := Attempt.bind_result_ok_iff.mp hr
      exact (Node.lists_result_ok_iff.mp hlists).2
  | grantRole | revokeRole =>
      cases hkind
      obtain ⟨m, hm, rfl⟩ := Attempt.map_result_ok_iff.mp h
      obtain ⟨list, hlist, hm⟩ := Attempt.bind_result_ok_iff.mp hm
      obtain ⟨principals, hprincipals, hm⟩ := Attempt.bind_result_ok_iff.mp hm
      obtain ⟨roles, -, ⟨⟩⟩ := Attempt.bind_result_ok_iff.mp hm
      exact ⟨list, Node.part_ok_nat_iff.mp hlist, hprincipals⟩
  | _ => cases hkind

/-- Privileges and objects stand in other places than the list that is retagged. -/
theorem Node.parts_retag (hkind : kind.principalsAt? = some (place, required)) :
    (n.retag place tag).requestNodes kind = n.requestNodes kind ∧
      (n.retag place tag).objectNode? kind = n.objectNode? kind := by
  have hobjects : (n.retag 1 tag).objects = n.objects := by
    rw [objects, clauses, drop_children_retag (by decide)]
    rfl
  cases kind with
  | grant | revoke =>
      cases hkind
      refine ⟨?_, congrArg List.getLast? hobjects⟩
      rw [requestNodes, requestNodes, children_retag_of_ne (by decide)]
  | grantRole | revokeRole => exact ⟨rfl, rfl⟩
  | _ => cases hkind

namespace Compiler

/-- **A statement and the retagged one** are turned down for other causes, or else the retagged one
is accepted as what is drafted, and the statement fares as its list of principals does. -/
theorem build_retag (c : Compiler) (issue : Issue) (n : Node)
    (hkind : kind.principalsAt? = some (place, required))
    (htag : tag.principalKind? = some required) :
    (∃ r r', (c.build issue n kind).result = .error r ∧
      (c.build issue (n.retag place tag) kind).result = .error r' ∧ OtherCauses r r') ∨
    ∃ list op, n.children[place]? = some list ∧
      (Principal.listOfNode list).result = .ok op.grantees ∧
      (c.build issue (n.retag place tag) kind).result = .ok (op.ofKind required) ∧
      (c.build issue n kind).result =
        match list.children.find? fun m => m.tag.principalKind? ≠ some required with
        | some m => .error (.principalNotSupported m.tag.principalKind? required)
        | none => .ok op := by
  have hbuild (m : Node) : (c.build issue m kind).result =
      (c.draft issue m kind).result >>= fun op => (op.standing required).result := by
    rw [build_eq_draft_bind hkind, Attempt.result_bind]
  have hpaired := (c.draft_retag_paired issue n hkind htag).result
  rw [hbuild, hbuild]
  cases hdraft : (c.draft issue n kind).result with
  | error r =>
      rw [hdraft] at hpaired
      generalize (c.draft issue (n.retag place tag) kind).result = y at hpaired ⊢
      cases hpaired with
      | error hcauses => exact .inl ⟨r, _, rfl, rfl, hcauses⟩
  | ok op =>
      obtain ⟨list, hlist, hgrantees⟩ := grantees_of_draft hkind hdraft
      rw [hdraft] at hpaired
      generalize (c.draft issue (n.retag place tag) kind).result = y at hpaired ⊢
      cases hpaired with
      | ok hop =>
          subst hop
          exact .inr ⟨list, op, hlist, hgrantees, op.standing_ofKind_result,
            Operation.standing_result hgrantees⟩

theorem exists_otherKind_iff {list : Node} :
    (∃ m ∈ list.children, m.tag.principalKind? ≠ some required) ↔
      ∃ m, (list.children.find? fun m => m.tag.principalKind? ≠ some required) = some m := by
  rw [← Option.isSome_iff_exists, List.find?_isSome]
  simp only [decide_eq_true_eq]

/-- It takes a principal of another kind to be turned down for one, and nothing else. -/
theorem exists_principalNotSupported_iff (c : Compiler) (issue : Issue) (n : Node)
    (hkind : kind.principalsAt? = some (place, required))
    (htag : tag.principalKind? = some required) :
    (∃ r, (c.build issue n kind).result = .error r ∧ r.category = .principalNotSupported) ↔
      (∃ list ∈ n.children[place]?, ∃ m ∈ list.children, m.tag.principalKind? ≠ some required) ∧
        ∃ op, (c.build issue (n.retag place tag) kind).result = .ok op := by
  rcases c.build_retag issue n hkind htag with ⟨r, r', hr, hr', hcauses⟩ |
    ⟨list, op, hlist, -, hretag, hresult⟩
  · refine iff_of_false ?_ ?_
    · rintro ⟨e, he, hcategory⟩
      cases hr.symm.trans he
      exact hcauses.1 hcategory
    · rintro ⟨-, op, hop⟩
      cases hr'.symm.trans hop
  · rw [hresult]
    refine ⟨?_, ?_⟩
    · rintro ⟨r, hr, -⟩
      refine ⟨⟨list, hlist, exists_otherKind_iff.mpr ?_⟩, _, hretag⟩
      split at hr
      · exact ⟨_, ‹_›⟩
      · cases hr
    · rintro ⟨⟨_, hlist', hother⟩, -⟩
      cases hlist.symm.trans hlist'
      obtain ⟨m, hfind⟩ := exists_otherKind_iff.mp hother
      rw [hfind]
      exact ⟨_, rfl, rfl⟩

/-- **A statement is turned down for a principal exactly if it lists one of another kind and is
accepted when it is retagged.**  It is turned down for the first such principal.  What it asks for
beside the kinds of its principals can be read, and the retagged statement comes to just that: the
same privileges on the same target for principals of the same names.  The same calls are made. -/
theorem build_principalNotSupported_iff (c : Compiler) (issue : Issue) (n : Node)
    (hkind : kind.principalsAt? = some (place, required))
    (htag : tag.principalKind? = some required) :
    ((∃ r, (c.build issue n kind).result = .error r ∧ r.category = .principalNotSupported) ↔
      (∃ list ∈ n.children[place]?, ∃ m ∈ list.children, m.tag.principalKind? ≠ some required) ∧
        ∃ op, (c.build issue (n.retag place tag) kind).result = .ok op) ∧
    (∀ r, (c.build issue n kind).result = .error r → r.category = .principalNotSupported →
      ∃ (list m : Node) (op : Operation), n.children[place]? = some list ∧
        (list.children.find? fun m => m.tag.principalKind? ≠ some required) = some m ∧
        r.principalKind = m.tag.principalKind? ∧
        r.message = "Grant/revoke is not supported for principal type " ++
          (m.tag.principalKind?.map Coded.label).getD "UNKNOWN" ++ ", only " ++
            Coded.label required ∧
        (Principal.listOfNode list).result = .ok op.grantees ∧
        List.Forall₂ (fun m r => PrivilegeRequest.ofNode c.policy m = .ok r)
          (n.requestNodes kind) op.requests ∧
        Option.Rel (fun object t => (Target.ofNode c.catalog object).result = .ok t)
          (n.objectNode? kind) op.target? ∧
        (c.build issue (n.retag place tag) kind).result = .ok (op.ofKind required)) ∧
    calls (c.build issue (n.retag place tag) kind).journal =
      calls (c.build issue n kind).journal := by
  have hsilent (m : Node) : (c.build issue m kind).journal = (c.draft issue m kind).journal := by
    rw [build_eq_draft_bind hkind]
    exact Attempt.journal_bind_silent _ fun op => Attempt.journal_bind_silent _ fun _ => rfl
  refine ⟨c.exists_principalNotSupported_iff issue n hkind htag, fun r hr hcategory => ?_, ?_⟩
  · rcases c.build_retag issue n hkind htag with ⟨r', _, hr', -, hcauses⟩ |
      ⟨list, op, hlist, hgrantees, hretag, hresult⟩
    · cases hr'.symm.trans hr
      exact absurd hcategory hcauses.1
    · obtain ⟨hrequests, htarget⟩ := parts_of_build hretag
      rw [(Node.parts_retag hkind).1, Operation.requests_ofKind] at hrequests
      rw [(Node.parts_retag hkind).2, Operation.target?_ofKind] at htarget
      rw [hresult] at hr
      split at hr
      · rename_i m hfind
        cases hr
        exact ⟨list, m, op, hlist, hfind, rfl, rfl, hgrantees, hrequests, htarget, hretag⟩
      · cases hr
  · rw [hsilent, hsilent]
    exact (c.draft_retag_paired issue n hkind htag).journal

/-- A grant on the table `t` to a role, to a node whose mark stands for nothing and to a user. -/
def grantToMany : Node :=
  { grantOnTable with
    children := grantOnTable.children.modify 1 fun list =>
      { list with
        children := list.children ++
          [{ tag := .number 23, children := [.identifier "x"] },
           { tag := .word (.principal .user), children := [.identifier "u"] }] } }

/-- The grant is turned down for the mark that stands for nothing, and all is well when the numbers
of roles stand in its place and in that of the user. -/
theorem build_principalNotSupported_iff_grantToMany :
    (build ⟨{}, some ownedTable⟩ {} grantToMany .grant).result =
        .error (.principalNotSupported none .role) ∧
      (Rejection.principalNotSupported none .role).message =
        "Grant/revoke is not supported for principal type UNKNOWN, only ROLE" ∧
      ∃ op, (build ⟨{}, some ownedTable⟩ {} (grantToMany.retag 1 (.number 782)) .grant).result =
        .ok op := by
  have hrefused : (build ⟨{}, some ownedTable⟩ {} grantToMany .grant).result =
      .error (.principalNotSupported none .role) := rfl
  obtain ⟨hiff, hfirst, -⟩ := build_principalNotSupported_iff ⟨{}, some ownedTable⟩ {} grantToMany
    (rfl : StatementKind.grant.principalsAt? = _) (rfl : (Tag.number 782).principalKind? = _)
  obtain ⟨list, m, op, hlist, hm, -, hmessage, -⟩ := hfirst _ hrefused rfl
  cases hlist
  cases hm
  exact ⟨hrefused, hmessage, (hiff.mp ⟨_, hrefused, rfl⟩).2⟩

end Compiler

end AccessControl
