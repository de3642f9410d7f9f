import AccessControl.Compiler.Basic
import AccessControl.Proofs.Grants.Grammar
import AccessControl.Proofs.Reading.Alike

/-!
# Grants — what can be granted can be revoked and shown

A grant has its revocation: the same tree without the permissions to grant further
(`Node.withoutGrantOption`).  It also has a question for each of its principals, on its last object
(`Node.questionOn`).

**A grant and its revocation are read alike, and what is granted can be asked about**
(`PrivilegeGrant.ofNode_counterparts`).  The two readers take the same two lists, and then go
through the clauses side by side (`Clause.mapM_alike`): a permission is passed over in the
revocation, an object is read in both, and any other clause ends both.
-/

namespace AccessControl

/-! ### The counterparts of a grant -/

/-- The tree without the permissions to grant further among its clauses. -/
def Node.withoutGrantOption (n : Node) : Node :=
  { n with
    children := n.children.take 2 ++ n.clauses.filter fun m => m.tag ≠ .word .grantOption }

/-- The question for the grants of a principal on an object. -/
def Node.questionOn (principal object : Node) : Node where
  tag := .word (.statement .showGrant)
  children := [principal, { object with tag := .word .shownObject }]

/-- The revocation takes what the grant gives. -/
structure PrivilegeGrant.Counterpart (g : PrivilegeGrant) (r : PrivilegeRevocation) : Prop where
  privileges : r.privileges = g.privileges
  principals : r.principals = g.principals
  target : r.target = some g.target

/-- The rejections tell of the same fault: only a node that is out of place in a grant is out of
place in a revocation instead. -/
structure Rejection.Counterpart (r r' : Rejection) : Prop where
  category : r'.category = r.category
  principalKind : r'.principalKind = r.principalKind
  message : r'.message = r.message ∨ ∃ tag : Tag,
    r.message = "Unrecognized fragment in GRANT: " ++ tag.text ∧
      r'.message = "Unrecognized fragment in REVOKE: " ++ tag.text

theorem Rejection.Counterpart.refl (r : Rejection) : r.Counterpart r :=
  ⟨rfl, rfl, .inl rfl⟩

theorem Rejection.counterpart_unexpectedNode (tag : Tag) :
    Counterpart (.unexpectedNode .grant tag) (.unexpectedNode .revoke tag) :=
  ⟨rfl, rfl, .inr ⟨tag, rfl, rfl⟩⟩

open Attempt (Alike)

variable {policy : Policy} {catalog : Option Catalog} {issue : Issue} {n : Node}

/-! ### Clauses -/

namespace Clause

/-- A clause that is no permission is read alike in a grant and in a revocation. -/
theorem ofNode_alike (catalog : Option Catalog) {m : Node} (hm : m.tag ≠ .word .grantOption) :
    Alike Rejection.Counterpart Eq (ofNode catalog .grant m) (ofNode catalog .revoke m) := by
  have hoption : ∀ place : Place, ¬ (m.tag = .word .grantOption ∧ place = .grant) :=
    fun _ h => hm h.1
  rw [ofNode, ofNode, if_neg (hoption .grant), if_neg (hoption .revoke)]
  split
  · exact .refl Rejection.Counterpart.refl (fun _ => rfl) _
  · exact .error (Rejection.counterpart_unexpectedNode m.tag)

/-- The clauses of a grant and those of its revocation have the same targets. -/
theorem mapM_alike (catalog : Option Catalog) (ms : List Node) :
    Alike Rejection.Counterpart
      (fun clauses clauses' => clauses'.filterMap target? = clauses.filterMap target?)
      (ms.mapM (ofNode catalog .grant))
      ((ms.filter fun m => m.tag ≠ .word .grantOption).mapM (ofNode catalog .revoke)) := by
  induction ms with
  | nil => exact .ok rfl
  | cons m ms ih =>
      rw [List.mapM_cons]
      by_cases hm : m.tag = .word .grantOption
      · rw [List.filter_cons_of_neg (by simpa using hm), ofNode, if_pos ⟨hm, rfl⟩, pure_bind,
          ← bind_pure ((ms.filter _).mapM _)]
        exact ih.bind fun clauses clauses' _ h => .ok h
      · rw [List.filter_cons_of_pos (by simpa using hm), List.mapM_cons]
        refine (ofNode_alike catalog hm).bind fun clause _ _ hclause => ?_
        subst hclause
        refine ih.bind fun clauses clauses' _ h => .ok ?_
        rw [List.filterMap_cons, List.filterMap_cons, h]

/-- A row of clauses with an object among them has a target. -/
theorem exists_lastTarget? {clauses : List Clause}
    (h : (listOfNode catalog .grant n).result = .ok clauses)
    (hobject : ∃ m ∈ n.clauses, m.tag = .word .object) :
    ∃ target, lastTarget? clauses = some target := by
  obtain ⟨m, hm⟩ := hobject
  have htargets : clauses.filterMap target? ≠ [] := fun hnil => by
    have hobjects := forall₂_objects h
    rw [hnil, List.forall₂_nil_right_iff] at hobjects
    exact List.ne_nil_of_mem (Node.mem_objects_iff.mpr hm) hobjects
  exact ⟨_, List.getLast?_eq_some_getLast htargets⟩

end Clause

/-! ### Revocations -/

/-- A statement with a clause has two lists before it. -/
theorem Node.exists_lists {m : Node} (hm : m ∈ n.clauses) :
    ∃ a b, n.children = a :: b :: n.clauses := by
  rw [clauses] at hm ⊢
  cases h : n.children with
  | nil => simp [h] at hm
  | cons a ms =>
      cases ms with
      | nil => simp [h] at hm
      | cons b ms => exact ⟨a, b, rfl⟩

theorem Node.parts_of_children {a b : Node} {ms : List Node} (h : n.children = a :: b :: ms) :
    n.part 0 = .ok a ∧ n.part 1 = .ok b :=
  ⟨part_ok_nat_iff.mpr (by rw [h]; rfl), part_ok_nat_iff.mpr (by rw [h]; rfl)⟩

/-- A grant with an object and its revocation are read alike. -/
theorem PrivilegeGrant.ofNode_alike (hobject : ∃ m ∈ n.clauses, m.tag = .word .object) :
    Alike Rejection.Counterpart Counterpart (ofNode policy catalog issue n)
      (PrivilegeRevocation.ofNode policy catalog n.withoutGrantOption) := by
  obtain ⟨a, b, hchildren⟩ : ∃ a b, n.children = a :: b :: n.clauses :=
    hobject.elim fun m hm => Node.exists_lists hm.1
  have hchildren' : n.withoutGrantOption.children =
      a :: b :: n.clauses.filter fun m => m.tag ≠ .word .grantOption := by
    rw [Node.withoutGrantOption, hchildren]
    rfl
  obtain ⟨h0, h1⟩ := Node.parts_of_children hchildren
  obtain ⟨h0', h1'⟩ := Node.parts_of_children hchildren'
  have hclauses : Clause.listOfNode catalog .revoke n.withoutGrantOption =
      (n.clauses.filter fun m => m.tag ≠ .word .grantOption).mapM
        (Clause.ofNode catalog .revoke) := by
    rw [Clause.listOfNode, hchildren']
    rfl
  rw [ofNode, PrivilegeRevocation.ofNode, h0, h1, h0', h1', hclauses]
  refine .bind_left .refl _ fun privilegeList _ => .bind_left .refl _ fun privileges _ =>
    .bind_left .refl _ fun principalList _ => .bind_left .refl _ fun principals _ => ?_
  refine (Clause.mapM_alike catalog n.clauses).bind fun clauses clauses' hc htargets => ?_
  -- the grant has an object, so it is not turned down before the principals are looked at
  obtain ⟨target, ht⟩ := Clause.exists_lastTarget? hc hobject
  have ht' : Clause.lastTarget? clauses' = some target := by
    rw [Clause.lastTarget?, htargets]
    exact ht
  rw [ht, ht']
  exact .bind_left .refl _ fun _ _ => .ok ⟨rfl, rfl, rfl⟩

/-! ### Questions -/

/-- An object of a grant, asked about, has the same target. -/
theorem Target.ofNode_result_shownObject {object : Node} {t : Target}
    (htag : object.tag = .word .object) (h : (ofNode catalog object).result = .ok t) :
    (ofNode catalog { object with tag := .word .shownObject }).result = .ok t := by
  obtain ⟨hpartition, htarget, howner⟩ := ofNode_result_ok_iff.mp h
  refine ofNode_result_ok_iff.mpr ⟨?_, htarget, howner⟩
  obtain ⟨tag, text, children⟩ := object
  cases htag
  rwa [Node.hasPartition_mk] at hpartition ⊢

/-- A role can be asked about on every object that can be read. -/
theorem Compiler.compile_questionOn {c : Compiler} {principal object : Node} {p : Principal}
    {t : Target} (hp : (Principal.ofNode principal).result = .ok p) (hk : p.kind = some .role)
    (htag : object.tag = .word .object) (ht : (Target.ofNode c.catalog object).result = .ok t) :
    (c.compile issue (principal.questionOn object)).result =
      .ok (.showGrant issue.resultFile p (some t)) := by
  refine compile_result_ok_iff.mpr ⟨.showGrant, rfl, ?_⟩
  refine Operation.showGrantOfNode_result_ok_iff.mpr ⟨p, some t, ?_, ?_, rfl⟩
  · exact Principal.soleOfNode_result_ok_iff.mpr ⟨⟨principal, rfl, hp⟩, hk⟩
  · exact Target.shownOfNode_result_ok_iff.mpr
      (.inr ⟨_, t, rfl, rfl, Target.ofNode_result_shownObject htag ht, rfl⟩)

/-- **What can be granted can be revoked and shown.**  A grant with an object and its revocation
are both read, with the same privileges, principals and target, or both turned down for the same
fault, and in both cases what is noted and asked on the way is the same.  And of each principal of
a grant that is read it can be asked, with any policy, what it was granted on the last object; the
same catalog gives the same target. -/
theorem PrivilegeGrant.ofNode_counterparts (policy : Policy) (catalog : Option Catalog)
    (issue : Issue) (n : Node) :
    ((∃ m ∈ n.clauses, m.tag = .word .object) →
      Alike Rejection.Counterpart Counterpart (ofNode policy catalog issue n)
        (PrivilegeRevocation.ofNode policy catalog n.withoutGrantOption)) ∧
    ∀ g, (ofNode policy catalog issue n).result = .ok g →
      ∃ list object, n.children[1]? = some list ∧ n.objects.getLast? = some object ∧
        List.Forall₂ (fun principal p => ∀ (policy' : Policy) (issue' : Issue),
          (Compiler.compile ⟨policy', catalog⟩ issue' (principal.questionOn object)).result =
            .ok (.showGrant issue'.resultFile p (some g.target))) list.children g.principals := by
  refine ⟨ofNode_alike, fun g hg => ?_⟩
  obtain ⟨-, ⟨list, hlist, hread⟩, ⟨clauses, hc, ht, -⟩, hroles, -⟩ := ofNode_result_ok_iff.mp hg
  obtain ⟨object, hobject, htarget⟩ := (Clause.lastTarget?_eq_some_iff hc).mp ht
  have htag := (Node.mem_objects_iff.mp (List.mem_of_getLast? hobject)).2
  have hprincipals := forall₂_and_right.mp ⟨Principal.listOfNode_result_ok_iff.mp hread, hroles⟩
  refine ⟨list, object, hlist, hobject, hprincipals.imp fun principal p hp policy' issue' => ?_⟩
  exact Compiler.compile_questionOn hp.1 hp.2 htag htarget

/-- A grant on a server and, in its place, on a table, to two roles of which one is marked by its
number.  They may grant it further. -/
def Node.grantOnTwo : Node where
  tag := .word (.statement .grant)
  children :=
    [{ tag := .word .privilegeList
       children := [{ tag := .word .privilegeItem
                      children := [{ tag := .word (.privilege .select) }] }] },
     { tag := .word .principalList
       children := [{ tag := .word (.principal .role), children := [.identifier "r"] },
         { tag := .number 782, children := [.identifier "s"] }] },
     { tag := .word .object
       children := [{ tag := .word (.target .server), children := [.identifier "v"] }] },
     { tag := .word .grantOption },
     { tag := .word .object
       children := [{ tag := .word (.target .table), children := [.identifier "d.t"] }] }]

/-- The same grant, as it is read. -/
def PrivilegeGrant.onTwo : PrivilegeGrant :=
  ⟨[⟨.select, []⟩], [⟨"r", some .role⟩, ⟨"s", some .role⟩], ⟨"t", .table, none, [], none⟩, none,
    .user, true⟩

theorem PrivilegeGrant.ofNode_counterparts_grantOnTwo :
    (∃ m ∈ Node.grantOnTwo.clauses, m.tag = .word .object) ∧
      (ofNode {} none {} .grantOnTwo).result = .ok onTwo ∧
      Alike Rejection.Counterpart Counterpart (ofNode {} none {} .grantOnTwo)
        (PrivilegeRevocation.ofNode {} none Node.grantOnTwo.withoutGrantOption) ∧
      ∃ list object, Node.grantOnTwo.children[1]? = some list ∧
        Node.grantOnTwo.objects.getLast? = some object ∧
        List.Forall₂ (fun principal p => ∀ (policy' : Policy) (issue' : Issue),
          (Compiler.compile ⟨policy', none⟩ issue' (principal.questionOn object)).result =
            .ok (.showGrant issue'.resultFile p (some onTwo.target))) list.children
          onTwo.principals := by
  obtain ⟨halike, hshown⟩ := ofNode_counterparts {} none {} .grantOnTwo
  have hobject : ∃ m ∈ Node.grantOnTwo.clauses, m.tag = .word .object := by decide
  exact ⟨hobject, rfl, halike hobject, hshown onTwo rfl⟩

end AccessControl
