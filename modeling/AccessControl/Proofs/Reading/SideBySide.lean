import AccessControl.Proofs.Execution.Statements
import AccessControl.Proofs.Reading.PartsSideBySide
import AccessControl.Request

/-!
# Reading — two compilations side by side

A tree is compiled with a catalog, and a tree that is alike with another catalog, paired with the
first one.

**The two compilations are paired** (`Compiler.build_paired`): both end with an operation, and the
operations differ in the owner of the target only, or both are turned down for the same cause.  The
same is so of everything else that a compiler can be asked (`Compiler.answer_paired`).
-/

namespace AccessControl

open Attempt (Paired)
open Rejection (Retold)

variable {l : Likeness} {k : Catalog.Pairing} {policy : Policy} {n n' : Node}

/-! ### Statements -/

theorem Policy.roleOfNode_endAlike (h : n.Like l n') :
    EndAlike (Retold l.tag) Eq (policy.roleOfNode n) (policy.roleOfNode n') := by
  refine (Node.part_endAlike h 0).bind fun named named' hn => ?_
  refine (Node.name_endAlike hn).bind_eq fun role => ?_
  exact .refl Retold.same (fun _ => rfl) _

theorem Operation.showRolePrincipalsOfNode_endAlike {issue : Issue} (h : n.Like l n') :
    EndAlike (Retold l.tag) Eq (showRolePrincipalsOfNode issue n)
      (showRolePrincipalsOfNode issue n') := by
  have hchildren := h.children
  unfold showRolePrincipalsOfNode
  generalize n.children = ms, n'.children = ms' at hchildren
  -- only a row of one child is read
  match ms, ms', hchildren with
  | [_], [_], .cons hm .nil => exact (Node.name_endAlike hm).map fun _ _ => congrArg _
  | [], [], .nil => exact .error (.notOneRole .nil)
  | _ :: _ :: _, _ :: _ :: _, hms =>
      refine .error (.notOneRole ?_)
      rw [List.forall₂_map_left_iff, List.forall₂_map_right_iff]
      exact hms.imp fun _ _ => Node.Like.tag

theorem Membership.ofNode_paired {issue : Issue} (h : n.Like l n') :
    Paired k.journal (Retold l.tag) Eq (ofNode issue n) (ofNode issue n') := by
  refine .ofExcept_bind k.additive (Node.part_endAlike h 0) fun list list' hlist => ?_
  refine .bind_eq k.additive (Principal.listOfNode_paired hlist) fun principals => ?_
  have hroles := EndAlike.mapM_eq (h.drop 1) fun _ _ => Node.name_endAlike
  refine .ofExcept_bind_eq k.additive hroles fun roles => ?_
  refine .ofExcept_bind_eq k.additive (Principal.requireKind_endAlike .group _) fun _ => ?_
  exact .pure k.additive rfl

theorem PrivilegeRevocation.ofNode_paired (h : n.Like l n') :
    Paired k.journal (Retold l.tag)
      (fun r r' => Operation.UpToOwner k.owner (.revoke r) (.revoke r'))
      (ofNode policy k.left n) (ofNode policy k.right n') := by
  refine .ofExcept_bind k.additive (Node.part_endAlike h 0) fun list list' hlist => ?_
  refine .ofExcept_bind_eq k.additive (PrivilegeRequest.listOfNode_endAlike hlist)
    fun privileges => ?_
  refine .ofExcept_bind k.additive (Node.part_endAlike h 1) fun list list' hlist => ?_
  refine .bind_eq k.additive (Principal.listOfNode_paired hlist) fun principals => ?_
  refine .bind k.additive (Clause.listOfNode_paired .revoke h) fun clauses clauses' hc => ?_
  refine .ofExcept_bind_eq k.additive (Principal.requireKind_endAlike .role _) fun _ => ?_
  refine .pure k.additive ?_
  have htarget := Clause.lastTarget?_rel hc
  generalize Clause.lastTarget? clauses = t?, Clause.lastTarget? clauses' = t?' at htarget
  cases htarget with
  | none => exact .same _
  | some ht => exact .revoke ⟨privileges, principals, none⟩ ht

theorem PrivilegeGrant.ofNode_paired {issue : Issue} (h : n.Like l n') :
    Paired k.journal (Retold l.tag)
      (fun g g' => Operation.UpToOwner k.owner (.grant g) (.grant g'))
      (ofNode policy k.left issue n) (ofNode policy k.right issue n') := by
  refine .ofExcept_bind k.additive (Node.part_endAlike h 0) fun list list' hlist => ?_
  refine .ofExcept_bind_eq k.additive (PrivilegeRequest.listOfNode_endAlike hlist)
    fun privileges => ?_
  refine .ofExcept_bind k.additive (Node.part_endAlike h 1) fun list list' hlist => ?_
  refine .bind_eq k.additive (Principal.listOfNode_paired hlist) fun principals => ?_
  refine .bind k.additive (Clause.listOfNode_paired .grant h) fun clauses clauses' hc => ?_
  rw [Clause.contains_grantOption_eq hc]
  have htarget := Clause.lastTarget?_rel hc
  generalize Clause.lastTarget? clauses = t?, Clause.lastTarget? clauses' = t?' at htarget
  cases htarget with
  | none => exact .fail k.additive (.same .missingObject)
  | @some target _ ht =>
      refine .ofExcept_bind_eq k.additive (Principal.requireKind_endAlike .role _) fun _ => ?_
      exact .pure k.additive (.grant ⟨privileges, principals, target, issue.grantor, .user, _⟩ ht)

theorem Operation.showGrantOfNode_paired {issue : Issue} (h : n.Like l n') :
    Paired k.journal (Retold l.tag) (UpToOwner k.owner) (showGrantOfNode k.left issue n)
      (showGrantOfNode k.right issue n') := by
  refine .bind_eq k.additive (Principal.soleOfNode_paired h) fun principal => ?_
  refine .bind k.additive (Target.shownOfNode_paired h) fun t? t?' ht => .pure k.additive ?_
  cases ht with
  | none => exact .same _
  | some ht => exact .showGrant issue.resultFile principal ht

namespace Compiler

/-- **A tree that is read as a statement of some kind and a tree that is alike are read side by
side.** -/
theorem build_paired {issue : Issue} (h : n.Like l n') (kind : StatementKind) :
    Paired k.journal (Retold l.tag) (Operation.UpToOwner k.owner)
      (build ⟨policy, k.left⟩ issue n kind) (build ⟨policy, k.right⟩ issue n' kind) := by
  have same {α : Type} (f : α → Operation) (a a' : α) (ha : a = a') :
      Operation.UpToOwner k.owner (f a) (f a') := ha ▸ .same (f a)
  cases kind with
  | createRole | dropRole =>
      exact (Paired.ofExcept k.additive (Policy.roleOfNode_endAlike h)).map (same _)
  | grant => exact (PrivilegeGrant.ofNode_paired h).map fun _ _ => id
  | revoke => exact (PrivilegeRevocation.ofNode_paired h).map fun _ _ => id
  | grantRole | revokeRole => exact (Membership.ofNode_paired h).map (same _)
  | setRole =>
      refine (Paired.ofExcept k.additive ?_).map (same _)
      exact (Node.part_endAlike h 0).bind fun _ _ => Node.name_endAlike
  | showGrant => exact Operation.showGrantOfNode_paired h
  | showRoleGrant =>
      refine .bind_eq k.additive (Principal.soleOfNode_paired h) fun principal => ?_
      exact .pure k.additive (.same _)
  | showRoles | showCurrentRole => exact .pure k.additive (.same _)
  | showRolePrincipals =>
      refine .ofExcept k.additive ?_
      exact (Operation.showRolePrincipalsOfNode_endAlike h).imp (fun _ _ => id) (same id)

/-- Trees that are alike are read side by side as what their roots say, if the remarks at the
beginning are related. -/
theorem dispatch_paired {issue : Issue} (h : n.Like l n')
    (hcompiling : ∀ t t', l.tag t t' →
      k.journal [.record (.compiling t)] [.record (.compiling t')]) :
    Paired k.journal (Retold l.tag) (Operation.UpToOwner k.owner)
      (dispatch ⟨policy, k.left⟩ issue n) (dispatch ⟨policy, k.right⟩ issue n') := by
  rw [dispatch, dispatch, (l.sameUse h.tag).statement?_eq]
  cases n'.tag.statement? with
  | none => exact .fail k.additive (.unknownStatement h.tag)
  | some kind => exact .after k.additive (hcompiling _ _ h.tag) (build_paired h kind)

/-- Compilations of trees that are alike are paired, if the remarks on the statement as a whole are
related. -/
theorem compile_paired {issue : Issue} (h : n.Like l n')
    (hcompiling : ∀ t t', l.tag t t' →
      k.journal [.record (.compiling t)] [.record (.compiling t')])
    (hrefused : ∀ t t' r r', l.tag t t' → Retold l.tag r r' →
      k.journal [.record (.refused t r)] [.record (.refused t' r')]) :
    Paired k.journal (Retold l.tag) (Operation.UpToOwner k.owner)
      (compile ⟨policy, k.left⟩ issue n) (compile ⟨policy, k.right⟩ issue n') :=
  (dispatch_paired h hcompiling).noteError k.additive fun r r' => hrefused _ _ r r' h.tag

end Compiler

/-! ### Requests -/

section Values

variable (O : ObjectKind → String → Option String → Option String → Prop)

/-- The values are the same but for the owners in them. -/
inductive Value.UpToOwner : Value → Value → Prop where
  | same (v : Value) : UpToOwner v v
  | owner {kind : ObjectKind} {name : String} {owner owner' : Option String} :
      O kind name owner owner' → UpToOwner (.ofText? owner) (.ofText? owner')
  | target {t t' : Target} : t.UpToOwner O t' → UpToOwner (.target t) (.target t')
  | operation {op op' : Operation} : op.UpToOwner O op' →
      UpToOwner (.operation op) (.operation op')
  | accepted {op op' : Operation} : op.UpToOwner O op' →
      UpToOwner (.verdict (.accepted op)) (.verdict (.accepted op'))

end Values

/-- Values with the same owners are the same. -/
theorem Value.UpToOwner.eq {v v' : Value} (h : v.UpToOwner (fun _ _ => Eq) v') : v = v' := by
  cases h with
  | same => rfl
  | owner ho => rw [ho]
  | target ht =>
      obtain ⟨rfl⟩ := ht
      rfl
  | operation hop | accepted hop => rw [hop.eq]

/-- Runs of a reader on the same tree have equal errors. -/
theorem Attempt.Paired.untold {J : List Entry → List Entry → Prop} {α : Type} {R : α → α → Prop}
    {x y : Attempt Rejection α} (h : Paired J (Retold Likeness.identity.tag) R x y) :
    Paired J Eq R x y :=
  h.imp (fun _ _ => id) (fun _ _ => Retold.eq_of fun _ _ => id) fun _ _ => id

namespace Execution

/-- A tree is compiled with both catalogs side by side. -/
theorem compile_paired (k : Catalog.Pairing) (policy : Policy) (issue : Issue) (n : Node) :
    Paired k.journal Eq (fun v w => Value.UpToOwner k.owner (.verdict v) (.verdict w))
      (compile ⟨policy, k.left⟩ issue n) (compile ⟨policy, k.right⟩ issue n) := by
  have hdispatch : Paired k.journal Eq (Operation.UpToOwner k.owner)
      (Compiler.dispatch ⟨policy, k.left⟩ issue n) (Compiler.dispatch ⟨policy, k.right⟩ issue n) :=
    (Compiler.dispatch_paired (.identity n) fun t t' ht => ht ▸ k.record _ rfl).untold
  rw [compile_eq, compile_eq]
  obtain ⟨hjournal, hresult⟩ := hdispatch
  generalize (Compiler.dispatch ⟨policy, k.left⟩ issue n).result = x,
    (Compiler.dispatch ⟨policy, k.right⟩ issue n).result = y at hresult
  cases hresult with
  | ok hop => exact ⟨hjournal, .ok (.accepted hop)⟩
  | @error r _ hr =>
      subst hr
      dsimp only
      split
      · exact ⟨k.additive.append hjournal (k.record _ rfl), .ok (.same _)⟩
      · exact ⟨hjournal, .error rfl⟩

end Execution

/-- **A request is answered with both catalogs side by side.** -/
theorem Compiler.answer_paired (k : Catalog.Pairing) (policy : Policy) (request : Request) :
    Paired k.journal Eq (Value.UpToOwner k.owner) (answer ⟨policy, k.left⟩ request)
      (answer ⟨policy, k.right⟩ request) := by
  have same {α : Type} (f : α → Value) (a a' : α) (ha : a = a') :
      Value.UpToOwner k.owner (f a) (f a') := ha ▸ .same (f a)
  cases request with
  | compile issue n => exact (Execution.compile_paired k policy issue n).map fun _ _ => id
  | build kind issue n =>
      rw [answer, answer, Execution.build_eq, Execution.build_eq]
      exact ((build_paired (.identity n) kind).untold.mapError _).map fun _ _ => .operation
  | setRole role | showCurrentRole resultFile => exact .pure k.additive (.same _)
  | target n =>
      rw [answer, answer, Execution.target_eq, Execution.target_eq]
      exact ((Target.ofNode_paired (.identity n)).untold.mapError _).map fun _ _ => .target
  | privileges n =>
      refine .ofExcept_bind_eq k.additive (.refl (fun _ => rfl) (fun _ => rfl) _) fun requests => ?_
      exact .pure k.additive (.same _)
  | principals n =>
      rw [answer, answer, Execution.principals_eq]
      refine .bind_eq k.additive ((Principal.listOfNode_paired (.identity n)).untold.mapError _)
        fun principals => ?_
      exact .pure k.additive (.same _)
  | principal n =>
      rw [answer, answer, Execution.principal_eq]
      exact ((Principal.ofNode_paired (.identity n)).untold.mapError _).map (same _)
  | owner kind name =>
      rw [answer, answer, ← Catalog.mapError_lookupOwner k.left kind name Rejection.raised,
        ← Catalog.mapError_lookupOwner k.right kind name Rejection.raised]
      exact ((k.lookup kind name).mapError _).map fun _ _ => .owner

end AccessControl
