import AccessControl.Compiler.Memberships
import AccessControl.Compiler.Questions
import AccessControl.Proofs.Reading.Journals
import AccessControl.Proofs.Reading.Parts

/-!
# Reading — which principals are remarked on

A principal is remarked on once it is read, and not when the statement is accepted: what comes after
it can still be turned down.  The principals of a list are read in order up to the first that has no
name (`Node.principalsListed`).  A membership reads its list at once, and a grant or revocation once
the privileges are read.

**The readers of principals note these principals and nothing else**
(`Principal.journal_ofNode`, `Principal.journal_listOfNode`, `Membership.journal_ofNode`).
-/

namespace AccessControl

/-! ### The principals of a tree -/

namespace Node

/-- The principal that a node names, if it can be read. -/
def principal? (n : Node) : Option Principal := do
  let named ← n.children[0]?
  let name ← named.name.toOption
  pure ⟨name, n.tag.principalKind?⟩

/-- The principals of a list that are read: those before the first that cannot be. -/
def principalsListed (list : Node) : List Principal :=
  (list.children.takeWhile fun m => m.principal?.isSome).filterMap principal?

/-- The list of principals that a grant or revocation gets to, once its privileges are read. -/
def principalList? (policy : Policy) (n : Node) : Option Node := do
  let privilegeList ← n.children[0]?
  let _ ← (PrivilegeRequest.listOfNode policy privilegeList).toOption
  n.children[1]?

/-- The principals that are read of a tree when it is read as a statement of some kind. -/
def principalsAs (policy : Policy) (n : Node) : StatementKind → List Principal
  | .grant | .revoke => (n.principalList? policy).toList.flatMap principalsListed
  | .grantRole | .revokeRole => n.children[0]?.toList.flatMap principalsListed
  | .showGrant | .showRoleGrant => n.children[0]?.toList.filterMap principal?
  | .createRole | .dropRole | .setRole | .showRoles | .showCurrentRole | .showRolePrincipals => []

/-- The principals that are read of a statement, in order. -/
def principals (policy : Policy) (n : Node) : List Principal :=
  n.tag.statement?.toList.flatMap (n.principalsAs policy)

/-- A child that is required is the one that is there. -/
theorem toOption_part (n : Node) (i : ℕ) : (n.part i).toOption = n.children[i]? := by
  rw [part, child?_ofNat]
  cases n.children[i]? <;> rfl

/-- After a required child only what follows counts, if the child is there. -/
theorem journal_part_bind {α : Type} (n : Node) (i : ℕ) (f : Node → Attempt Rejection α) :
    (Attempt.ofExcept (n.part i) >>= f).journal =
      n.children[i]?.toList.flatMap fun child => (f child).journal := by
  rw [Attempt.journal_ofExcept_bind, toOption_part]

end Node

/-! ### The remarks of the readers -/

/-- The remark on a principal. -/
def Principal.noted (p : Principal) : Entry :=
  .record (.principal p)

namespace Principal

/-- The principal that a node names is the one that is read of it. -/
theorem toOption_ofNode_result (n : Node) : (ofNode n).result.toOption = n.principal? := by
  rw [ofNode_result, Node.principal?, ← n.toOption_part 0]
  change (n.part 0 >>= _).toOption = (n.part 0).toOption >>= _
  cases n.part 0 with
  | error r => rfl
  | ok named =>
      change (named.name >>= _).toOption = named.name.toOption >>= _
      cases named.name <;> rfl

/-- **A principal is noted once it is read.** -/
theorem journal_ofNode (n : Node) : (ofNode n).journal = n.principal?.toList.map noted := by
  rw [ofNode, Node.principal?, Option.bind_eq_bind, Option.toList_bind, List.map_flatMap]
  refine (n.journal_part_bind 0 _).trans (List.flatMap_congr fun named _ => ?_)
  rw [Function.comp_apply, Option.bind_eq_bind, Option.toList_bind, List.map_flatMap]
  exact Attempt.journal_ofExcept_bind _ _

/-- **The principals of a list are noted up to the first that cannot be read.** -/
theorem journal_listOfNode (n : Node) : (listOfNode n).journal = n.principalsListed.map noted := by
  rw [listOfNode, Attempt.journal_mapM, Node.principalsListed]
  induction n.children with
  | nil => rfl
  | cons m ms ih =>
      have hm := toOption_ofNode_result m
      cases h : (ofNode m).result with
      | error r =>
          replace hm : m.principal? = none := by rw [← hm, h]; rfl
          rw [Attempt.reached_cons_of_error h, List.flatMap_singleton, journal_ofNode, hm,
            List.takeWhile_cons_of_neg (by simp [hm])]
          rfl
      | ok p =>
          replace hm : m.principal? = some p := by rw [← hm, h]; rfl
          rw [Attempt.reached_cons_of_ok h, List.flatMap_cons, ih, journal_ofNode, hm,
            List.takeWhile_cons_of_pos (by simp [hm]), List.filterMap_cons_some hm]
          rfl

/-- If a list can be read, all its principals are. -/
theorem principalsListed_of_result {list : Node} {ps : List Principal}
    (h : (listOfNode list).result = .ok ps) : list.principalsListed = ps := by
  rw [listOfNode_result_ok_iff] at h
  rw [Node.principalsListed]
  generalize list.children = ms at h ⊢
  induction h with
  | nil => rfl
  | @cons m p ms ps hm _ ih =>
      replace hm : m.principal? = some p := by rw [← toOption_ofNode_result, hm]; rfl
      rw [List.takeWhile_cons_of_pos (by simp [hm]), List.filterMap_cons_some hm, ih]

theorem journal_soleOfNode (required : PrincipalKind) (n : Node) :
    (soleOfNode required n).journal =
      (n.children[0]?.toList.filterMap Node.principal?).map noted := by
  rw [soleOfNode, List.filterMap_eq_flatMap_toList, List.map_flatMap]
  refine (n.journal_part_bind 0 _).trans (List.flatMap_congr fun child _ => ?_)
  rw [← journal_ofNode]
  exact Attempt.journal_bind_silent _ fun p => Attempt.journal_bind_silent _ fun _ => rfl

end Principal

theorem Membership.journal_ofNode (issue : Issue) (n : Node) :
    (ofNode issue n).journal =
      (n.children[0]?.toList.flatMap Node.principalsListed).map Principal.noted := by
  rw [ofNode, List.map_flatMap]
  refine (n.journal_part_bind 0 _).trans (List.flatMap_congr fun list _ => ?_)
  rw [← Principal.journal_listOfNode]
  exact Attempt.journal_bind_silent _ fun principals =>
    Attempt.journal_bind_silent _ fun roles => Attempt.journal_bind_silent _ fun _ => rfl

end AccessControl
