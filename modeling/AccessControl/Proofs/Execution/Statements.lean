import AccessControl.Execution.Statements
import AccessControl.Proofs.Execution.Parts
import AccessControl.Proofs.Reading.Targets

/-!
# Execution — what is run does what the readers tell

The readers under `Compiler` tell what a statement comes to.  What is run goes through a statement
step by step: a loop keeps the last object so far, the target is checked again for a partition, and
each part is taken where there is one.

**Both come to the same** (`target_eq`, `grant_eq`, `revocation_eq`, `build_eq`), with the same
journal: the same operation, or what is raised for the same rejection.  **A compilation ends with
the verdict of the readers, unless the message of a rejection cannot be written** (`compile_eq`).
-/

namespace AccessControl

/-- What comes of a question about an owner does not depend on what else can fail. -/
theorem Catalog.mapError_lookupOwner {ε ε' : Type} (catalog : Option Catalog) (kind : ObjectKind)
    (name : String) (f : ε → ε') :
    (lookupOwner catalog kind name).mapError f = lookupOwner catalog kind name := by
  cases catalog with
  | none => rfl
  | some catalog =>
      rw [lookupOwner, lookupOwner]
      cases h : (catalog.owner kind.catalogKind name).result with
      | ok owner => rw [Attempt.recover_of_ok h, Attempt.recover_of_ok h]; rfl
      | error fault =>
          rw [Attempt.recover_of_error h, Attempt.recover_of_error h, Attempt.mapError_after]
          rfl

/-- No target that is read is a partition: partitions are refused before. -/
theorem Clause.partition_of_lastTarget? {catalog : Option Catalog} {place : Place} {n : Node}
    {clauses : List Clause} (h : (listOfNode catalog place n).result = .ok clauses) {t : Target}
    (ht : lastTarget? clauses = some t) : t.partition = none := by
  have hmem := List.mem_of_getLast? ht
  obtain ⟨clause, hclause, htarget⟩ := List.mem_filterMap.mp hmem
  obtain ⟨m, -, hm⟩ := exists_of_forall₂ (listOfNode_result_ok_iff.mp h) clause hclause
  rcases ofNode_result_ok_iff.mp hm with ⟨-, -, rfl⟩ | ⟨-, target, htarget', rfl⟩
  · exact nomatch htarget
  · cases htarget
    exact (Target.ofNode_result_ok_iff.mp htarget').2.2.2

namespace Execution

/-! ### Targets -/

/-- The kind of a target decides how its name is read and whether there is an owner to ask for. -/
theorem identity_eq (catalog : Option Catalog) (target named : Node) :
    identity catalog target named = (do
      let kind ← Target.kindOfTag target.tag
      let name ← kind.nameOfNode named
      let owner ← Target.ownerOf catalog kind name
      pure (kind, name, owner) : Attempt Rejection _).mapError Rejection.raised := by
  rw [identity, Target.kindOfTag]
  cases target.tag.objectKind? with
  | none => rfl
  | some kind =>
      change _ = (do
        let name ← kind.nameOfNode named
        let owner ← Target.ownerOf catalog kind name
        pure (kind, name, owner) : Attempt Rejection _).mapError Rejection.raised
      cases kind with
      | server =>
          simp only [name_eq, Attempt.liftM_eq, Attempt.mapError_bind, Attempt.mapError_ofExcept]
          rfl
      | uri =>
          simp only [name_eq, Attempt.liftM_eq, Attempt.mapError_bind, Attempt.mapError_ofExcept,
            ObjectKind.nameOfNode]
          cases named.name <;> rfl
      | table | database =>
          simp only [name_eq, tableName_eq, Attempt.liftM_eq, Attempt.mapError_bind,
            Attempt.mapError_ofExcept, ObjectKind.nameOfNode, Target.ownerOf, ObjectKind.isOwned,
            if_true, Catalog.mapError_lookupOwner]
          rfl

/-- Each list of columns replaces the one before, so the last one counts. -/
theorem foldlM_nextColumns (further : List Node) (columns : List String) :
    further.foldlM nextColumns columns = (do
      let lists ← (further.filter fun n => n.tag = .word .columnList).mapM names
      pure (lists.getLast?.getD columns)) := by
  induction further generalizing columns with
  | nil => rfl
  | cons n further ih =>
      rw [List.foldlM_cons, nextColumns]
      by_cases h : n.tag = .word .columnList
      · rw [if_pos h, List.filter_cons_of_pos (by simpa using h), List.mapM_cons]
        simp only [ih, bind_assoc, pure_bind, List.getLast?_cons]
        rfl
      · rw [if_neg h, List.filter_cons_of_neg (by simpa using h)]
        exact ih columns

theorem targetColumns_eq (further : List Node) :
    targetColumns further = (Target.columnsOfNodes further).mapError Rejection.raised := by
  rw [targetColumns, foldlM_nextColumns, Target.columnsOfNodes, mapError_bind, mapError_mapM,
    funext names_eq]
  rfl

theorem target_eq (catalog : Option Catalog) (object : Node) :
    target catalog object = (Target.ofNode catalog object).mapError Rejection.raised := by
  rw [target, Target.ofNode]
  split
  · rfl
  · simp only [part_zero, identity_eq, targetColumns_eq, Attempt.liftM_eq, Attempt.mapError_bind,
      Attempt.mapError_ofExcept, Attempt.mapError_pure, bind_assoc, pure_bind]

/-! ### Clauses -/

/-- What one more clause changes: the last object counts. -/
def nextTarget (target : Option Target) (clause : Clause) : Option Target :=
  clause.target?.or target

/-- What one more clause of a grant changes. -/
def Clauses.next (clauses : Clauses) (clause : Clause) : Clauses :=
  (nextTarget clauses.1 clause, clauses.2 || clause = .grantOption)

theorem foldl_nextTarget (clauses : List Clause) (target : Option Target) :
    clauses.foldl nextTarget target = (Clause.lastTarget? clauses).or target := by
  induction clauses generalizing target with
  | nil => rfl
  | cons clause clauses ih =>
      rw [List.foldl_cons, ih, nextTarget, Clause.lastTarget?, Clause.lastTarget?,
        List.filterMap_cons]
      cases clause.target? with
      | none => rfl
      | some t =>
          dsimp only
          rw [List.getLast?_cons, Option.some_or, Option.some_or, Option.or_some]

theorem foldl_next (clauses : List Clause) (s : Clauses) :
    clauses.foldl Clauses.next s =
      ((Clause.lastTarget? clauses).or s.1, s.2 || clauses.contains .grantOption) := by
  rw [← foldl_nextTarget]
  induction clauses generalizing s with
  | nil => simp
  | cons clause clauses ih =>
      rw [List.foldl_cons, ih, List.foldl_cons, List.contains_cons, Clauses.next, Bool.or_assoc]
      simp only [beq_eq_decide, eq_comm]

theorem grantClause_eq (catalog : Option Catalog) (clauses : Clauses) (n : Node) :
    grantClause catalog clauses n =
      clauses.next <$> (Clause.ofNode catalog .grant n).mapError Rejection.raised := by
  rw [grantClause, Clause.ofNode]
  by_cases hoption : n.tag = .word .grantOption
  · rw [if_pos hoption, if_pos ⟨hoption, rfl⟩]
    exact congrArg pure (Prod.ext rfl (Bool.or_true _).symm)
  · rw [if_neg hoption, if_neg (c := _ ∧ _) fun h => hoption h.1]
    split
    · rw [target_eq, Attempt.mapError_bind, map_bind]
      refine congrArg _ (funext fun t => congrArg pure (Prod.ext rfl ?_))
      exact (Bool.or_false _).symm
    · rfl

/-- The permission to grant further is out of place in a revocation. -/
theorem revokeClause_eq (catalog : Option Catalog) (target? : Option Target) (n : Node) :
    revokeClause catalog target? n =
      nextTarget target? <$> (Clause.ofNode catalog .revoke n).mapError Rejection.raised := by
  have hplace : ¬ (n.tag = .word .grantOption ∧ Place.revoke = .grant) := by
    rintro ⟨-, ⟨⟩⟩
  rw [revokeClause, Clause.ofNode, if_neg hplace]
  by_cases hobject : n.tag = .word .object
  · rw [if_neg (not_not.mpr hobject), if_pos hobject, target_eq, Attempt.mapError_bind, map_bind,
      ← bind_pure_comp]
    rfl
  · rw [if_pos hobject, if_neg hobject]
    rfl

theorem grantClauses_eq (catalog : Option Catalog) (n : Node) :
    (n.children.drop 2).foldlM (grantClause catalog) (none, false) =
      (fun clauses => (Clause.lastTarget? clauses, clauses.contains .grantOption)) <$>
        (Clause.listOfNode catalog .grant n).mapError Rejection.raised := by
  have hstep := funext fun s => funext (grantClause_eq catalog s)
  rw [hstep, foldlM_eq_foldl_mapM, Clause.listOfNode, Attempt.mapError_mapM]
  simp only [foldl_next, Option.or_none, Bool.false_or]

theorem revokeClauses_eq (catalog : Option Catalog) (n : Node) :
    (n.children.drop 2).foldlM (revokeClause catalog) none =
      Clause.lastTarget? <$> (Clause.listOfNode catalog .revoke n).mapError Rejection.raised := by
  have hstep := funext fun s => funext (revokeClause_eq catalog s)
  rw [hstep, foldlM_eq_foldl_mapM, Clause.listOfNode, Attempt.mapError_mapM]
  simp only [foldl_nextTarget, Option.or_none]

/-! ### Statements -/

/-- What has been read is not refused once more. -/
theorem requireWhole_lastTarget? {catalog : Option Catalog} {place : Place} {n : Node}
    {clauses : List Clause}
    (h : ((Clause.listOfNode catalog place n).mapError Rejection.raised).result = .ok clauses)
    {t : Target} (ht : Clause.lastTarget? clauses = some t) : requireWhole t = .ok () := by
  rw [requireWhole,
    Clause.partition_of_lastTarget? (Attempt.mapError_result_ok_iff.mp h) ht]
  rfl

theorem grant_eq (policy : Policy) (catalog : Option Catalog) (issue : Issue) (n : Node) :
    grant policy catalog issue n =
      (PrivilegeGrant.ofNode policy catalog issue n).mapError Rejection.raised := by
  rw [grant, PrivilegeGrant.ofNode]
  simp only [part_zero, part_one, privileges_eq, principals_eq, grantClauses_eq, requireKind_eq,
    Attempt.liftM_eq, Attempt.mapError_bind, Attempt.mapError_ofExcept, bind_map_left]
  refine congrArg _ (funext fun privilegeList => congrArg _ (funext fun privileges => ?_))
  refine congrArg _ (funext fun principalList => congrArg _ (funext fun principals => ?_))
  refine Attempt.bind_congr_of_ok fun clauses hclauses => ?_
  cases ht : Clause.lastTarget? clauses with
  | none => rfl
  | some t =>
      dsimp only
      rw [requireWhole_lastTarget? hclauses ht]
      simp only [Attempt.mapError_bind, Attempt.mapError_ofExcept]
      rfl

theorem revocation_eq (policy : Policy) (catalog : Option Catalog) (n : Node) :
    revocation policy catalog n =
      (PrivilegeRevocation.ofNode policy catalog n).mapError Rejection.raised := by
  rw [revocation, PrivilegeRevocation.ofNode]
  simp only [part_zero, part_one, privileges_eq, principals_eq, revokeClauses_eq, requireKind_eq,
    Attempt.liftM_eq, Attempt.mapError_bind, Attempt.mapError_ofExcept, bind_map_left]
  refine congrArg _ (funext fun privilegeList => congrArg _ (funext fun privileges => ?_))
  refine congrArg _ (funext fun principalList => congrArg _ (funext fun principals => ?_))
  refine Attempt.bind_congr_of_ok fun clauses hclauses => ?_
  cases ht : Clause.lastTarget? clauses with
  | none => rfl
  | some t =>
      dsimp only
      rw [requireWhole_lastTarget? hclauses ht]
      rfl

theorem role_eq (policy : Policy) (n : Node) :
    role policy n = (policy.roleOfNode n).mapError Rejection.raised := by
  rw [role, Policy.roleOfNode]
  simp only [part_zero, name_eq, mapError_bind]
  refine congrArg _ (funext fun named => congrArg _ (funext fun role => ?_))
  split <;> rfl

theorem membership_eq (issue : Issue) (n : Node) :
    membership issue n = (Membership.ofNode issue n).mapError Rejection.raised := by
  have hroles : roles n = (Membership.rolesOfNode n).mapError Rejection.raised := by
    rw [roles, Membership.rolesOfNode, mapError_mapM, funext name_eq]
  rw [membership, Membership.ofNode]
  simp only [part_zero, principals_eq, hroles, requireKind_eq, Attempt.liftM_eq,
    Attempt.mapError_bind, Attempt.mapError_ofExcept, Attempt.mapError_pure]

theorem solePrincipal_eq (required : PrincipalKind) (n : Node) :
    solePrincipal required n = (Principal.soleOfNode required n).mapError Rejection.raised := by
  rw [solePrincipal, Principal.soleOfNode]
  simp only [part_zero, principal_eq, requireKind_eq, Attempt.liftM_eq, Attempt.mapError_bind,
    Attempt.mapError_ofExcept, Attempt.mapError_pure]

/-- The object of a question is taken where there is more than the role. -/
theorem showGrant_eq (catalog : Option Catalog) (issue : Issue) (n : Node) :
    showGrant catalog issue n =
      (Operation.showGrantOfNode catalog issue n).mapError Rejection.raised := by
  rw [showGrant, Operation.showGrantOfNode, solePrincipal_eq, Attempt.mapError_bind]
  refine congrArg _ (funext fun principal => ?_)
  rw [Target.shownOfNode]
  cases h : n.children[1]? with
  | none =>
      rw [if_neg (Nat.not_lt.mpr (List.getElem?_eq_none_iff.mp h))]
      rfl
  | some object =>
      rw [if_pos (List.getElem?_eq_some_iff.mp h).1, child_one h]
      change (if _ then _ else _) = _
      dsimp only
      split
      · rw [target_eq, bind_map_left, Attempt.mapError_bind]
        rfl
      · rfl

theorem showRoleGrant_eq (issue : Issue) (n : Node) :
    showRoleGrant issue n =
      (Operation.showRoleGrantOfNode issue n).mapError Rejection.raised := by
  rw [showRoleGrant, Operation.showRoleGrantOfNode, solePrincipal_eq, Attempt.mapError_bind]
  rfl

/-- The role is taken where it is the only child. -/
theorem showRolePrincipals_eq (issue : Issue) (n : Node) :
    showRolePrincipals issue n =
      (Operation.showRolePrincipalsOfNode issue n).mapError Rejection.raised := by
  rw [showRolePrincipals, Operation.showRolePrincipalsOfNode]
  match hc : n.children with
  | [] => rfl
  | [named] =>
      have hchild : child n 0 = .ok named :=
        child_eq_ok (by decide) ((n.child?_ofNat 0).trans (by rw [hc]; rfl))
      rw [if_neg (by simp), hchild]
      change name named >>= _ = (named.name.map _).mapError _
      rw [name_eq]
      cases named.name <;> rfl
  | _ :: _ :: _ => rfl

/-- **A tree is built as the readers tell**, whatever the kind of the statement. -/
theorem build_eq (c : Compiler) (issue : Issue) (n : Node) (kind : StatementKind) :
    build c issue n kind = (c.build issue n kind).mapError Rejection.raised := by
  have hset : part n 0 >>= name = (n.part 0 >>= Node.name).mapError Rejection.raised := by
    rw [part_zero, funext name_eq, mapError_bind]
  cases kind <;>
    simp only [build, Compiler.build, role_eq, grant_eq, revocation_eq, membership_eq, hset,
      showGrant_eq, showRoleGrant_eq, showRolePrincipals_eq, Attempt.mapError_map,
      Attempt.mapError_ofExcept, Attempt.mapError_pure]

/-! ### Compilation -/

section Compile

variable {c : Compiler} {issue : Issue} {n : Node} {r : Rejection}

theorem remark_eq {record : Record} (h : record.IsWritable) :
    remark record = Attempt.note (.record record) :=
  if_pos h

/-- The root of a statement is a word. -/
theorem numbers_eq_nil_of_statement? {tag : Tag} {kind : StatementKind}
    (h : tag.statement? = some kind) : tag.numbers = [] := by
  cases tag with
  | word => rfl
  | number => exact nomatch h

theorem dispatch_eq (c : Compiler) (issue : Issue) (n : Node) :
    dispatch c issue n = (c.dispatch issue n).mapError Rejection.raised := by
  rw [dispatch, Compiler.dispatch]
  cases h : n.tag.statement? with
  | none => rfl
  | some kind =>
      dsimp only
      have hwritable : (Record.compiling n.tag).IsWritable := by
        intro i hi
        rw [Record.numbers, numbers_eq_nil_of_statement? h] at hi
        exact absurd hi List.not_mem_nil
      rw [remark_eq hwritable, build_eq, Attempt.mapError_after]
      rfl

/-- A statement that is turned down in writing has a root that can be written. -/
theorem isWritable_refused (h : (c.dispatch issue n).result = .error r) (hr : r.IsWritable) :
    (Record.refused n.tag r).IsWritable := by
  rw [Compiler.dispatch] at h
  cases htag : n.tag.statement? with
  | none =>
      rw [htag] at h
      cases h
      exact hr
  | some kind =>
      intro i hi
      rw [Record.numbers, numbers_eq_nil_of_statement? htag] at hi
      exact absurd hi List.not_mem_nil

/-- **A compilation ends with the verdict of the readers, unless the message of a rejection cannot
be written.**  No other failure is left to be passed on. -/
theorem compile_eq (c : Compiler) (issue : Issue) (n : Node) :
    compile c issue n =
      match (c.dispatch issue n).result with
      | .ok op => ⟨.ok (.accepted op), (c.dispatch issue n).journal⟩
      | .error r =>
          if r.IsWritable then
            ⟨.ok (.rejected r), (c.dispatch issue n).journal ++ [.record (.refused n.tag r)]⟩
          else ⟨.error .longNumber, (c.dispatch issue n).journal⟩ := by
  have hresult : (Verdict.accepted <$> dispatch c issue n).result =
      ((c.dispatch issue n).result.mapError Rejection.raised).map .accepted := by
    rw [dispatch_eq, Attempt.result_map, Attempt.result_mapError]
    rfl
  have hjournal : (Verdict.accepted <$> dispatch c issue n).journal =
      (c.dispatch issue n).journal := by
    rw [dispatch_eq, Attempt.journal_map, Attempt.journal_mapError]
  rw [compile]
  cases h : (c.dispatch issue n).result with
  | ok op =>
      rw [h] at hresult
      rw [Attempt.recover_of_ok hresult, hjournal]
  | error r =>
      rw [h] at hresult
      rw [Attempt.recover_of_error hresult, hjournal, Rejection.raised]
      by_cases hr : r.IsWritable
      · rw [if_pos hr]
        dsimp only
        rw [if_pos hr, remark_eq (isWritable_refused h hr)]
        rfl
      · rw [if_neg hr]
        dsimp only
        rw [if_neg hr]
        exact Attempt.ext rfl (List.append_nil _)

/-- **A compilation whose rejection can be written is the one that the readers tell**, journal
included. -/
theorem compile_of_isWritable
    (h : ∀ r, (c.compile issue n).result = .error r → r.IsWritable) :
    compile c issue n =
      ⟨.ok (.ofResult (c.compile issue n).result), (c.compile issue n).journal⟩ := by
  rw [compile_eq]
  rw [Compiler.compile, Attempt.noteError] at h ⊢
  cases hresult : (c.dispatch issue n).result with
  | ok op =>
      rw [Attempt.recover_of_ok hresult]
      rfl
  | error r =>
      rw [Attempt.recover_of_error hresult] at h ⊢
      exact if_pos (h r rfl)

/-- **What is accepted is what the readers make of it.** -/
theorem compile_accepted_iff {op : Operation} :
    (compile c issue n).result = .ok (.accepted op) ↔ (c.compile issue n).result = .ok op := by
  rw [compile_eq, Compiler.compile, Attempt.result_noteError]
  cases (c.dispatch issue n).result with
  | ok op' => simp
  | error r =>
      dsimp only
      split <;> simp

/-- A statement is turned down for the rejection of the readers, if its message can be written. -/
theorem compile_rejected_iff :
    (compile c issue n).result = .ok (.rejected r) ↔
      (c.compile issue n).result = .error r ∧ r.IsWritable := by
  rw [compile_eq, Compiler.compile, Attempt.result_noteError]
  cases (c.dispatch issue n).result with
  | ok op => simp
  | error r' =>
      dsimp only
      split
      · rename_i hr
        simp only [Except.ok.injEq, Verdict.rejected.injEq, Except.error.injEq]
        exact ⟨fun h => ⟨h, h ▸ hr⟩, And.left⟩
      · rename_i hr
        simp only [reduceCtorEq, Except.error.injEq, false_iff, not_and]
        exact fun h => h ▸ hr

/-- The only failure that ends a compilation without a verdict is a message that cannot be
written. -/
theorem compile_error_iff {failure : Failure} :
    (compile c issue n).result = .error failure ↔
      failure = .longNumber ∧ ∃ r, (c.compile issue n).result = .error r ∧ ¬ r.IsWritable := by
  rw [compile_eq, Compiler.compile, Attempt.result_noteError]
  cases (c.dispatch issue n).result with
  | ok op => simp
  | error r =>
      dsimp only
      split
      · rename_i hr
        simp [hr]
      · rename_i hr
        simp [hr, eq_comm]

end Compile

end Execution

end AccessControl
