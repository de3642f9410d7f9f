import AccessControl.Proofs.Verdicts.PartNeeds

/-!
# Verdicts — mistakes and broken invariants

A reader that misses a part of a tree which the grammar promises says that an invariant is broken,
and everything else that it says is a mistake of the author.

**Which of the two a rejection is, is decided by the tree** (`Compiler.compile_completeness`).  A
complete statement is never told that an invariant is broken.  A statement that is not complete is
never accepted: it is told so, unless the reader meets a mistake before it misses a part.

The proof is what each kind of statement needs (`Compiler.build_needs`), from what its parts need.
-/

namespace AccessControl

variable {policy : Policy} {catalog : Option Catalog} {issue : Issue} {n : Node}
variable {L : Rejection → Prop}

/-! ### Grants and revocations -/

/-- Grants and revocations need their lists and clauses, and then what they need to go on with
these. -/
theorem Node.HasCompleteLists.needs {α : Type} {D : Prop} {place : Place}
    (hplace : place = .grant ∨ place = .revoke)
    {f : List PrivilegeRequest → List Principal → List Clause → Except Rejection α}
    (hf : ∀ privileges principals clauses,
      (Clause.listOfNode catalog place n).result = .ok clauses →
        Needs D (fun _ => False) L (f privileges principals clauses)) :
    Needs (n.HasCompleteLists ∧ (∀ m ∈ n.clauses, m.IsCompleteClause place) ∧ D)
      (n.GrantMistake policy place) L (do
        let privilegeList ← n.part 0
        let privileges ← PrivilegeRequest.listOfNode policy privilegeList
        let principalList ← n.part 1
        let principals ← (Principal.listOfNode principalList).result
        let clauses ← (Clause.listOfNode catalog place n).result
        f privileges principals clauses) := by
  refine Needs.congr
    (Q := ∃ list ∈ n.children[0]?, (∀ m ∈ list.children, m.IsCompleteRequest) ∧
      ∃ list ∈ n.children[1]?, list.HasPrincipals ∧
        (∀ m ∈ n.clauses, m.IsCompleteClause place) ∧ D)
    (M := fun r => ∃ list ∈ n.children[0]?,
      MeetsIn IsCompleteRequest (RequestMistake policy) list.children r ∨
      (∀ m ∈ list.children, m.IsCompleteRequest) ∧
        ∃ list ∈ n.children[1]?, list.HasPrincipals ∧
          MeetsIn (IsCompleteClause place) (ClauseMistake place) n.clauses r)
    ?_ ⟨?_, ?_⟩ fun r => ⟨?_, ?_⟩
  · refine part_bind_needs fun _ _ => ?_
    refine PrivilegeRequest.listOfNode_needs.bind fun privileges _ => ?_
    refine part_bind_needs fun _ _ => ?_
    refine Principal.listOfNode_needs.clean_bind fun principals _ => ?_
    exact (Clause.listOfNode_needs hplace).bind_clean (hf privileges principals)
  · rintro ⟨list, hlist, hprivileges, list', hlist', hprincipals, hrest⟩
    exact ⟨⟨⟨list, hlist, hprivileges⟩, ⟨list', hlist', hprincipals⟩⟩, hrest⟩
  · rintro ⟨⟨⟨list, hlist, hprivileges⟩, ⟨list', hlist', hprincipals⟩⟩, hrest⟩
    exact ⟨list, hlist, hprivileges, list', hlist', hprincipals, hrest⟩
  · rintro ⟨list, hlist, hr | ⟨hprivileges, list', hlist', hprincipals, hr⟩⟩
    · exact .request hlist hr
    · exact .clause ⟨⟨list, hlist, hprivileges⟩, ⟨list', hlist', hprincipals⟩⟩ hr
  · rintro (⟨hlist, hr⟩ | ⟨⟨⟨list, hlist, hprivileges⟩, ⟨list', hlist', hprincipals⟩⟩, hr⟩)
    · exact ⟨_, hlist, .inl hr⟩
    · exact ⟨list, hlist, .inr ⟨hprivileges, list', hlist', hprincipals, hr⟩⟩

theorem PrivilegeGrant.ofNode_needs :
    Needs (StatementKind.grant.IsComplete n) (n.GrantMistake policy .grant)
      (fun r => r.category.isUserFacing) (ofNode policy catalog issue n).result := by
  rw [ofNode_result]
  refine Node.HasCompleteLists.needs (.inl rfl) fun privileges principals clauses hc => ?_
  -- every object has a target, so without a target there is no object
  have hobjects := Clause.forall₂_objects hc
  cases ht : Clause.lastTarget? clauses with
  | none =>
      rw [List.getLast?_eq_none_iff.mp ht, List.forall₂_nil_right_iff] at hobjects
      exact .broken (fun h => h hobjects) (fun _ => id) rfl
  | some target =>
      have hne : n.objects ≠ [] := fun hnil => by
        rw [hnil, List.forall₂_nil_left_iff] at hobjects
        simp [Clause.lastTarget?, hobjects] at ht
      refine .of_failsOnly hne ?_
      exact (Principal.requireKind_isUserFacing .role principals).bind fun _ _ => .ok _

theorem PrivilegeRevocation.ofNode_needs :
    Needs (StatementKind.revoke.IsComplete n) (n.GrantMistake policy .revoke)
      (fun r => r.category.isUserFacing) (ofNode policy catalog n).result := by
  rw [ofNode_result]
  refine Needs.congr (Q := n.HasCompleteLists ∧
      (∀ m ∈ n.clauses, m.IsCompleteClause .revoke) ∧ True)
    (Node.HasCompleteLists.needs (.inr rfl) fun privileges principals clauses _ => ?_) ?_
    fun _ => Iff.rfl
  · refine .of_failsOnly trivial ?_
    exact (Principal.requireKind_isUserFacing .role principals).bind fun _ _ => .ok _
  · rw [and_true]
    exact Iff.rfl

/-! ### Roles and questions -/

theorem Membership.ofNode_needs :
    Needs (StatementKind.grantRole.IsComplete n) (fun _ => False)
      (fun r => r.category.isUserFacing) (ofNode issue n).result := by
  simp only [ofNode, Attempt.result_bind, Attempt.liftM_eq, Attempt.result_ofExcept]
  refine Needs.congr (Q := ∃ list ∈ n.children[0]?, list.HasPrincipals ∧
    ∀ m ∈ n.children.drop 1, m.text.isSome) ?_ ⟨?_, ?_⟩ fun _ => Iff.rfl
  · refine Node.part_bind_clean fun list _ => ?_
    refine Principal.listOfNode_needs.bind_clean fun principals _ => ?_
    refine Needs.finish (.mapM_clean fun _ _ => Node.name_needs) fun roles _ => ?_
    exact (Principal.requireKind_isUserFacing .group principals).bind fun _ _ => .ok _
  · rintro ⟨list, hlist, hprincipals, hroles⟩
    exact ⟨⟨list, hlist, hprincipals⟩, hroles⟩
  · rintro ⟨⟨list, hlist, hprincipals⟩, hroles⟩
    exact ⟨list, hlist, hprincipals, hroles⟩

theorem Policy.roleOfNode_needs :
    Needs n.HasName (fun _ => False) (fun r => r.category.isUserFacing)
      (policy.roleOfNode n) := by
  refine Node.part_bind_clean fun named _ => Node.name_needs.finish fun role _ => ?_
  split
  · exact .error rfl
  · exact .ok role

namespace Operation

theorem showGrantOfNode_needs :
    Needs (StatementKind.showGrant.IsComplete n) n.ShownMistake L
      (showGrantOfNode catalog issue n).result := by
  simp only [showGrantOfNode, Attempt.result_bind]
  refine Needs.congr (M := fun r => n.PrincipalMistake .role r ∨
      (∃ principal ∈ n.children[0]?, principal.HasName) ∧
        ∃ object ∈ n.children[1]?, object.ClauseMistake .showGrant r) ?_ Iff.rfl fun r => ⟨?_, ?_⟩
  · refine Principal.soleOfNode_needs.bind fun principal _ => ?_
    exact Target.shownOfNode_needs.finish fun target _ => .ok _
  · rintro (hr | ⟨hprincipal, object, hobject, hr⟩)
    · exact .principal hr
    · exact .object hprincipal hobject hr
  · rintro (hr | ⟨hprincipal, hobject, hr⟩)
    · exact .inl hr
    · exact .inr ⟨hprincipal, _, hobject, hr⟩

/-- Only the name of the principal is needed, so its kind is looked at last. -/
theorem showRoleGrantOfNode_needs :
    Needs (StatementKind.showRoleGrant.IsComplete n) (fun _ => False)
      (fun r => r.category.isUserFacing) (showRoleGrantOfNode issue n).result := by
  rw [showRoleGrantOfNode, bind_pure_comp, Attempt.result_map]
  refine (Principal.soleOfNode_needs.delay fun r hr => ⟨?_, hr.isUserFacing⟩).map _
  obtain ⟨principal, hprincipal, hname, -⟩ := hr
  exact ⟨principal, hprincipal, hname⟩

theorem showRolePrincipalsOfNode_needs :
    Needs (StatementKind.showRolePrincipals.IsComplete n) (fun _ => False) L
      (showRolePrincipalsOfNode issue n) := by
  unfold showRolePrincipalsOfNode
  split
  · rename_i role hrole
    refine (Node.name_needs.map _).congr ?_ fun _ => Iff.rfl
    simp [StatementKind.IsComplete, Node.HasName, hrole]
  · rename_i hne
    refine .broken ?_ (fun _ => id) rfl
    rintro ⟨hlength, -⟩
    obtain ⟨role, hrole⟩ := List.length_eq_one_iff.mp hlength
    exact hne role hrole

end Operation

/-! ### Whole statements -/

namespace Compiler

/-- **A statement needs what the grammar promises of it.** -/
theorem build_needs {c : Compiler} (kind : StatementKind) :
    Needs (kind.IsComplete n) (kind.Mistake c.policy n) (fun r => r.category.isUserFacing)
      (c.build issue n kind).result := by
  cases kind with
  | createRole | dropRole =>
      rw [build, Attempt.result_map]
      exact Policy.roleOfNode_needs.map _
  | grant =>
      rw [build, Attempt.result_map]
      exact PrivilegeGrant.ofNode_needs.map _
  | revoke =>
      rw [build, Attempt.result_map]
      exact PrivilegeRevocation.ofNode_needs.map _
  | grantRole | revokeRole =>
      rw [build, Attempt.result_map]
      exact Membership.ofNode_needs.map _
  | setRole =>
      rw [build, Attempt.result_map]
      exact (Node.part_bind_clean fun named _ => Node.name_needs).map _
  | showGrant => exact Operation.showGrantOfNode_needs
  | showRoleGrant => exact Operation.showRoleGrantOfNode_needs
  | showRoles | showCurrentRole => exact .ok trivial (fun _ => id) _
  | showRolePrincipals => exact Operation.showRolePrincipalsOfNode_needs

/-- **The tree decides whether a rejection is a mistake of the author or a broken invariant.**  A
complete statement that is rejected is rejected for a mistake.  A statement that is not complete is
rejected: for one of the mistakes that come before everything that is missing, if there are any, and
otherwise as a tree that breaks an invariant. -/
theorem compile_completeness (c : Compiler) (issue : Issue) (n : Node) :
    (n.IsComplete → ∀ r, (c.compile issue n).result = .error r → r.category.isUserFacing) ∧
      (¬ n.IsComplete → ∃ r, (c.compile issue n).result = .error r ∧
        ((∃ r', n.Mistake c.policy r') → n.Mistake c.policy r ∧ r.category.isUserFacing) ∧
        ((∀ r', ¬ n.Mistake c.policy r') → r.category = .brokenInvariant)) := by
  rw [compile_result]
  simp only [Node.IsComplete, Node.Mistake]
  cases n.tag.statement? with
  | none =>
      -- a root that begins no statement is a mistake, and nothing is promised of it
      refine ⟨?_, fun h => absurd (fun _ hkind => nomatch hkind) h⟩
      rintro - _ ⟨⟩
      rfl
  | some kind =>
      have hneeds : Needs (kind.IsComplete n) (kind.Mistake c.policy n)
          (fun r => r.category.isUserFacing) (c.build issue n kind).result := build_needs kind
      simp only [Option.mem_some_iff, forall_eq', exists_eq_left']
      generalize (c.build issue n kind).result = x at hneeds
      cases hneeds with
      | ok h _ op => exact ⟨fun _ _ e => (nomatch e), fun h' => absurd h h'⟩
      | broken h hnone hr =>
          refine ⟨fun h' => absurd h' h, fun _ => ⟨_, rfl, ?_, fun _ => hr⟩⟩
          rintro ⟨r', hr'⟩
          exact absurd hr' (hnone r')
      | @mistaken r hr =>
          refine ⟨?_, fun _ => ⟨r, rfl, fun _ => ⟨hr, hr.isUserFacing⟩, ?_⟩⟩
          · rintro - _ ⟨⟩
            exact hr.isUserFacing
          · intro hnone
            exact absurd hr (hnone r)
      | late h _ hr =>
          refine ⟨?_, fun h' => absurd h h'⟩
          rintro - _ ⟨⟩
          exact hr

end Compiler

/-- A grant of a privilege to the user `u` on a table, whose node has the children. -/
def Node.grantToUser (privilege : Privilege) (children : List Node) : Node where
  tag := .word (.statement .grant)
  children :=
    [{ tag := .word .privilegeList
       children := [{ tag := .word .privilegeItem
                      children := [{ tag := .word (.privilege privilege) }] }] },
     { tag := .word .principalList
       children := [{ tag := .word (.principal .user), children := [.identifier "u"] }] },
     { tag := .word .object
       children := [{ tag := .word (.target .table), children }] }]

/-- With a name for the table the user is the mistake.  Without one a privilege that the policy does
not allow is a mistake all the same, since privileges come before objects.  A role that has no name
breaks an invariant. -/
theorem Compiler.compile_completeness_grantToUser :
    (Node.grantToUser .all [.identifier "t"]).IsComplete ∧
      (compile {} {} (.grantToUser .all [.identifier "t"])).result =
        .error (.principalNotSupported (some .user) .role) ∧
      (Rejection.principalNotSupported (some .user) .role).category.isUserFacing ∧
      ¬ (Node.grantToUser .lock []).IsComplete ∧
      (∃ r, (compile {} {} (.grantToUser .lock [])).result = .error r ∧
        r = .privilegeNotAllowed .lock ∧ (Node.grantToUser .lock []).Mistake {} r) ∧
      ∃ r, (compile {} {} ⟨.word (.statement .dropRole), none, []⟩).result = .error r ∧
        r.category = .brokenInvariant := by
  have hcomplete : (Node.grantToUser .all [.identifier "t"]).IsComplete := by decide
  have hincomplete : ¬ (Node.grantToUser .lock []).IsComplete := by decide
  have hnameless : ¬ (Node.mk (.word (.statement .dropRole)) none []).IsComplete := by decide
  have hmistake : (Node.grantToUser .lock []).Mistake {} (.privilegeNotAllowed .lock) := by
    refine ⟨.grant, rfl, .request rfl (.here (.privilege rfl (.notAllowed rfl ?_)))⟩
    decide
  have hnone : ∀ r, ¬ (Node.mk (.word (.statement .dropRole)) none []).Mistake {} r := by
    rintro r ⟨_, ⟨⟩, hr⟩
    exact hr
  obtain ⟨huser, -⟩ := compile_completeness {} {} (.grantToUser .all [.identifier "t"])
  obtain ⟨-, hlock⟩ := compile_completeness {} {} (.grantToUser .lock [])
  obtain ⟨-, hbroken⟩ := compile_completeness {} {} ⟨.word (.statement .dropRole), none, []⟩
  obtain ⟨r, hr, hmet, -⟩ := hlock hincomplete
  obtain ⟨r', hr', -, hcategory⟩ := hbroken hnameless
  refine ⟨hcomplete, rfl, huser hcomplete _ rfl, hincomplete, ⟨r, hr, ?_, (hmet ⟨_, hmistake⟩).1⟩,
    r', hr', hcategory hnone⟩
  cases hr
  rfl

end AccessControl
