import AccessControl.Proofs.Catalog.Owners
import AccessControl.Proofs.Reading.Paired

/-!
# Verdicts — who issues a statement is recorded and not looked at

A statement is issued by a user, or by nobody, and its rows go somewhere.  `Operation.issuedIn` is
the operation as it is when the statement is issued in other circumstances: another grantor in
grants of privileges and in memberships, another result file in questions, and nothing else.

**A statement issued in other circumstances is compiled to the operation issued in them**
(`Compiler.compile_eq_map_issuedIn`), with the same remarks and the same questions to the catalog
on the way, or it is turned down for the same cause.  The readers hand the circumstances on until
the operation is put together, so each of them commutes with `issuedIn`.
-/

namespace AccessControl

/-- The operation as it is when its statement is issued in these circumstances. -/
def Operation.issuedIn (issue : Issue) : Operation → Operation
  | .grant g => .grant { g with grantor := issue.session.bind Session.user }
  | .grantRole m => .grantRole { m with grantor := issue.session.bind Session.user }
  | .revokeRole m => .revokeRole { m with grantor := issue.session.bind Session.user }
  | .showGrant _ principal target => .showGrant issue.resultFile principal target
  | .showRoleGrant _ principal => .showRoleGrant issue.resultFile principal
  | .showRoles _ => .showRoles issue.resultFile
  | .showCurrentRole _ => .showCurrentRole issue.resultFile
  | .showRolePrincipals _ role => .showRolePrincipals issue.resultFile role
  | .createRole role => .createRole role
  | .dropRole role => .dropRole role
  | .setRole role => .setRole role
  | .revoke r => .revoke r

variable {ε α β : Type}

/-- Noting an error does not look at the value. -/
theorem Attempt.noteError_map (f : α → β) (x : Attempt ε α) (entry : ε → Entry) :
    (f <$> x).noteError entry = f <$> x.noteError entry := by
  obtain ⟨result, journal⟩ := x
  cases result <;> rfl

theorem Attempt.after_map (f : α → β) (journal : List Entry) (x : Attempt ε α) :
    (f <$> x).after journal = f <$> x.after journal := by
  rw [← bind_pure_comp, ← bind_pure_comp, bind_after]

/-! ### Readers -/

theorem PrivilegeGrant.ofNode_issuedIn (policy : Policy) (catalog : Option Catalog)
    (issue issue' : Issue) (n : Node) :
    ofNode policy catalog issue' n =
      (fun g => { g with grantor := issue'.session.bind Session.user }) <$>
        ofNode policy catalog issue n := by
  simp only [ofNode, map_bind]
  refine bind_congr fun _ => bind_congr fun _ => bind_congr fun _ => bind_congr fun _ =>
    bind_congr fun clauses => ?_
  cases Clause.lastTarget? clauses with
  | none => rfl
  | some target =>
      simp only [map_bind, map_pure]
      rfl

theorem Membership.ofNode_issuedIn (issue issue' : Issue) (n : Node) :
    ofNode issue' n =
      (fun m => { m with grantor := issue'.session.bind Session.user }) <$> ofNode issue n := by
  simp only [ofNode, map_bind, map_pure]
  rfl

namespace Operation

theorem showGrantOfNode_issuedIn (catalog : Option Catalog) (issue issue' : Issue) (n : Node) :
    showGrantOfNode catalog issue' n = issuedIn issue' <$> showGrantOfNode catalog issue n := by
  simp only [showGrantOfNode, map_bind, map_pure]
  rfl

theorem showRoleGrantOfNode_issuedIn (issue issue' : Issue) (n : Node) :
    showRoleGrantOfNode issue' n = issuedIn issue' <$> showRoleGrantOfNode issue n := by
  simp only [showRoleGrantOfNode, map_bind, map_pure]
  rfl

theorem showRolePrincipalsOfNode_issuedIn (issue issue' : Issue) (n : Node) :
    showRolePrincipalsOfNode issue' n =
      issuedIn issue' <$> showRolePrincipalsOfNode issue n := by
  unfold showRolePrincipalsOfNode
  split
  · rename_i role _
    cases role.name <;> rfl
  · rfl

end Operation

/-! ### Statements -/

namespace Compiler

theorem build_issuedIn (c : Compiler) (issue issue' : Issue) (n : Node) (kind : StatementKind) :
    c.build issue' n kind = Operation.issuedIn issue' <$> c.build issue n kind := by
  cases kind with
  | grant =>
      simp only [build, PrivilegeGrant.ofNode_issuedIn c.policy c.catalog issue issue',
        Functor.map_map]
      rfl
  | grantRole | revokeRole =>
      simp only [build, Membership.ofNode_issuedIn issue issue', Functor.map_map]
      rfl
  | createRole | dropRole | setRole | revoke =>
      simp only [build, Functor.map_map]
      rfl
  | showGrant => exact Operation.showGrantOfNode_issuedIn c.catalog issue issue' n
  | showRoleGrant => exact Operation.showRoleGrantOfNode_issuedIn issue issue' n
  | showRoles | showCurrentRole => rfl
  | showRolePrincipals =>
      rw [build, build, Operation.showRolePrincipalsOfNode_issuedIn issue issue']
      cases Operation.showRolePrincipalsOfNode issue n <;> rfl

/-- **A statement issued in other circumstances is compiled to the operation issued in them.** -/
theorem compile_eq_map_issuedIn (c : Compiler) (issue issue' : Issue) (n : Node) :
    c.compile issue' n = Operation.issuedIn issue' <$> c.compile issue n := by
  rw [compile, compile, ← Attempt.noteError_map, dispatch, dispatch]
  cases n.tag.statement? with
  | none => rfl
  | some kind =>
      dsimp only
      rw [build_issuedIn c issue issue', Attempt.after_map]

/-- **Who issues a statement is recorded and not looked at.**  In any two circumstances a tree is
compiled with the same journal: the same remarks and the same questions to the catalog.  It is
rejected in both for the same cause, or accepted in both, and the operations differ in what
`issuedIn` sets: the grantor of a grant or a membership is the user of the session, and the result
file of a question is the one that was given.  Other operations are the same. -/
theorem compile_circumstances (c : Compiler) (issue issue' : Issue) (n : Node) :
    (c.compile issue' n).journal = (c.compile issue n).journal ∧
    (∀ r, (c.compile issue' n).result = .error r ↔ (c.compile issue n).result = .error r) ∧
    ∀ op, (c.compile issue n).result = .ok op →
      op = op.issuedIn issue ∧
      (c.compile issue' n).result = .ok (op.issuedIn issue') ∧
      (op.statementKind ∈ [.revoke, .createRole, .dropRole, .setRole] →
        (c.compile issue' n).result = .ok op) := by
  have hresult : ∀ issue', (c.compile issue' n).result =
      (c.compile issue n).result.map (Operation.issuedIn issue') := fun issue' => by
    rw [compile_eq_map_issuedIn c issue issue', Attempt.result_map]
    rfl
  refine ⟨?journal, fun r => ?error, fun op hop => ?ok⟩
  case journal => rw [compile_eq_map_issuedIn c issue issue', Attempt.journal_map]
  case error =>
    rw [hresult issue']
    cases (c.compile issue n).result <;> simp [Except.map]
  case ok =>
    have hissued : (c.compile issue' n).result = .ok (op.issuedIn issue') := by
      rw [hresult issue', hop]
      rfl
    refine ⟨?_, hissued, fun hkind => ?_⟩
    · -- a statement is issued in its own circumstances
      have hown := hresult issue
      rw [hop] at hown
      exact Except.ok.inj hown
    · rw [hissued]
      cases op with
      | revoke | createRole | dropRole | setRole => rfl
      | _ => simp [Operation.statementKind] at hkind

/-- The grant of a table by nobody and by a user, and a question by a session of nobody. -/
theorem compile_circumstances_grantOnTable :
    (compile {} {} grantOnTable).result = .ok (grantOfTable none) ∧
      (compile {} { session := some { user := some "ann" } } grantOnTable).result =
        .ok (.grant ⟨[⟨.all, []⟩], [⟨"r", some .role⟩], ⟨"t", .table, none, [], none⟩,
          some "ann", .user, false⟩) ∧
      (compile {} { session := some {}, resultFile := some "f" }
        { tag := .word (.statement .showRoles) }).result = .ok (.showRoles (some "f")) := by
  have hgrant : (compile {} {} grantOnTable).result = .ok (grantOfTable none) := rfl
  have hshow : (compile {} {} { tag := .word (.statement .showRoles) }).result =
      .ok (.showRoles none) := rfl
  obtain ⟨-, -, hann⟩ :=
    compile_circumstances {} {} { session := some { user := some "ann" } } grantOnTable
  obtain ⟨-, -, hfile⟩ := compile_circumstances {} {}
    { session := some {}, resultFile := some "f" } { tag := .word (.statement .showRoles) }
  exact ⟨hgrant, (hann _ hgrant).2.1, (hfile _ hshow).2.1⟩

end Compiler

end AccessControl
