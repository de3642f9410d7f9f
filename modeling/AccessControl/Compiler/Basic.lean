import AccessControl.Compiler.Grants
import AccessControl.Compiler.Memberships
import AccessControl.Compiler.Questions

/-!
# Compilation — statements

A compiler turns a statement tree into the operation that the statement comes to, within the
limits of a policy and with the advice of a catalog.  It keeps nothing from one statement to the
next.  Here is told what a statement comes to; what is run step by step to get there stands under
`Execution`, and comes to the same (`Execution.build_eq`, `Execution.compile_of_isWritable`).

**A statement comes to an operation of its kind** (`statementKind_of_build`), and
**noting changes no verdict** (`compile_result`): the result of `compile` is that of `build` for
the kind of the root.
-/

namespace AccessControl

/-- What statements are compiled against. -/
structure Compiler where
  policy : Policy := {}
  catalog : Option Catalog := none

/-- The role that a statement creates or drops. -/
def Policy.roleOfNode (policy : Policy) (n : Node) : Except Rejection String := do
  let named ← n.part 0
  let role ← named.name
  if policy.isReserved role then .error (.reservedRole policy.reservedNames) else .ok role

namespace Compiler

/-- The operation of a tree that is read as a statement of some kind, whatever the tag of its
root. -/
def build (c : Compiler) (issue : Issue) (n : Node) :
    StatementKind → Attempt Rejection Operation
  | .createRole => .createRole <$> Attempt.ofExcept (c.policy.roleOfNode n)
  | .dropRole => .dropRole <$> Attempt.ofExcept (c.policy.roleOfNode n)
  | .grant => .grant <$> PrivilegeGrant.ofNode c.policy c.catalog issue n
  | .revoke => .revoke <$> PrivilegeRevocation.ofNode c.policy c.catalog n
  | .grantRole => .grantRole <$> Membership.ofNode issue n
  | .revokeRole => .revokeRole <$> Membership.ofNode issue n
  | .setRole => .setRole <$> Attempt.ofExcept (n.part 0 >>= Node.name)
  | .showGrant => Operation.showGrantOfNode c.catalog issue n
  | .showRoleGrant => Operation.showRoleGrantOfNode issue n
  | .showRoles => pure (.showRoles issue.resultFile)
  | .showCurrentRole => pure (.showCurrentRole issue.resultFile)
  | .showRolePrincipals => Attempt.ofExcept (Operation.showRolePrincipalsOfNode issue n)

/-- **A statement comes to an operation of its kind.** -/
theorem statementKind_of_build {c : Compiler} {issue : Issue} {n : Node} {kind : StatementKind}
    {op : Operation} (h : (c.build issue n kind).result = .ok op) : op.statementKind = kind := by
  cases kind <;>
    simp only [build, Attempt.map_result_ok_iff, Operation.showGrantOfNode,
      Operation.showRoleGrantOfNode, Attempt.bind_result_ok_iff, Attempt.result_pure,
      Attempt.result_ofExcept, Except.ok.injEq] at h
  case showRolePrincipals =>
    unfold Operation.showRolePrincipalsOfNode at h
    split at h
    · rename_i role _
      cases hr : role.name <;> simp [hr, Except.map] at h
      exact h ▸ rfl
    · cases h
  all_goals grind [Operation.statementKind]

/-- The operation of a statement, read as its root says. -/
def dispatch (c : Compiler) (issue : Issue) (n : Node) : Attempt Rejection Operation :=
  match n.tag.statement? with
  | none => Attempt.fail (.unknownStatement n.tag)
  | some kind => (c.build issue n kind).after [.record (.compiling n.tag)]

/-- The operation of a statement.  A rejection is the last thing in the journal. -/
def compile (c : Compiler) (issue : Issue) (n : Node) : Attempt Rejection Operation :=
  (c.dispatch issue n).noteError fun rejection => .record (.refused n.tag rejection)

/-- **Noting changes no verdict.** -/
theorem compile_result (c : Compiler) (issue : Issue) (n : Node) :
    (c.compile issue n).result =
      match n.tag.statement? with
      | none => .error (.unknownStatement n.tag)
      | some kind => (c.build issue n kind).result := by
  rw [compile, Attempt.result_noteError, dispatch]
  split <;> rfl

end Compiler

/-! ### Verdicts -/

/-- What becomes of a statement. -/
inductive Verdict where
  | accepted (operation : Operation)
  | rejected (rejection : Rejection)
deriving DecidableEq

/-- The verdict that a result amounts to. -/
def Verdict.ofResult : Except Rejection Operation → Verdict
  | .ok op => .accepted op
  | .error r => .rejected r

/-- The accepted operation. -/
def Verdict.operation? : Verdict → Option Operation
  | .accepted op => some op
  | .rejected _ => none

end AccessControl
