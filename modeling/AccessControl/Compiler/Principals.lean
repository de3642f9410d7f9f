import AccessControl.Attempt
import AccessControl.Statement.Parts

/-!
# Compilation — principals

A principal is a node whose tag tells the kind and whose first child tells the name.  A tag that
stands for no kind is no fault by itself: the statement that takes principals of one kind turns
the others down (`requireKind`).
-/

namespace AccessControl.Principal

/-- The principal of a node, noted once it is read. -/
def ofNode (n : Node) : Attempt Rejection Principal := do
  let named ← n.part 0
  let name ← named.name
  let principal : Principal := ⟨name, n.tag.principalKind?⟩
  Attempt.note (.record (.principal principal))
  pure principal

/-- The principals of a list. -/
def listOfNode (n : Node) : Attempt Rejection (List Principal) :=
  n.children.mapM ofNode

/-- The principals are of one kind; the first that is not is turned down. -/
def requireKind (required : PrincipalKind) (principals : List Principal) :
    Except Rejection Unit :=
  match principals.find? fun p => p.kind ≠ some required with
  | some p => .error (.principalNotSupported p.kind required)
  | none => .ok ()

theorem requireKind_ok_iff {required : PrincipalKind} {principals : List Principal} :
    requireKind required principals = .ok () ↔ ∀ p ∈ principals, p.kind = some required := by
  rw [requireKind]
  split
  · rename_i p h
    have := List.find?_some h
    have hp := List.mem_of_find?_eq_some h
    simp only [reduceCtorEq, false_iff, Classical.not_forall]
    exact ⟨p, hp, by simpa using this⟩
  · rename_i h
    simpa using h

end AccessControl.Principal
