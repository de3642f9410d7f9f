import AccessControl.Attempt

/-!
# Catalogs

A catalog answers questions about owners.  Its answers are advice: `lookupOwner` puts a question
and takes no answer, whatever the reason, for an unknown owner, so it always succeeds
(`lookupOwner_ok`).
-/

namespace AccessControl

/-- Something that can be asked who owns an object.  An object may have no owner. -/
structure Catalog where
  owner : CatalogKind → String → Attempt Fault (Option String)

namespace Catalog

variable {ε : Type}

/-- The owner of a target, as far as a catalog can tell.  A fault is noted and forgotten. -/
def lookupOwner (catalog : Option Catalog) (kind : ObjectKind) (name : String) :
    Attempt ε (Option String) :=
  match catalog with
  | none => pure none
  | some catalog =>
      (catalog.owner kind.catalogKind name).recover fun fault =>
        ⟨.ok none, [.record (.ownerUnresolved kind name fault)]⟩

/-- A question about an owner never fails. -/
theorem lookupOwner_ok (catalog : Option Catalog) (kind : ObjectKind) (name : String) :
    ∃ owner, (lookupOwner (ε := ε) catalog kind name).result = .ok owner := by
  cases catalog with
  | none => exact ⟨none, rfl⟩
  | some catalog =>
      rw [lookupOwner]
      cases h : (catalog.owner kind.catalogKind name).result with
      | ok owner => exact ⟨owner, by rw [Attempt.recover_of_ok h]⟩
      | error fault => exact ⟨none, by rw [Attempt.recover_of_error h]; rfl⟩

end Catalog

end AccessControl
