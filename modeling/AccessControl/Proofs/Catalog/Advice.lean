import AccessControl.Compiler.Targets

/-!
# Catalogs — advice

What a catalog says about an owner is advice (`Catalog.advice`): the answer to the question, and
nothing when there is no catalog or the question fails, for whatever reason.  Only tables and
databases are asked about.

**A question for an owner always ends, with the advice** (`lookupOwner_result`,
`Target.ownerOf_result`).  This is all that the result of a statement takes from a catalog.
-/

namespace AccessControl

namespace Catalog

/-- The answer to a question, and nothing without one. -/
def answer (catalog : Option Catalog) (kind : CatalogKind) (name : String) : Option String :=
  match catalog with
  | none => none
  | some catalog =>
      match (catalog.owner kind name).result with
      | .ok owner => owner
      | .error _ => none

/-- The owner that a catalog gives to an object, if objects of its kind have owners. -/
def advice (catalog : Option Catalog) : ObjectKind → String → Option String
  | .table, name => answer catalog .table name
  | .database, name => answer catalog .database name
  | .server, _ | .uri, _ => none

/-- **A question for an owner always ends, with the answer.** -/
theorem lookupOwner_result {ε : Type} (catalog : Option Catalog) (kind : ObjectKind)
    (name : String) :
    (lookupOwner (ε := ε) catalog kind name).result =
      .ok (answer catalog kind.catalogKind name) := by
  cases catalog with
  | none => rfl
  | some catalog =>
      rw [lookupOwner, answer]
      cases h : (catalog.owner kind.catalogKind name).result with
      | ok owner => rw [Attempt.recover_of_ok h]
      | error fault => rw [Attempt.recover_of_error h]; rfl

end Catalog

/-- **The owner of a target is the advice of the catalog.** -/
theorem Target.ownerOf_result (catalog : Option Catalog) (kind : ObjectKind) (name : String) :
    (ownerOf catalog kind name).result = .ok (Catalog.advice catalog kind name) := by
  cases kind with
  | table | database => exact Catalog.lookupOwner_result catalog _ name
  | server | uri => rfl

end AccessControl
