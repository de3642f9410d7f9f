import AccessControl.Target

/-!
# Catalogs — faults

Why a catalog gives no answer.
-/

namespace AccessControl

/-- The cause of an unanswered question about an owner. -/
inductive Fault where
  /-- The catalog does not know the object. -/
  | missing (kind : CatalogKind) (name : String)
  /-- The catalog is out of order. -/
  | failed (reason : String)
deriving DecidableEq

/-- What went wrong. -/
def Fault.message : Fault → String
  | .missing kind name => kind.title ++ " not found: " ++ name
  | .failed reason => reason

end AccessControl
