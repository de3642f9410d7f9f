import AccessControl.Text.CaseTable

/-!
# Text — upper-casing

Upper-casing replaces each character by its capital form, which may be a sequence, and leaves
characters without one alone.  It looks at one character at a time.
-/

namespace AccessControl.Text

/-- The capital form of a character, as code points. -/
def capitalCodes (code : Nat) : List Nat :=
  match capitalSequences.lookup code with
  | some codes => codes
  | none => [(capitalRuns.findSome? (·.find? code)).getD code]

/-- The capital form of a character. -/
def capital (c : Char) : List Char :=
  (capitalCodes c.toNat).map Char.ofNat

/-- The text in capitals. -/
def upper (text : String) : String :=
  String.ofList (text.toList.flatMap capital)

theorem toList_upper (text : String) : (upper text).toList = text.toList.flatMap capital := by
  simp [upper]

end AccessControl.Text
