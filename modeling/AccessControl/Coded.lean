/-!
# Coded vocabularies

The words of statements, principals, privileges and targets come from closed vocabularies.  Each
word has a label and a number code, and the vocabulary lists its words once, in the order of
their codes.  No two words have the same code, so a code is read as the one word that has it.
-/

namespace AccessControl

/-- A closed vocabulary. -/
class Coded (α : Type) where
  /-- The name of the vocabulary as messages show it. -/
  family : String
  /-- The words, in order. -/
  members : List α
  label : α → String
  code : α → Nat
  mem_members : ∀ a, a ∈ members
  nodup_codes : (members.map code).Nodup

namespace Coded

variable {α : Type} [Coded α]

/-- The word with its vocabulary, such as `Family.LABEL`. -/
def qualifiedLabel (a : α) : String :=
  family α ++ "." ++ label a

/-- The word with its vocabulary and code, such as `<Family.LABEL: 3>`. -/
def display (a : α) : String :=
  "<" ++ qualifiedLabel a ++ ": " ++ toString (code a) ++ ">"

/-- A number that is the code of no word in the named vocabulary. -/
structure UnknownCode where
  family : String
  code : Int
deriving DecidableEq

/-- What a reader of the number is told. -/
def UnknownCode.message (e : UnknownCode) : String :=
  toString e.code ++ " is not a valid " ++ e.family

/-- The word with a code. -/
def ofCode? (n : Int) : Option α :=
  members.find? fun a => (code a : Int) = n

/-- The word with a code, or the complaint that there is none. -/
def ofCode (n : Int) : Except UnknownCode α :=
  match ofCode? n with
  | some a => .ok a
  | none => .error ⟨family α, n⟩

/-- The word with a label. -/
def ofLabel? (s : String) : Option α :=
  members.find? fun a => label a = s

end Coded

end AccessControl
