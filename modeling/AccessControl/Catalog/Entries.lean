import AccessControl.Catalog.Basic

/-!
# Catalogs — entries kept by hand

A host can keep the owners itself, as entries for tables and for databases.  `find?` is the view
of the entries, and each change is described by it (`find?_set`, `find?_unset`).
-/

namespace AccessControl

/-- Owners by name.  An entry without an owner says that the object has none. -/
structure Entries where
  tables : List (String × Option String) := []
  databases : List (String × Option String) := []
deriving DecidableEq

namespace Entries

/-- The entries of a kind. -/
def ofKind (entries : Entries) : CatalogKind → List (String × Option String)
  | .table => entries.tables
  | .database => entries.databases

/-- The entry for an object. -/
def find? (entries : Entries) (kind : CatalogKind) (name : String) : Option (Option String) :=
  (entries.ofKind kind).lookup name

/-- The entries with those of one kind changed. -/
def modify (entries : Entries) (kind : CatalogKind)
    (f : List (String × Option String) → List (String × Option String)) : Entries :=
  match kind with
  | .table => { entries with tables := f entries.tables }
  | .database => { entries with databases := f entries.databases }

/-- The entries without the one for an object. -/
def unset (entries : Entries) (kind : CatalogKind) (name : String) : Entries :=
  entries.modify kind fun list => list.filter fun entry => entry.1 ≠ name

/-- The entries with a new one for an object, in place of any other. -/
def set (entries : Entries) (kind : CatalogKind) (name : String) (owner : Option String) :
    Entries :=
  (entries.unset kind name).modify kind fun list => (name, owner) :: list

theorem ofKind_modify (entries : Entries) (kind kind' : CatalogKind)
    (f : List (String × Option String) → List (String × Option String)) :
    (entries.modify kind f).ofKind kind' =
      if kind' = kind then f (entries.ofKind kind) else entries.ofKind kind' := by
  cases kind <;> cases kind' <;> rfl

private theorem lookup_filter_ne (list : List (String × Option String)) (name name' : String) :
    (list.filter fun entry => entry.1 ≠ name).lookup name' =
      if name' = name then none else list.lookup name' := by
  induction list with
  | nil => simp
  | cons entry list ih =>
      obtain ⟨key, owner⟩ := entry
      grind

theorem find?_unset (entries : Entries) (kind kind' : CatalogKind) (name name' : String) :
    (entries.unset kind name).find? kind' name' =
      if kind' = kind ∧ name' = name then none else entries.find? kind' name' := by
  rw [find?, unset, ofKind_modify]
  by_cases hk : kind' = kind
  · subst hk; simp only [if_true, lookup_filter_ne, find?, true_and]
  · simp [hk, find?]

theorem find?_set (entries : Entries) (kind kind' : CatalogKind) (name name' : String)
    (owner : Option String) :
    (entries.set kind name owner).find? kind' name' =
      if kind' = kind ∧ name' = name then some owner else entries.find? kind' name' := by
  have h := find?_unset entries kind kind' name name'
  rw [find?] at h
  rw [find?, set, ofKind_modify]
  by_cases hk : kind' = kind
  · subst hk
    by_cases hn : name' = name
    · simp [hn]
    · simp [hn, List.lookup_cons, beq_false_of_ne hn, h]
  · simp [hk, h]

/-- The catalog that answers from the entries. -/
def catalog (entries : Entries) : Catalog where
  owner kind name := do
    Attempt.note (.call (.ask kind name))
    match entries.find? kind name with
    | some owner => pure owner
    | none => Attempt.fail (.missing kind name)

end Entries

/-- The catalog that is asked in vain, for one reason. -/
def Catalog.broken (reason : String) : Catalog where
  owner kind name := do
    Attempt.note (.call (.ask kind name))
    Attempt.fail (.failed reason)

end AccessControl
