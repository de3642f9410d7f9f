/-!
# Text — sets of names

A set of names is kept as the list of its members in increasing order, compared character by
character by code point, so equal sets are equal lists.

**The list is strictly increasing** (`pairwise_nameSet`) **and has the given members**
(`mem_nameSet`).
-/

namespace AccessControl.Text

/-- A set with one more name. -/
def insertName (name : String) : List String → List String
  | [] => [name]
  | first :: rest =>
      if name < first then name :: first :: rest
      else if name = first then first :: rest
      else first :: insertName name rest

/-- The set of the given names. -/
def nameSet (names : List String) : List String :=
  names.foldr insertName []

@[simp] theorem mem_insertName {name x : String} {names : List String} :
    x ∈ insertName name names ↔ x = name ∨ x ∈ names := by
  induction names with
  | nil => simp [insertName]
  | cons first rest ih => grind [insertName]

@[simp] theorem mem_nameSet {names : List String} {x : String} :
    x ∈ nameSet names ↔ x ∈ names := by
  induction names with
  | nil => simp [nameSet]
  | cons name names ih =>
      rw [nameSet, List.foldr_cons, mem_insertName, ← nameSet, ih, List.mem_cons]

private theorem lt_of_not_lt_of_ne {s t : String} (h : ¬ s < t) (hne : s ≠ t) : t < s := by
  rcases Decidable.em (t < s) with h' | h'
  · exact h'
  · exact absurd (String.le_antisymm (String.not_lt.mp h') (String.not_lt.mp h)) hne

theorem pairwise_insertName {name : String} {names : List String}
    (h : names.Pairwise (· < ·)) : (insertName name names).Pairwise (· < ·) := by
  induction names with
  | nil => simp [insertName]
  | cons first rest ih =>
      rw [List.pairwise_cons] at h
      rw [insertName]
      split
      · rename_i hlt
        refine List.pairwise_cons.mpr ⟨fun x hx => ?_, List.pairwise_cons.mpr h⟩
        rcases List.mem_cons.mp hx with rfl | hx
        · exact hlt
        · exact String.lt_trans hlt (h.1 x hx)
      · rename_i hlt
        split
        · exact List.pairwise_cons.mpr h
        · rename_i hne
          refine List.pairwise_cons.mpr ⟨fun x hx => ?_, ih h.2⟩
          rcases mem_insertName.mp hx with rfl | hx
          · exact lt_of_not_lt_of_ne hlt hne
          · exact h.1 x hx

/-- **The list of a set is strictly increasing.** -/
theorem pairwise_nameSet (names : List String) : (nameSet names).Pairwise (· < ·) := by
  induction names with
  | nil => simp [nameSet]
  | cons name names ih => exact pairwise_insertName ih

end AccessControl.Text
