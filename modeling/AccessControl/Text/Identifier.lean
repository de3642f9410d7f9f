/-!
# Text — quoted identifiers and qualified names

A name that is not a plain word stands between two ticks.  A qualified name is a sequence of
names joined by dots, and a dot between ticks belongs to the name around it.

**Cutting loses nothing** (`intercalate_pieces`): the raw pieces of a text, joined by dots, are
the text.
-/

namespace AccessControl.Text

/-- The mark on both sides of a quoted name. -/
def tick : Char := '\x60'

/-! ### One name -/

/-- The characters between the two ticks of a quoted name, and any other text as it is.  A single
tick is no quoted name. -/
def stripTicks : List Char → List Char
  | [] => []
  | c :: rest => if c = tick ∧ rest.getLast? = some tick then rest.dropLast else c :: rest

/-- The name that a text stands for. -/
def unquote (text : String) : String :=
  String.ofList (stripTicks text.toList)

theorem stripTicks_quoted (cs : List Char) : stripTicks (tick :: cs ++ [tick]) = cs := by
  simp [stripTicks]

theorem stripTicks_of_not_mem {cs : List Char} (h : tick ∉ cs) : stripTicks cs = cs := by
  cases cs with
  | nil => rfl
  | cons c rest =>
      have hc : c ≠ tick := fun e => h (e ▸ List.mem_cons_self)
      simp [stripTicks, hc]

/-- A name between ticks. -/
def quote (name : String) : String :=
  String.ofList (tick :: name.toList ++ [tick])

theorem unquote_quote (name : String) : unquote (quote name) = name := by
  rw [unquote, quote, String.toList_ofList, stripTicks_quoted, String.ofList_toList]

/-- A text without ticks is the name itself. -/
theorem unquote_of_tick_not_mem {text : String} (h : tick ∉ text.toList) : unquote text = text := by
  rw [unquote, stripTicks_of_not_mem h, String.ofList_toList]

/-- Ticks around a text bring no dot into it. -/
theorem dot_not_mem_quote {text : String} (h : '.' ∉ text.toList) : '.' ∉ (quote text).toList := by
  have htick : '.' ≠ tick := by decide
  simp [quote, htick, h]

/-- The text without quote marks. -/
def withoutQuotes (text : String) : String :=
  String.ofList (text.toList.filter fun c => c ≠ '\x27' ∧ c ≠ '\x22')

theorem mem_withoutQuotes {c : Char} {text : String} :
    c ∈ (withoutQuotes text).toList ↔ c ∈ text.toList ∧ c ≠ '\x27' ∧ c ≠ '\x22' := by
  simp [withoutQuotes]

/-- A text without quote marks loses none. -/
theorem withoutQuotes_of_not_mem {text : String}
    (h : '\x27' ∉ text.toList ∧ '\x22' ∉ text.toList) : withoutQuotes text = text := by
  have hfilter : text.toList.filter (fun c => c ≠ '\x27' ∧ c ≠ '\x22') = text.toList := by
    rw [List.filter_eq_self]
    intro c hc
    have h₁ : c ≠ '\x27' := fun e => h.1 (e ▸ hc)
    have h₂ : c ≠ '\x22' := fun e => h.2 (e ▸ hc)
    simp [h₁, h₂]
  rw [withoutQuotes, hfilter, String.ofList_toList]

/-! ### A qualified name -/

/-- The raw pieces of a text, cut at the dots outside ticks; `inside` says whether the text
starts between ticks. -/
def pieces (inside : Bool) : List Char → List (List Char)
  | [] => [[]]
  | c :: rest =>
      if c = '.' ∧ inside = false then [] :: pieces false rest
      else (pieces (inside ^^ (c == tick)) rest).modifyHead (c :: ·)

theorem pieces_ne_nil (inside : Bool) (cs : List Char) : pieces inside cs ≠ [] := by
  induction cs generalizing inside with
  | nil => simp [pieces]
  | cons c rest ih =>
      rw [pieces]
      split
      · exact List.cons_ne_nil _ _
      · cases h : pieces (inside ^^ (c == tick)) rest with
        | nil => exact absurd h (ih _)
        | cons p ps => exact List.cons_ne_nil _ _

private theorem intercalate_modifyHead (c : Char) {ps : List (List Char)} (h : ps ≠ []) :
    ['.'].intercalate (ps.modifyHead (c :: ·)) = c :: ['.'].intercalate ps := by
  match ps with
  | [] => exact absurd rfl h
  | [p] => simp
  | p :: q :: ps => simp [List.intercalate_cons_cons]

/-- **Cutting loses nothing.** -/
theorem intercalate_pieces (inside : Bool) (cs : List Char) :
    ['.'].intercalate (pieces inside cs) = cs := by
  induction cs generalizing inside with
  | nil => simp [pieces]
  | cons c rest ih =>
      rw [pieces]
      split
      · rename_i h
        cases hp : pieces false rest with
        | nil => exact absurd hp (pieces_ne_nil _ _)
        | cons p ps =>
            rw [List.intercalate_cons_cons, ← hp, ih, h.1]
            rfl
      · rw [intercalate_modifyHead c (pieces_ne_nil _ _), ih]

/-- The names that a qualified name joins. -/
def splitQualified (text : String) : List String :=
  (pieces false text.toList).map fun piece => String.ofList (stripTicks piece)

theorem splitQualified_ne_nil (text : String) : splitQualified text ≠ [] := by
  simp [splitQualified, pieces_ne_nil]

/-- The name without the names that qualify it. -/
def unqualified (text : String) : String :=
  (splitQualified text).getLast (splitQualified_ne_nil text)

end AccessControl.Text
