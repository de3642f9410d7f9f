import AccessControl.Text.Identifier
import Mathlib.Algebra.Ring.Parity

/-!
# Text — joining undoes cutting

Whether a place of a text is between ticks is a matter of the number of ticks before it: between
ticks it is odd.

**Cutting finds the parts again that dots join** (`pieces_intercalate`) when each dot inside a part
is between ticks and every part but the last closes its ticks.  The proof goes along the text, and
what it keeps is on which side of a tick the text stands (`pieces_append`).  So a qualified name has
the names of the parts that make it up (`splitQualified_intercalate`), and the last of them is the
name without the others (`unqualified_intercalate`).
-/

namespace AccessControl.Text

/-- The text stands between ticks after these characters. -/
def insideAfter (inside : Bool) (cs : List Char) : Bool :=
  inside ^^ decide (Odd (cs.count tick))

@[simp] theorem insideAfter_nil (inside : Bool) : insideAfter inside [] = inside := by
  simp [insideAfter]

theorem insideAfter_cons (inside : Bool) (c : Char) (cs : List Char) :
    insideAfter inside (c :: cs) = insideAfter (inside ^^ (c == tick)) cs := by
  by_cases h : c = tick
  · by_cases ho : Odd (cs.count tick) <;> simp [insideAfter, h, Nat.odd_add_one, ho]
  · rw [insideAfter, insideAfter, List.count_cons_of_ne h, beq_false_of_ne h, Bool.xor_false]

theorem insideAfter_of_even {cs : List Char} (h : Even (cs.count tick)) :
    insideAfter false cs = false := by
  simpa [insideAfter] using h

theorem insideAfter_of_odd {cs : List Char} (h : Odd (cs.count tick)) :
    insideAfter false cs = true := by
  simpa [insideAfter] using h

/-- Every dot of the text is between ticks. -/
def DotsBetweenTicks (cs : List Char) : Prop :=
  ∀ i < cs.length, cs[i]? = some '.' → Odd ((cs.take i).count tick)

instance (cs : List Char) : Decidable (DotsBetweenTicks cs) :=
  inferInstanceAs (Decidable (∀ i < cs.length, _ → _))

/-- A text without a dot outside ticks is not cut, whatever follows it. -/
theorem pieces_append {inside : Bool} {p : List Char} (rest : List Char)
    (h : ∀ i < p.length, p[i]? = some '.' → insideAfter inside (p.take i) = true) :
    pieces inside (p ++ rest) = (pieces (insideAfter inside p) rest).modifyHead (p ++ ·) := by
  induction p generalizing inside with
  | nil =>
      rw [insideAfter_nil]
      exact (congrFun List.modifyHead_id _).symm
  | cons c p ih =>
      have hdot : ¬ (c = '.' ∧ inside = false) := by
        rintro ⟨rfl, rfl⟩
        exact absurd (h 0 (Nat.zero_lt_succ _) rfl) (by simp)
      have hrest : ∀ i < p.length, p[i]? = some '.' →
          insideAfter (inside ^^ (c == tick)) (p.take i) = true := by
        intro i hi hget
        have := h (i + 1) (Nat.succ_lt_succ hi) (by simpa using hget)
        rwa [List.take_succ_cons, insideAfter_cons] at this
      rw [List.cons_append, pieces, if_neg hdot, ih hrest, insideAfter_cons,
        List.modifyHead_modifyHead]
      rfl

/-- **Cutting finds the parts again that dots join.** -/
theorem pieces_intercalate {parts : List (List Char)} (hne : parts ≠ [])
    (hdots : ∀ p ∈ parts, DotsBetweenTicks p)
    (hticks : ∀ p ∈ parts.dropLast, Even (p.count tick)) :
    pieces false (['.'].intercalate parts) = parts := by
  induction parts with
  | nil => exact absurd rfl hne
  | cons p parts ih =>
      obtain ⟨hp, hparts⟩ := List.forall_mem_cons.mp hdots
      have hinside : ∀ i < p.length, p[i]? = some '.' → insideAfter false (p.take i) = true :=
        fun i hi hget => insideAfter_of_odd (hp i hi hget)
      cases parts with
      | nil =>
          have := pieces_append [] hinside
          simpa [pieces] using this
      | cons q parts =>
          obtain ⟨heven, hticks⟩ := List.forall_mem_cons.mp hticks
          rw [List.intercalate_cons_cons, List.append_assoc, pieces_append _ hinside,
            insideAfter_of_even heven]
          rw [List.singleton_append, pieces, if_pos ⟨rfl, rfl⟩,
            ih (List.cons_ne_nil q parts) hparts hticks]
          simp

/-! ### Qualified names -/

/-- The texts are the parts of a qualified name as they stand: there is a part, each dot in a part
is between ticks, and each part but the last closes its ticks. -/
structure AreParts (parts : List String) : Prop where
  ne_nil : parts ≠ []
  dots : ∀ part ∈ parts, DotsBetweenTicks part.toList
  ticks : ∀ part ∈ parts.dropLast, Even (part.toList.count tick)

/-- The parts are the raw pieces of the qualified name that they make up. -/
theorem pieces_intercalate_of_areParts {parts : List String} (h : AreParts parts) :
    pieces false (".".intercalate parts).toList = parts.map String.toList := by
  rw [String.toList_intercalate]
  refine pieces_intercalate (by simpa using h.ne_nil) (List.forall_mem_map.mpr h.dots) ?_
  rw [← List.map_dropLast]
  exact List.forall_mem_map.mpr h.ticks

/-- The names of a qualified name are those of its parts. -/
theorem splitQualified_intercalate {parts : List String} (h : AreParts parts) :
    splitQualified (".".intercalate parts) = parts.map unquote := by
  rw [splitQualified, pieces_intercalate_of_areParts h, List.map_map]
  rfl

theorem unqualified_intercalate {parts : List String} (h : AreParts parts) :
    unqualified (".".intercalate parts) = unquote (parts.getLast h.ne_nil) := by
  simp only [unqualified, splitQualified_intercalate h, List.getLast_map]

/-- A text without a dot has no part but itself. -/
theorem unqualified_of_dot_not_mem {text : String} (h : '.' ∉ text.toList) :
    unqualified text = unquote text := by
  have hdots : DotsBetweenTicks text.toList := by
    intro i _ hget
    exact absurd (List.mem_of_getElem? hget) h
  have hparts : AreParts [text] := ⟨List.cons_ne_nil _ _, by simpa using hdots, nofun⟩
  simpa using unqualified_intercalate hparts

end AccessControl.Text
