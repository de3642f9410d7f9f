import AccessControl.Proofs.Text.Pieces
import Mathlib.Data.List.Forall2

/-!
# Text — where a qualified name is cut

A dot divides a qualified name when it stands outside ticks, that is, when the number of ticks
before it is even (`Text.IsCut`).  Nothing is asked of the text: its last tick need not be closed,
ticks can stand in the middle of a part, and parts can be empty.

**A text has one list of raw pieces, and they meet at these dots** (`splitQualified_exact`).  The
reader goes along the text and turns over at each tick; what it keeps is that no piece so far has a
dot outside ticks and that each of them but the last ends outside ticks (`ArePieces`), and this
leaves one way only to take the text apart (`rawPieces_intercalate`).  So **names that are written
one by one and joined by dots are found again** (`splitQualified_written`).
-/

namespace AccessControl.Text

/-! ### Dots outside ticks -/

/-- There is a dot at the position, and it stands outside ticks. -/
def IsCut (cs : List Char) (i : ℕ) : Prop :=
  cs[i]? = some '.' ∧ Even ((cs.take i).count tick)

instance (cs : List Char) (i : ℕ) : Decidable (IsCut cs i) :=
  inferInstanceAs (Decidable (_ ∧ _))

/-- The positions of the dots outside ticks. -/
def cuts (cs : List Char) : List ℕ :=
  (List.range cs.length).filter fun i => IsCut cs i

/-- The positions of the dots that join a row of parts. -/
def joints : List (List Char) → List ℕ
  | [] | [_] => []
  | p :: q :: ps => p.length :: (joints (q :: ps)).map (p.length + 1 + ·)

theorem length_joints {parts : List (List Char)} (h : parts ≠ []) :
    parts.length = (joints parts).length + 1 := by
  induction parts with
  | nil => exact absurd rfl h
  | cons p ps ih =>
      cases ps with
      | nil => rfl
      | cons q ps =>
          rw [List.length_cons, ih (List.cons_ne_nil q ps), joints, List.length_cons,
            List.length_map]

theorem isCut_append_left {p : List Char} {i : ℕ} (h : i < p.length) (q : List Char) :
    IsCut (p ++ q) i ↔ IsCut p i := by
  rw [IsCut, IsCut, List.getElem?_append_left h, List.take_append_of_le_length (Nat.le_of_lt h)]

/-- After a closed part the ticks are counted anew. -/
theorem isCut_append_right {p : List Char} (h : Even (p.count tick)) (q : List Char) (i : ℕ) :
    IsCut (p ++ q) (p.length + i) ↔ IsCut q i := by
  rw [IsCut, IsCut, List.getElem?_append_right (Nat.le_add_right _ _), Nat.add_sub_cancel_left,
    List.take_length_add_append, List.count_append, Nat.even_add, iff_true_left h]

theorem cuts_append {p : List Char} (h : Even (p.count tick)) (q : List Char) :
    cuts (p ++ q) = cuts p ++ (cuts q).map (p.length + ·) := by
  rw [cuts, List.length_append, List.range_add, List.filter_append, List.filter_map]
  congr 1
  · refine List.filter_congr fun i hi => decide_eq_decide.mpr ?_
    exact isCut_append_left (List.mem_range.mp hi) q
  · refine congrArg _ (List.filter_congr fun i _ => decide_eq_decide.mpr ?_)
    exact isCut_append_right h q i

theorem cuts_eq_nil_iff {cs : List Char} : cuts cs = [] ↔ DotsBetweenTicks cs := by
  rw [cuts, List.filter_eq_nil_iff]
  refine forall_congr' fun i => ?_
  rw [List.mem_range, decide_eq_true_iff, IsCut, not_and, Nat.not_even_iff_odd]

/-- **The dots that join parts are the dots outside ticks** when each dot inside a part is between
ticks and every part but the last closes its ticks. -/
theorem cuts_intercalate {parts : List (List Char)} (hdots : ∀ p ∈ parts, DotsBetweenTicks p)
    (hticks : ∀ p ∈ parts.dropLast, Even (p.count tick)) :
    cuts (['.'].intercalate parts) = joints parts := by
  induction parts with
  | nil => rfl
  | cons p parts ih =>
      obtain ⟨hp, hparts⟩ := List.forall_mem_cons.mp hdots
      cases parts with
      | nil => simpa [joints] using cuts_eq_nil_iff.mpr hp
      | cons q parts =>
          obtain ⟨heven, hticks⟩ := List.forall_mem_cons.mp hticks
          have hdot : Even ((p ++ ['.']).count tick) := by
            rwa [List.count_append, List.count_eq_zero_of_not_mem (by decide : tick ∉ ['.'])]
          have hcut : cuts (p ++ ['.']) = [p.length] := by
            rw [cuts_append heven, cuts_eq_nil_iff.mpr hp]
            rfl
          rw [List.intercalate_cons_cons, cuts_append hdot, hcut, ih hparts hticks,
            List.length_append, joints]
          rfl

/-! ### Raw pieces -/

/-- No dot of the piece is outside ticks; `inside` says whether it begins between ticks. -/
def IsUncut (inside : Bool) (p : List Char) : Prop :=
  ∀ i < p.length, p[i]? = some '.' → insideAfter inside (p.take i) = true

theorem IsUncut.nil (inside : Bool) : IsUncut inside [] :=
  fun _ h => absurd h (Nat.not_lt_zero _)

theorem IsUncut.cons {inside : Bool} {c : Char} {p : List Char} (hc : ¬ (c = '.' ∧ inside = false))
    (hp : IsUncut (inside ^^ (c == tick)) p) : IsUncut inside (c :: p) := by
  intro i hi hget
  cases i with
  | zero =>
      have hdot : c = '.' := by simpa using hget
      simpa [hdot] using hc
  | succ i =>
      rw [List.take_succ_cons, insideAfter_cons]
      exact hp i (Nat.lt_of_succ_lt_succ hi) (by simpa using hget)

theorem even_of_insideAfter {cs : List Char} (h : insideAfter false cs = false) :
    Even (cs.count tick) := by
  simpa [insideAfter] using h

theorem IsUncut.dotsBetweenTicks {p : List Char} (h : IsUncut false p) : DotsBetweenTicks p := by
  intro i hi hget
  simpa [insideAfter] using h i hi hget

/-- The pieces of a text that begins on the side of a tick that is told.  No piece has a dot outside
ticks, and each but the last ends outside ticks, where the next one begins. -/
inductive ArePieces : Bool → List (List Char) → Prop where
  | last {inside : Bool} {p : List Char} : IsUncut inside p → ArePieces inside [p]
  | cons {inside : Bool} {p : List Char} {ps : List (List Char)} : IsUncut inside p →
      insideAfter inside p = false → ArePieces false ps → ArePieces inside (p :: ps)

namespace ArePieces

variable {inside : Bool} {ps : List (List Char)}

/-- A character that does not cut goes to the first piece. -/
theorem modifyHead {c : Char} (hc : ¬ (c = '.' ∧ inside = false))
    (h : ArePieces (inside ^^ (c == tick)) ps) : ArePieces inside (ps.modifyHead (c :: ·)) := by
  cases h with
  | last hp => exact .last (hp.cons hc)
  | cons hp hend hps => exact .cons (hp.cons hc) (by rw [insideAfter_cons, hend]) hps

theorem dots (h : ArePieces false ps) : ∀ p ∈ ps, DotsBetweenTicks p := by
  generalize hinside : false = inside at h
  induction h with
  | last hp =>
      subst hinside
      exact List.forall_mem_singleton.mpr hp.dotsBetweenTicks
  | cons hp _ _ ih =>
      subst hinside
      exact List.forall_mem_cons.mpr ⟨hp.dotsBetweenTicks, ih rfl⟩

theorem ne_nil (h : ArePieces inside ps) : ps ≠ [] := by
  cases h <;> exact List.cons_ne_nil _ _

theorem ticks (h : ArePieces false ps) : ∀ p ∈ ps.dropLast, Even (p.count tick) := by
  generalize hinside : false = inside at h
  induction h with
  | last => exact fun _ hp => nomatch hp
  | cons _ hend hps ih =>
      subst hinside
      rw [List.dropLast_cons_of_ne_nil hps.ne_nil]
      exact List.forall_mem_cons.mpr ⟨even_of_insideAfter hend, ih rfl⟩

end ArePieces

/-- What is cut off has no dot outside ticks, and ends outside ticks. -/
theorem arePieces_pieces (inside : Bool) (cs : List Char) :
    ArePieces inside (pieces inside cs) := by
  induction cs generalizing inside with
  | nil => exact .last (.nil inside)
  | cons c rest ih =>
      rw [pieces]
      split
      · rename_i hcut
        exact .cons (.nil inside) (by rw [insideAfter_nil, hcut.2]) (ih false)
      · rename_i hcut
        exact (ih _).modifyHead hcut

/-- The raw pieces of a qualified name, each as it stands in the text. -/
def rawPieces (text : String) : List String :=
  (pieces false text.toList).map String.ofList

theorem map_toList_rawPieces (text : String) :
    (rawPieces text).map String.toList = pieces false text.toList := by
  simp [rawPieces, Function.comp_def]

theorem areParts_rawPieces (text : String) : AreParts (rawPieces text) := by
  have h := arePieces_pieces false text.toList
  rw [← map_toList_rawPieces] at h
  refine ⟨by simpa using h.ne_nil, List.forall_mem_map.mp h.dots, ?_⟩
  have hticks := h.ticks
  rw [← List.map_dropLast] at hticks
  exact fun part hpart => hticks _ (List.mem_map_of_mem hpart)

theorem intercalate_rawPieces (text : String) : ".".intercalate (rawPieces text) = text := by
  rw [← String.toList_inj, String.toList_intercalate, map_toList_rawPieces]
  exact intercalate_pieces false text.toList

theorem splitQualified_eq_map (text : String) :
    splitQualified text = (rawPieces text).map unquote := by
  simp [splitQualified, rawPieces, unquote, Function.comp_def]

/-- **There is one way only to take a text apart.** -/
theorem rawPieces_intercalate {parts : List String} (h : AreParts parts) :
    rawPieces (".".intercalate parts) = parts := by
  rw [rawPieces, pieces_intercalate_of_areParts h]
  simp [Function.comp_def]

/-- The raw pieces meet at the dots outside ticks. -/
theorem joints_rawPieces (text : String) :
    joints ((rawPieces text).map String.toList) = cuts text.toList := by
  have h := arePieces_pieces false text.toList
  rw [map_toList_rawPieces, ← cuts_intercalate h.dots h.ticks, intercalate_pieces]

/-! ### Names that are written and joined -/

/-- The text is the name between ticks or, if there is no dot in the name, the name as it is. -/
inductive Writes (name : String) : String → Prop where
  | plain : '.' ∉ name.toList → Writes name name
  | quoted : Writes name (quote name)

namespace Writes

variable {name text : String}

theorem unquote (hname : tick ∉ name.toList) (h : Writes name text) : unquote text = name := by
  cases h with
  | plain => exact unquote_of_tick_not_mem hname
  | quoted => exact unquote_quote name

theorem ticks (hname : tick ∉ name.toList) (h : Writes name text) :
    Even (text.toList.count tick) := by
  have hcount := List.count_eq_zero_of_not_mem hname
  cases h with
  | plain => simp [hcount]
  | quoted => simp [quote, hcount]

theorem dots (hname : tick ∉ name.toList) (h : Writes name text) :
    DotsBetweenTicks text.toList := by
  intro i hi hget
  cases h with
  | plain hdot => exact absurd (List.mem_of_getElem? hget) hdot
  | quoted =>
      rw [quote, String.toList_ofList] at hi hget ⊢
      cases i with
      | zero => exact absurd (Option.some.inj hget) (by decide)
      | succ i =>
          -- before the dot there is the first tick, and no other
          have hle : i ≤ name.toList.length := by simpa [Nat.lt_succ_iff] using hi
          have hnone : tick ∉ name.toList.take i := fun h => hname (List.mem_of_mem_take h)
          rw [List.cons_append, List.take_succ_cons, List.take_append_of_le_length hle,
            List.count_cons_self, List.count_eq_zero_of_not_mem hnone]
          exact odd_one

end Writes

/-- In names that are written one by one each dot is between ticks, and the ticks are closed. -/
theorem dots_and_ticks_of_writes {names texts : List String}
    (hnames : ∀ name ∈ names, tick ∉ name.toList) (h : List.Forall₂ Writes names texts) :
    ∀ text ∈ texts, DotsBetweenTicks text.toList ∧ Even (text.toList.count tick) := by
  induction h with
  | nil => exact fun _ htext => nomatch htext
  | cons hwrites _ ih =>
      obtain ⟨hname, hnames⟩ := List.forall_mem_cons.mp hnames
      exact List.forall_mem_cons.mpr ⟨⟨hwrites.dots hname, hwrites.ticks hname⟩, ih hnames⟩

theorem areParts_of_writes {names texts : List String} (hne : names ≠ [])
    (hnames : ∀ name ∈ names, tick ∉ name.toList) (h : List.Forall₂ Writes names texts) :
    AreParts texts := by
  have hall := dots_and_ticks_of_writes hnames h
  refine ⟨?_, fun text htext => (hall text htext).1,
    fun text htext => (hall text ((List.dropLast_sublist texts).subset htext)).2⟩
  rintro rfl
  exact hne (List.forall₂_nil_right_iff.mp h)

/-- **Names that are written and joined by dots are found again.** -/
theorem splitQualified_written {names texts : List String} (hne : names ≠ [])
    (hnames : ∀ name ∈ names, tick ∉ name.toList) (h : List.Forall₂ Writes names texts) :
    splitQualified (".".intercalate texts) = names := by
  have hwrites := (List.forall₂_and_left _ _).mpr ⟨hnames, h⟩
  have hnames' := hwrites.imp fun name text h => (h.2.unquote h.1).symm
  have heq : List.Forall₂ Eq names (texts.map unquote) := List.forall₂_map_right_iff.mpr hnames'
  rw [List.forall₂_eq_eq_eq] at heq
  rw [splitQualified_intercalate (areParts_of_writes hne hnames h), heq]

/-- **A text has one list of raw pieces, they meet at the dots outside ticks, and its names are
these pieces, each without its ticks.**  There is a piece more than there are such dots; no piece
has a dot outside ticks, and each but the last closes its ticks.  So names without ticks, each
between ticks or, if it has no dot, as it is, are found again when dots join them. -/
theorem splitQualified_exact :
    (∀ text : String, ∃ parts : List String,
      splitQualified text = parts.map unquote ∧ AreParts parts ∧ ".".intercalate parts = text ∧
        joints (parts.map String.toList) = cuts text.toList ∧
        parts.length = (cuts text.toList).length + 1 ∧
        ∀ parts' : List String, AreParts parts' → ".".intercalate parts' = text → parts' = parts) ∧
    ∀ names texts : List String, names ≠ [] → (∀ name ∈ names, tick ∉ name.toList) →
      List.Forall₂ Writes names texts → splitQualified (".".intercalate texts) = names := by
  refine ⟨fun text => ?_, fun _ _ => splitQualified_written⟩
  have hparts := areParts_rawPieces text
  have hjoints := joints_rawPieces text
  refine ⟨rawPieces text, splitQualified_eq_map text, hparts, intercalate_rawPieces text, hjoints,
    ?_, ?_⟩
  · rw [← hjoints, ← length_joints (by simpa using hparts.ne_nil), List.length_map]
  · rintro parts' h rfl
    exact (rawPieces_intercalate h).symm

/-- A text whose last tick is not closed, and three names of which one has a dot and one nothing. -/
theorem splitQualified_exact_unclosed :
    splitQualified "\x60d\x60.x\x60y.z" = ["d", "x\x60y.z"] ∧
      cuts "\x60d\x60.x\x60y.z".toList = [3] ∧
      splitQualified (".".intercalate ["\x60a.b\x60", "", "c"]) = ["a.b", "", "c"] := by
  obtain ⟨hpieces, hnames⟩ := splitQualified_exact
  obtain ⟨parts, hsplit, -, -, hjoints, -, hunique⟩ := hpieces "\x60d\x60.x\x60y.z"
  have hparts : AreParts ["\x60d\x60", "x\x60y.z"] := by
    refine ⟨List.cons_ne_nil _ _, ?_, ?_⟩
    · decide +kernel
    · decide +kernel
  obtain rfl := hunique _ hparts rfl
  have hwrites : List.Forall₂ Writes ["a.b", "", "c"] ["\x60a.b\x60", "", "c"] :=
    .cons .quoted (.cons (.plain (by decide)) (.cons (.plain (by decide)) .nil))
  refine ⟨hsplit.trans (by decide +kernel), hjoints.symm.trans (by decide +kernel), ?_⟩
  exact hnames _ _ (List.cons_ne_nil _ _) (by decide) hwrites

end AccessControl.Text
