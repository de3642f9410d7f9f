import AccessControl.Text.Uppercase
import Mathlib.Data.List.Basic
import Mathlib.Data.Nat.Bitwise

/-!
# Text — capitals have no capitals

The table of capital letters gives each letter beside its capital form, and nothing in the way it
is written keeps a capital form from holding a letter that has a capital form in turn.  That none
does is a fact about the entries: the letters of the table (`letters`) and the code points that
their capital forms are made of (`capitals`) have nothing in common (`disjoint_letters_capitals`).
Both are kept as sets of bits for the comparison, which is one operation then.

**Upper-casing twice is upper-casing once** (`upper_upper`).

Among the characters of ASCII the capital form is the one of `Char.toUpper` (`capital_of_ascii`).
Beyond ASCII **ten letters have a capital form in ASCII, and no others** (`capitalCodes_ascii_iff`):
a text in ASCII that contains none of these forms is the upper-casing of its spellings in ASCII and
of nothing else (`upper_eq_iff_of_ascii`).
-/

namespace AccessControl.Text

/-! ### The code points of the table -/

namespace CapitalRun

/-- The number of letters of the run. -/
def size (run : CapitalRun) : Nat :=
  (run.last - run.first) / run.stride + 1

/-- The letters of the run. -/
def letters (run : CapitalRun) : List Nat :=
  List.range' run.first run.size run.stride

/-- The capitals of the letters of the run. -/
def capitals (run : CapitalRun) : List Nat :=
  List.range' run.capital run.size run.stride

variable {run : CapitalRun} {code d : Nat}

theorem find?_eq_some_iff :
    run.find? code = some d ↔
      (run.first ≤ code ∧ code ≤ run.last ∧ (code - run.first) % run.stride = 0) ∧
        run.capital + (code - run.first) = d := by
  rw [find?, Option.ite_none_right_eq_some, Option.some.injEq]

/-- A letter and its capital have the same place in the run. -/
theorem exists_place (h : run.find? code = some d) :
    ∃ i < run.size, code = run.first + run.stride * i ∧ d = run.capital + run.stride * i := by
  obtain ⟨⟨hfirst, hlast, hstride⟩, rfl⟩ := find?_eq_some_iff.mp h
  have hplace : run.stride * ((code - run.first) / run.stride) = code - run.first :=
    Nat.mul_div_cancel' (Nat.dvd_of_mod_eq_zero hstride)
  refine ⟨(code - run.first) / run.stride, ?_, ?_, ?_⟩
  · exact Nat.lt_succ_of_le (Nat.div_le_div_right (Nat.sub_le_sub_right hlast _))
  · rw [hplace, Nat.add_sub_cancel' hfirst]
  · rw [hplace]

theorem mem_letters_of_find? (h : run.find? code = some d) : code ∈ run.letters := by
  obtain ⟨i, hi, hcode, -⟩ := exists_place h
  exact List.mem_range'.mpr ⟨i, hi, hcode⟩

theorem mem_capitals_of_find? (h : run.find? code = some d) : d ∈ run.capitals := by
  obtain ⟨i, hi, -, hd⟩ := exists_place h
  exact List.mem_range'.mpr ⟨i, hi, hd⟩

end CapitalRun

/-- The code points that have a capital form other than themselves. -/
def letters : List Nat :=
  capitalRuns.flatMap CapitalRun.letters ++ capitalSequences.map Prod.fst

/-- The code points of the capital forms. -/
def capitals : List Nat :=
  capitalRuns.flatMap CapitalRun.capitals ++ capitalSequences.flatMap Prod.snd

/-- The code points as a set of bits. -/
def bits (codes : List Nat) : Nat :=
  codes.foldr (fun code set => 2 ^ code ||| set) 0

theorem testBit_bits {codes : List Nat} {code : Nat} :
    (bits codes).testBit code ↔ code ∈ codes := by
  induction codes with
  | nil => simp [bits]
  | cons first codes ih =>
      rw [bits, List.foldr_cons, ← bits, Nat.testBit_or, Bool.or_eq_true, ih, Nat.testBit_two_pow,
        decide_eq_true_eq, List.mem_cons, eq_comm]

theorem not_mem_of_bits {xs ys : List Nat} (h : bits xs &&& bits ys = 0) {code : Nat}
    (hx : code ∈ xs) : code ∉ ys := by
  intro hy
  have hboth : (bits xs &&& bits ys).testBit code := by
    rw [Nat.testBit_and, Bool.and_eq_true]
    exact ⟨testBit_bits.mpr hx, testBit_bits.mpr hy⟩
  rw [h, Nat.zero_testBit] at hboth
  cases hboth

/-- **The letters and the capitals have nothing in common.** -/
theorem disjoint_letters_capitals : bits capitals &&& bits letters = 0 := by decide +kernel

theorem isValidChar_of_mem_capitals : ∀ d ∈ capitals, d.isValidChar := by decide +kernel

/-! ### The capital form of a code point -/

/-- How the table comes to the capital form of a code point. -/
inductive CapitalForm (code : Nat) : List Nat → Prop where
  /-- A sequence of the table. -/
  | sequence {codes : List Nat} (h : (code, codes) ∈ capitalSequences) : CapitalForm code codes
  /-- A capital that a run of the table gives. -/
  | run {run : CapitalRun} {d : Nat} (hrun : run ∈ capitalRuns) (h : run.find? code = some d) :
      CapitalForm code [d]
  /-- The code point itself, which no run finds. -/
  | itself (hruns : ∀ run ∈ capitalRuns, run.find? code = none) : CapitalForm code [code]

theorem capitalForm (code : Nat) : CapitalForm code (capitalCodes code) := by
  rw [capitalCodes]
  split
  · rename_i codes h
    obtain ⟨before, after, h, -⟩ := List.lookup_eq_some_iff.mp h
    exact .sequence (h ▸ List.mem_append_right before List.mem_cons_self)
  · cases hruns : capitalRuns.findSome? (·.find? code) with
    | some d =>
        obtain ⟨run, hrun, h⟩ := List.exists_of_findSome?_eq_some hruns
        exact .run hrun h
    | none => exact .itself (List.findSome?_eq_none_iff.mp hruns)

/-- What is no letter of the table is its own capital form. -/
theorem capitalCodes_of_not_mem_letters {code : Nat} (h : code ∉ letters) :
    capitalCodes code = [code] := by
  have hform := capitalForm code
  generalize capitalCodes code = codes at hform ⊢
  cases hform with
  | sequence hentry =>
      exact absurd (List.mem_append_right _ (List.mem_map_of_mem hentry)) h
  | run hrun hfind =>
      refine absurd (List.mem_append_left _ ?_) h
      exact List.mem_flatMap_of_mem hrun (CapitalRun.mem_letters_of_find? hfind)
  | itself => rfl

theorem CapitalForm.mem_capitals {code d : Nat} {codes : List Nat} (h : CapitalForm code codes)
    (hd : d ∈ codes) : d ∈ capitals ∨ codes = [code] := by
  cases h with
  | sequence hentry =>
      exact .inl (List.mem_append_right _ (List.mem_flatMap_of_mem hentry hd))
  | run hrun hfind =>
      obtain rfl := List.mem_singleton.mp hd
      refine .inl (List.mem_append_left _ ?_)
      exact List.mem_flatMap_of_mem hrun (CapitalRun.mem_capitals_of_find? hfind)
  | itself => exact .inr rfl

/-! ### Upper-casing twice -/

/-- **A capital form holds no letter that has another capital form.** -/
theorem capitalCodes_of_mem {code d : Nat} (h : d ∈ capitalCodes code) :
    capitalCodes d = [d] := by
  obtain hd | hself := (capitalForm code).mem_capitals h
  · exact capitalCodes_of_not_mem_letters (not_mem_of_bits disjoint_letters_capitals hd)
  · rw [hself, List.mem_singleton] at h
    rw [h, hself]

/-- The capital form of a character is made of characters. -/
theorem map_toNat_capital (c : Char) : (capital c).map Char.toNat = capitalCodes c.toNat := by
  have hvalid : ∀ d ∈ capitalCodes c.toNat, d.isValidChar := by
    intro d h
    obtain hd | hself := (capitalForm c.toNat).mem_capitals h
    · exact isValidChar_of_mem_capitals d hd
    · rw [hself, List.mem_singleton] at h
      exact h ▸ c.valid
  rw [capital, List.map_map, List.map_congr_left (g := id), List.map_id]
  intro d hd
  rw [Function.comp_apply, Char.ofNat, dif_pos (hvalid d hd)]
  rfl

theorem capital_of_mem_capital {c d : Char} (h : d ∈ capital c) : capital d = [d] := by
  have hcode : d.toNat ∈ capitalCodes c.toNat := map_toNat_capital c ▸ List.mem_map_of_mem h
  rw [capital, capitalCodes_of_mem hcode, List.map_singleton, Char.ofNat_toNat]

/-- **Upper-casing twice is upper-casing once.** -/
theorem upper_upper (text : String) : upper (upper text) = upper text := by
  have hcapital : ∀ c ∈ text.toList, (capital c).flatMap capital = capital c := by
    intro c _
    rw [List.flatMap_congr fun d hd => capital_of_mem_capital hd, List.flatMap_singleton']
  rw [upper, toList_upper, List.flatMap_assoc, List.flatMap_congr hcapital, upper]

/-! ### Capitals in ASCII -/

/-- The code points of the text. -/
def codes (text : String) : List Nat :=
  text.toList.map Char.toNat

/-- The letters beyond ASCII whose capital form is in ASCII, with the form. -/
def asciiForms : List (Nat × List Nat) :=
  [(0xdf, [0x53, 0x53]), (0x131, [0x49]), (0x17f, [0x53]), (0xfb00, [0x46, 0x46]),
   (0xfb01, [0x46, 0x49]), (0xfb02, [0x46, 0x4c]), (0xfb03, [0x46, 0x46, 0x49]),
   (0xfb04, [0x46, 0x46, 0x4c]), (0xfb05, [0x53, 0x54]), (0xfb06, [0x53, 0x54])]

/-- A run of the table holds the small letters of ASCII, or lies beyond ASCII with its capitals, or
is a single letter with a capital in ASCII. -/
theorem capitalRuns_ascii :
    ∀ run ∈ capitalRuns,
      (run.first = 0x61 ∧ run.last = 0x7a ∧ run.capital = 0x41) ∨
      0x80 ≤ run.first ∧
        (0x80 ≤ run.capital ∨ run.first = run.last ∧ (run.first, [run.capital]) ∈ asciiForms) := by
  decide +kernel

theorem capitalSequences_ascii :
    ∀ entry ∈ capitalSequences,
      0x80 ≤ entry.1 ∧ ((∀ d ∈ entry.2, d < 0x80) → entry ∈ asciiForms) := by
  decide +kernel

theorem asciiForms_ascii : ∀ form ∈ asciiForms, ∀ d ∈ form.2, d < 0x80 := by decide

theorem smallLetters_mem : (⟨0x61, 0x7a, 1, 0x41⟩ : CapitalRun) ∈ capitalRuns :=
  List.mem_of_mem_head? rfl

theorem toNat_toUpper (c : Char) :
    c.toUpper.toNat = if 0x61 ≤ c.toNat ∧ c.toNat ≤ 0x7a then c.toNat - 0x20 else c.toNat := by
  delta Char.toUpper
  split
  · rename_i h
    have hsmall : 0x61 ≤ c.toNat ∧ c.toNat ≤ 0x7a := h
    have hsum : (c.val + ('A'.val - 'a'.val)).toNat = (c.toNat + 0xffffffe0) % 2 ^ 32 :=
      UInt32.toNat_add _ _
    rw [if_pos hsmall]
    change (c.val + ('A'.val - 'a'.val)).toNat = _
    omega
  · rename_i h
    have hsmall : ¬ (0x61 ≤ c.toNat ∧ c.toNat ≤ 0x7a) := h
    rw [if_neg hsmall]

theorem toNat_toUpper_lt_iff {c : Char} : c.toUpper.toNat < 0x80 ↔ c.toNat < 0x80 := by
  rw [toNat_toUpper]
  split <;> omega

theorem CapitalForm.eq_toUpper {c : Char} {codes : List Nat} (h : CapitalForm c.toNat codes)
    (hascii : c.toNat < 0x80) : codes = [c.toUpper.toNat] := by
  rw [toNat_toUpper]
  cases h with
  | sequence hentry =>
      have hbeyond := (capitalSequences_ascii _ hentry).1
      omega
  | run hrun hfind =>
      obtain ⟨⟨hfirst, hlast, -⟩, rfl⟩ := CapitalRun.find?_eq_some_iff.mp hfind
      obtain ⟨hfirst', hlast', hcapital⟩ | ⟨hbeyond, -⟩ := capitalRuns_ascii _ hrun
      · rw [if_pos ⟨by omega, by omega⟩, List.singleton_inj]
        omega
      · omega
  | itself hruns =>
      have hsmall : ¬ (0x61 ≤ c.toNat ∧ c.toNat ≤ 0x7a) := by
        rintro ⟨hfirst, hlast⟩
        have hfind := hruns _ smallLetters_mem
        rw [CapitalRun.find?, if_pos ⟨hfirst, hlast, Nat.mod_one _⟩] at hfind
        cases hfind
      rw [if_neg hsmall]

/-- Among the characters of ASCII the capital form is the usual one. -/
theorem capital_of_ascii {c : Char} (h : c.toNat < 0x80) : capital c = [c.toUpper] := by
  rw [capital, (capitalForm c.toNat).eq_toUpper h, List.map_singleton, Char.ofNat_toNat]

theorem CapitalForm.mem_asciiForms {code : Nat} {codes : List Nat} (h : CapitalForm code codes)
    (hcodes : ∀ d ∈ codes, d < 0x80) : code < 0x80 ∨ (code, codes) ∈ asciiForms := by
  cases h with
  | sequence hentry => exact .inr ((capitalSequences_ascii _ hentry).2 hcodes)
  | run hrun hfind =>
      obtain ⟨⟨hfirst, hlast, -⟩, rfl⟩ := CapitalRun.find?_eq_some_iff.mp hfind
      have hcapital := hcodes _ List.mem_cons_self
      obtain ⟨-, hlast', -⟩ | ⟨-, hbeyond | ⟨hsingle, hmem⟩⟩ := capitalRuns_ascii _ hrun
      · exact .inl (by omega)
      · omega
      · -- the run is the one letter
        obtain rfl := Nat.le_antisymm hfirst (hsingle ▸ hlast)
        rw [Nat.sub_self, Nat.add_zero]
        exact .inr hmem
  | itself => exact .inl (hcodes _ List.mem_cons_self)

/-- **Ten letters beyond ASCII have a capital form in ASCII, and no others.** -/
theorem capitalCodes_ascii_iff {c : Char} :
    (∀ d ∈ capitalCodes c.toNat, d < 0x80) ↔
      c.toNat < 0x80 ∨ (c.toNat, capitalCodes c.toNat) ∈ asciiForms := by
  refine ⟨(capitalForm c.toNat).mem_asciiForms, ?_⟩
  rintro (h | h) d hd
  · rw [(capitalForm c.toNat).eq_toUpper h, List.mem_singleton] at hd
    exact hd ▸ toNat_toUpper_lt_iff.mpr h
  · exact asciiForms_ascii _ h d hd

/-- A text in ASCII that contains no capital form of a letter beyond ASCII is the upper-casing of
its spellings in ASCII, and of nothing else. -/
theorem upper_eq_iff_of_ascii {word : String} (hascii : ∀ d ∈ codes word, d < 0x80)
    (hforms : ∀ form ∈ asciiForms, ¬ form.2 <:+: codes word) {text : String} :
    upper text = word ↔ text.toList.map Char.toUpper = word.toList := by
  have hupper (h : ∀ d ∈ codes text, d < 0x80) :
      text.toList.flatMap capital = text.toList.map Char.toUpper := by
    rw [codes, List.forall_mem_map] at h
    rw [List.flatMap_congr fun c hc => capital_of_ascii (h c hc), List.map_eq_flatMap]
  rw [← String.toList_inj, toList_upper]
  refine ⟨fun h => ?_, fun h => ?_⟩
  · rw [← hupper, h]
    refine List.forall_mem_map.mpr fun c hc => ?_
    have hpart : capitalCodes c.toNat <:+: codes word := by
      rw [← map_toNat_capital, codes, ← h]
      exact (List.infix_flatMap_of_mem hc capital).map Char.toNat
    obtain hc | hform := capitalCodes_ascii_iff.mp fun d hd => hascii d (hpart.subset hd)
    · exact hc
    · exact absurd hpart (hforms _ hform)
  · rw [hupper, h]
    refine List.forall_mem_map.mpr fun c hc => toNat_toUpper_lt_iff.mp ?_
    exact List.forall_mem_map.mp hascii _ (h ▸ List.mem_map_of_mem hc)

end AccessControl.Text
