import AccessControl.Proofs.Policy.Canonical
import AccessControl.Proofs.Policy.Filtering
import AccessControl.Proofs.Text.Capitals
import Mathlib.Data.List.Sort

/-!
# Policies — reserved names

A statement that creates or drops a role is turned down when the role has the capitals of a
reserved name.  Capitals are of another length than the name at times, and several names have the
same ones, so what the comparison does with a name is not seen from the name alone.  It is a
comparison all the same: capitals have no capitals (`Text.upper_upper`), and of the reserved names
only the set of their capitals counts (`Policy.reservedNames_congr`).

**Reserved names are compared in capitals, in every respect** (`Compiler.comparesInCapitals`).

The names that are reserved by default are in ASCII and contain no capital form of a letter beyond
ASCII, so **what is turned down by default are their spellings in ASCII, and nothing else**
(`Compiler.refusesSpellings_default`).
-/

namespace AccessControl

/-! ### Sets of names -/

/-- A set is known by its members. -/
theorem Text.nameSet_congr {names names' : List String} (h : ∀ s, s ∈ names' ↔ s ∈ names) :
    nameSet names' = nameSet names := by
  have hirrefl : Std.Irrefl (α := String) (· < ·) := ⟨String.lt_irrefl⟩
  refine (pairwise_nameSet names').eq_of_mem_iff (pairwise_nameSet names) fun s => ?_
  rw [mem_nameSet, mem_nameSet, h]

namespace Policy

variable {policy policy' : Policy}

theorem mem_reservedNames_iff {s : String} :
    s ∈ policy.reservedNames ↔ ∃ name ∈ policy.reserved, s = Text.upper name := by
  simp [reservedNames, eq_comm]

/-- **Only the capitals of the reserved names count.** -/
theorem reservedNames_congr
    (h : ∀ s, s ∈ policy'.reserved.map Text.upper ↔ s ∈ policy.reserved.map Text.upper) :
    policy'.reservedNames = policy.reservedNames :=
  Text.nameSet_congr h

/-- The capitals of the reserved names have the same capitals. -/
theorem reservedNames_of_reserved_eq (h : policy'.reserved = policy.reservedNames) :
    policy'.reservedNames = policy.reservedNames := by
  refine reservedNames_congr fun s => ?_
  rw [h]
  simp [reservedNames, Text.upper_upper]

theorem isReserved_upper {role : String} :
    policy.isReserved (Text.upper role) = policy.isReserved role := by
  rw [isReserved, Text.upper_upper, isReserved]

theorem isReserved_congr (h : policy'.reservedNames = policy.reservedNames) {role : String} :
    policy'.isReserved role = policy.isReserved role := by
  rw [isReserved, h, isReserved]

end Policy

/-! ### Statements that create or drop a role -/

/-- The statement creates or drops the role, whose name stands between ticks in its first child. -/
structure Node.ChangesRole (n : Node) (op : Operation) (role : String) : Prop where
  changed : op.changedRole? = some role
  kind : n.tag.statement? = some op.statementKind
  name : ∃ named, n.children[0]? = some named ∧ named.text = some (Text.quote role)

/-- There is a statement for each of these operations, the canonical one. -/
theorem Operation.changesRole_statement {op : Operation} {role : String}
    (h : op.changedRole? = some role) : op.statement.ChangesRole op role := by
  cases op with
  | createRole | dropRole =>
      cases h
      exact ⟨rfl, rfl, _, rfl, rfl⟩
  | _ => cases h

theorem Policy.roleOfNode_of_quote {policy : Policy} {n : Node} {role : String}
    (h : ∃ named, n.children[0]? = some named ∧ named.text = some (Text.quote role)) :
    policy.roleOfNode n =
      if policy.isReserved role then .error (.reservedRole policy.reservedNames) else .ok role := by
  obtain ⟨named, hnamed, htext⟩ := h
  have hpart : n.part 0 = .ok named := Node.part_ok_nat_iff.mpr hnamed
  have hname : named.name = .ok role :=
    Node.name_ok_iff.mpr ⟨_, htext, Text.unquote_quote role⟩
  rw [roleOfNode, hpart]
  change named.name >>= _ = _
  rw [hname]
  rfl

namespace Compiler

variable {c c' : Compiler} {issue : Issue} {n : Node} {op : Operation} {role : String}
  {r : Rejection}

/-- The operation that changes the role is turned down exactly when the name is reserved. -/
theorem compile_changesRole (h : n.ChangesRole op role) :
    (c.compile issue n).result =
      if c.policy.isReserved role then .error (.reservedRole c.policy.reservedNames)
      else .ok op := by
  obtain ⟨hop, hkind, hname⟩ := h
  rw [compile_result, hkind]
  cases op with
  | createRole | dropRole =>
      cases hop
      change (_ <$> Attempt.ofExcept _).result = _
      rw [Attempt.result_map, Attempt.result_ofExcept, Policy.roleOfNode_of_quote hname]
      split <;> rfl
  | _ => cases hop

/-- The role can be neither created nor dropped, and the rejection is the given one. -/
def RefusesRole (c : Compiler) (role : String) (r : Rejection) : Prop :=
  ∀ issue n op, Node.ChangesRole n op role → (c.compile issue n).result = .error r

/-- The role can be created and dropped, under its name as it is. -/
def TakesRole (c : Compiler) (role : String) : Prop :=
  ∀ issue n op, Node.ChangesRole n op role → (c.compile issue n).result = .ok op

theorem refusesRole_iff :
    c.RefusesRole role r ↔
      c.policy.isReserved role ∧ r = .reservedRole c.policy.reservedNames := by
  refine ⟨fun h => ?_, ?_⟩
  · have hcreate := h {} _ (.createRole role) (Operation.changesRole_statement rfl)
    rw [compile_changesRole (Operation.changesRole_statement rfl)] at hcreate
    split at hcreate
    · rename_i hreserved
      exact ⟨hreserved, (Except.error.inj hcreate).symm⟩
    · cases hcreate
  · rintro ⟨hreserved, rfl⟩ issue n op hn
    rw [compile_changesRole hn, if_pos hreserved]

theorem takesRole_iff : c.TakesRole role ↔ ¬ c.policy.isReserved role := by
  refine ⟨fun h hreserved => ?_, fun hreserved issue n op hn => ?_⟩
  · have hcreate := h {} _ (.createRole role) (Operation.changesRole_statement rfl)
    rw [compile_changesRole (Operation.changesRole_statement rfl), if_pos hreserved] at hcreate
    cases hcreate
  · rw [compile_changesRole hn, if_neg hreserved]

/-- Reserved names are compared in capitals. -/
structure ComparesInCapitals (c : Compiler) : Prop where
  /-- A role is refused when it has the capitals of a reserved name, and the rejection has the
  capitals of all of them. -/
  refuses_iff {role : String} {r : Rejection} :
    c.RefusesRole role r ↔
      (∃ name ∈ c.policy.reserved, Text.upper role = Text.upper name) ∧
        r = .reservedRole c.policy.reservedNames
  /-- Every other role is taken. -/
  takes_iff {role : String} :
    c.TakesRole role ↔ ¬ ∃ name ∈ c.policy.reserved, Text.upper role = Text.upper name
  /-- A role and its capitals are treated alike. -/
  upper {role : String} :
    (∀ r, c.RefusesRole (Text.upper role) r ↔ c.RefusesRole role r) ∧
      (c.TakesRole (Text.upper role) ↔ c.TakesRole role)
  /-- The reserved names are refused, as they are and in capitals. -/
  reserved {name : String} (h : name ∈ c.policy.reserved) :
    c.RefusesRole name (.reservedRole c.policy.reservedNames) ∧
      c.RefusesRole (Text.upper name) (.reservedRole c.policy.reservedNames)
  /-- A compiler that reserves the capitals of the names has the same ones. -/
  again {c' : Compiler} (h : c'.policy.reserved = c.policy.reservedNames) :
    c'.policy.reservedNames = c.policy.reservedNames
  /-- Only the set of the capitals counts. -/
  congr {c' : Compiler} {role : String}
    (h : ∀ s, s ∈ c'.policy.reserved.map Text.upper ↔ s ∈ c.policy.reserved.map Text.upper) :
    (∀ r, c'.RefusesRole role r ↔ c.RefusesRole role r) ∧
      (c'.TakesRole role ↔ c.TakesRole role)
  /-- The message lists the capitals of the reserved names. -/
  message : (Rejection.reservedRole c.policy.reservedNames).message =
    "Roles cannot be one of the reserved roles: " ++
      Text.bracketed (c.policy.reservedNames.map Text.quoted)
  category : (Rejection.reservedRole c.policy.reservedNames).category = .reservedRoleName
  /-- Each is listed once, in increasing order. -/
  increasing : c.policy.reservedNames.Pairwise (· < ·)
  mem_iff {s : String} :
    s ∈ c.policy.reservedNames ↔ ∃ name ∈ c.policy.reserved, s = Text.upper name

/-- **Reserved names are compared in capitals, in every respect**, and capitals have no other
capitals. -/
theorem comparesInCapitals (c : Compiler) :
    (∀ s, Text.upper (Text.upper s) = Text.upper s) ∧ c.ComparesInCapitals := by
  refine ⟨Text.upper_upper, ?_⟩
  have hrefuses {role : String} {r : Rejection} : c.RefusesRole role r ↔
      (∃ name ∈ c.policy.reserved, Text.upper role = Text.upper name) ∧
        r = .reservedRole c.policy.reservedNames := by
    rw [refusesRole_iff, Policy.isReserved_iff]
  exact {
    refuses_iff := hrefuses
    takes_iff := by
      intro role
      rw [takesRole_iff, Policy.isReserved_iff]
    upper := by
      intro role
      simp only [refusesRole_iff, takesRole_iff, Policy.isReserved_upper, implies_true, and_self]
    reserved := fun {name} h =>
      ⟨hrefuses.mpr ⟨⟨name, h, rfl⟩, rfl⟩, hrefuses.mpr ⟨⟨name, h, Text.upper_upper name⟩, rfl⟩⟩
    again := Policy.reservedNames_of_reserved_eq
    congr := by
      intro c' role h
      have hnames := Policy.reservedNames_congr h
      simp only [refusesRole_iff, takesRole_iff, Policy.isReserved_congr hnames, hnames,
        implies_true, and_self]
    message := rfl
    category := rfl
    increasing := Text.pairwise_nameSet _
    mem_iff := Policy.mem_reservedNames_iff }

/-- A compiler that reserves names with the same capitals, and one of them twice. -/
def reservingStreets : Compiler where
  policy := { reserved := ["stra\u00dfe", "Admin", "STRASSE", "admin"] }

/-- The name that is shorter than its capitals is refused in all its spellings. -/
theorem comparesInCapitals_reservingStreets :
    reservingStreets.policy.reservedNames = ["ADMIN", "STRASSE"] ∧
      reservingStreets.RefusesRole "Strasse" (.reservedRole ["ADMIN", "STRASSE"]) ∧
      reservingStreets.RefusesRole "stra\u00dfe" (.reservedRole ["ADMIN", "STRASSE"]) ∧
      reservingStreets.TakesRole "strase" := by
  obtain ⟨-, h⟩ := comparesInCapitals reservingStreets
  have hnames : reservingStreets.policy.reservedNames = ["ADMIN", "STRASSE"] := by decide +kernel
  refine ⟨hnames, ?_, ?_, ?_⟩
  · exact h.refuses_iff.mpr ⟨⟨"STRASSE", by decide, by decide +kernel⟩, by rw [hnames]⟩
  · exact hnames ▸ (h.reserved List.mem_cons_self).1
  · exact h.takes_iff.mpr (by decide +kernel)

end Compiler

/-! ### The names that are reserved by default -/

namespace Text

/-- The texts agree letter by letter, up to the case of the letters of ASCII. -/
def IsSpellingOf (text word : String) : Prop :=
  List.Forall₂ (fun a b => a.toUpper = b.toUpper) text.toList word.toList

variable {text word : String}

theorem isSpellingOf_iff :
    IsSpellingOf text word ↔ text.toList.map Char.toUpper = word.toList.map Char.toUpper := by
  rw [← List.forall₂_eq_eq_eq, List.forall₂_map_left_iff, List.forall₂_map_right_iff, IsSpellingOf]

theorem IsSpellingOf.ascii (h : IsSpellingOf text word) (hword : ∀ d ∈ codes word, d < 0x80) :
    ∀ d ∈ codes text, d < 0x80 := by
  refine List.forall_mem_map.mpr fun a ha => ?_
  have hmem : a.toUpper ∈ word.toList.map Char.toUpper :=
    isSpellingOf_iff.mp h ▸ List.mem_map_of_mem ha
  obtain ⟨b, hb, heq⟩ := List.mem_map.mp hmem
  rw [← toNat_toUpper_lt_iff, ← heq, toNat_toUpper_lt_iff]
  exact List.forall_mem_map.mp hword b hb

/-- A text that has the capitals of a word in ASCII is a spelling of it, if the word is in capitals
and contains no capital form of a letter beyond ASCII. -/
theorem upper_eq_upper_iff (hword : ∀ d ∈ codes word, d < 0x80)
    (hforms : ∀ form ∈ asciiForms, ¬ form.2 <:+: codes word)
    (hcapitals : upper word = word) : upper text = upper word ↔ IsSpellingOf text word := by
  have hword' := (upper_eq_iff_of_ascii hword hforms).mp hcapitals
  rw [isSpellingOf_iff, hword', hcapitals]
  exact upper_eq_iff_of_ascii hword hforms

end Text

/-- The names that are reserved by default are in ASCII and in capitals, and none contains the
capital form of a letter beyond ASCII. -/
theorem Policy.reserved_default :
    ∀ name ∈ ({} : Policy).reserved, (∀ d ∈ Text.codes name, d < 0x80) ∧
      (∀ form ∈ Text.asciiForms, ¬ form.2 <:+: Text.codes name) ∧ Text.upper name = name := by
  decide +kernel

/-- A role is reserved by default when it is a spelling of one of the names. -/
theorem Policy.isReserved_default_iff {policy : Policy}
    (h : policy.reserved = ({} : Policy).reserved) {role : String} :
    policy.isReserved role ↔
      ∃ name ∈ ["ALL", "DEFAULT", "NONE"], Text.IsSpellingOf role name := by
  rw [isReserved_iff, h]
  refine exists_congr fun name => and_congr_right fun hname => ?_
  obtain ⟨hascii, hforms, hcapitals⟩ := reserved_default name hname
  exact Text.upper_eq_upper_iff hascii hforms hcapitals

theorem Policy.reservedNames_default {policy : Policy}
    (h : policy.reserved = ({} : Policy).reserved) :
    policy.reservedNames = ["ALL", "DEFAULT", "NONE"] := by
  have hdefault : ({} : Policy).reservedNames = ["ALL", "DEFAULT", "NONE"] := by decide +kernel
  exact (reservedNames_congr fun s => by rw [h]).trans hdefault

/-- The letters of `asciiForms` are beyond ASCII and have the capital form that stands there. -/
theorem Text.upper_asciiForms :
    ∀ form ∈ asciiForms, 0x80 ≤ form.1 ∧ (∀ d ∈ form.2, d < 0x80) ∧
      upper (String.singleton (Char.ofNat form.1)) = String.ofList (form.2.map Char.ofNat) := by
  decide +kernel

namespace Compiler

/-- **What is refused by default are the spellings of three names in ASCII, and nothing else.**  A
role with a character beyond ASCII is taken, although the capitals of ten such characters are in
ASCII. -/
theorem refusesSpellings_default {c : Compiler} (h : c.policy.reserved = ({} : Policy).reserved)
    (role : String) :
    (c.RefusesRole role (.reservedRole ["ALL", "DEFAULT", "NONE"]) ↔
      ∃ name ∈ ["ALL", "DEFAULT", "NONE"], Text.IsSpellingOf role name) ∧
    (c.TakesRole role ↔ ¬ ∃ name ∈ ["ALL", "DEFAULT", "NONE"], Text.IsSpellingOf role name) ∧
    ((∃ d ∈ Text.codes role, 0x80 ≤ d) → c.TakesRole role) ∧
    ∀ form ∈ Text.asciiForms, 0x80 ≤ form.1 ∧ (∀ d ∈ form.2, d < 0x80) ∧
      Text.upper (String.singleton (Char.ofNat form.1)) =
        String.ofList (form.2.map Char.ofNat) := by
  have hreserved : c.policy.isReserved role ↔
      ∃ name ∈ ["ALL", "DEFAULT", "NONE"], Text.IsSpellingOf role name :=
    Policy.isReserved_default_iff h
  refine ⟨?_, ?_, ?_, Text.upper_asciiForms⟩
  · rw [refusesRole_iff, hreserved, Policy.reservedNames_default h, and_iff_left rfl]
  · rw [takesRole_iff, hreserved]
  · rintro ⟨d, hd, hbeyond⟩
    rw [takesRole_iff, hreserved]
    rintro ⟨name, hname, hspelling⟩
    have hascii := hspelling.ascii (Policy.reserved_default name hname).1 d hd
    omega

/-- A name in mixed case is refused; the letters that are no letters of ASCII are not. -/
theorem refusesSpellings_default_mixed :
    ({} : Compiler).policy.reserved = ({} : Policy).reserved ∧
      ({} : Compiler).RefusesRole "deFAult" (.reservedRole ["ALL", "DEFAULT", "NONE"]) ∧
      ({} : Compiler).TakesRole "de\ufb00ault" := by
  refine ⟨rfl, ?_, ?_⟩
  · refine (refusesSpellings_default rfl "deFAult").1.mpr ⟨"DEFAULT", by decide, ?_⟩
    exact Text.isSpellingOf_iff.mpr (by decide +kernel)
  · exact (refusesSpellings_default rfl "de\ufb00ault").2.2.1 (by decide +kernel)

end Compiler

end AccessControl
