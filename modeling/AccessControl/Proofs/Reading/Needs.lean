import AccessControl.Proofs.Reading.Rows
import AccessControl.Statement.Parts

/-!
# Reading — what readers need

A reader takes parts of a tree that the grammar promises, and on the way it looks out for mistakes.
`Needs` says how a reader ends.  If there is a mistake to be met, it ends with one.  If there is
none, it ends with a broken invariant when something that it needs is missing, and otherwise with a
value, or with what is wrong about the parts taken together.

A mistake is to be met only where everything before it is there: in a row, after items that are
complete (`MeetsIn`), and in a second step, when the first has what it needs.

**What steps need one after another is needed as a whole** (`Needs.bind`, `Needs.mapM`).  A step is
clean when it meets no mistakes, and a check when it needs nothing.
-/

namespace AccessControl

/-- An item of the row has the mistake, and the items before it have what is needed. -/
inductive MeetsIn {γ : Type} (P : γ → Prop) (M : γ → Rejection → Prop) :
    List γ → Rejection → Prop where
  | here {m : γ} {ms : List γ} {r : Rejection} : M m r → MeetsIn P M (m :: ms) r
  | later {m : γ} {ms : List γ} {r : Rejection} : P m → MeetsIn P M ms r →
      MeetsIn P M (m :: ms) r

theorem MeetsIn.exists_mem {γ : Type} {P : γ → Prop} {M : γ → Rejection → Prop} {ms : List γ}
    {r : Rejection} (h : MeetsIn P M ms r) : ∃ m ∈ ms, M m r := by
  induction h with
  | here hm => exact ⟨_, List.mem_cons_self, hm⟩
  | later _ _ ih =>
      obtain ⟨m, hm, hr⟩ := ih
      exact ⟨m, List.mem_cons_of_mem _ hm, hr⟩

/-- A row fails at the first item that does. -/
theorem MeetsIn.mapM_error_iff {α γ : Type} {P : γ → Prop} {M : γ → Rejection → Prop}
    {r : Rejection} {f : γ → Except Rejection α} (hok : ∀ m, (∃ a, f m = .ok a) ↔ P m)
    (herror : ∀ m r, f m = .error r ↔ M m r) {ms : List γ} :
    ms.mapM f = .error r ↔ MeetsIn P M ms r := by
  induction ms with
  | nil => exact ⟨nofun, nofun⟩
  | cons m ms ih =>
      rw [List.mapM_cons, bind_error_iff]
      refine ⟨?_, ?_⟩
      · rintro (hm | ⟨a, ha, hms⟩)
        · exact .here ((herror m r).mp hm)
        · rcases bind_error_iff.mp hms with hms | ⟨as, -, ⟨⟩⟩
          exact .later ((hok m).mp ⟨a, ha⟩) (ih.mp hms)
      · rintro (hm | ⟨hP, hms⟩)
        · exact .inl ((herror m r).mpr hm)
        · obtain ⟨a, ha⟩ := (hok m).mpr hP
          exact .inr ⟨a, ha, bind_error_iff.mpr (.inl (ih.mpr hms))⟩

variable {α β : Type} {Q C D : Prop} {M M' L : Rejection → Prop}

/-- How a computation ends that needs `Q`, that meets mistakes `M` on the way, and that can fail
with `L` when everything is there. -/
inductive Needs (Q : Prop) (M L : Rejection → Prop) : Except Rejection α → Prop where
  | ok (h : Q) (hnone : ∀ r, ¬ M r) (a : α) : Needs Q M L (.ok a)
  /-- What is needed is missing. -/
  | broken {r : Rejection} (h : ¬ Q) (hnone : ∀ r, ¬ M r) (hr : r.category = .brokenInvariant) :
      Needs Q M L (.error r)
  /-- A mistake is met, whether what is needed is there or not. -/
  | mistaken {r : Rejection} (hr : M r) : Needs Q M L (.error r)
  /-- Everything is there, and something is wrong all the same. -/
  | late {r : Rejection} (h : Q) (hnone : ∀ r, ¬ M r) (hr : L r) : Needs Q M L (.error r)

namespace Needs

theorem congr {x : Except Rejection α} (h : Needs Q M L x) (hQ : Q ↔ C) (hM : ∀ r, M r ↔ M' r) :
    Needs C M' L x := by
  obtain rfl : M = M' := funext fun r => propext (hM r)
  exact propext hQ ▸ h

/-- A mistake that is met only when everything is there is met late. -/
theorem delay {x : Except Rejection α} (h : Needs Q M (fun _ => False) x)
    (hM : ∀ r, M r → Q ∧ L r) : Needs Q (fun _ => False) L x := by
  cases h with
  | ok h _ a => exact .ok h (fun _ => id) a
  | broken h _ hr => exact .broken h (fun _ => id) hr
  | mistaken hr => exact .late (hM _ hr).1 (fun _ => id) (hM _ hr).2
  | late _ _ hr => exact hr.elim

/-- What is needed is there, and the computation does not look at it any more. -/
theorem of_failsOnly {x : Except Rejection α} (h : Q) (hx : FailsOnly L x) :
    Needs Q (fun _ => False) L x := by
  cases x with
  | ok a => exact .ok h (fun _ => id) a
  | error r => exact .late h (fun _ => id) (hx r rfl)

theorem map {x : Except Rejection α} (h : Needs Q M L x) (f : α → β) : Needs Q M L (x.map f) := by
  cases h with
  | ok h hnone a => exact .ok h hnone (f a)
  | broken h hnone hr => exact .broken h hnone hr
  | mistaken hr => exact .mistaken hr
  | late h hnone hr => exact .late h hnone hr

/-! ### One step after another -/

section Bind

variable {x : Except Rejection α} {f : α → Except Rejection β}

/-- **Both steps need something, and both meet mistakes.** -/
theorem bind (hx : Needs C M (fun _ => False) x) (hf : ∀ a, x = .ok a → Needs D M' L (f a)) :
    Needs (C ∧ D) (fun r => M r ∨ C ∧ M' r) L (x >>= f) := by
  cases hx with
  | ok hC hnone a =>
      refine (hf a rfl).congr (and_iff_right hC).symm fun r => ?_
      rw [or_iff_right (hnone r), and_iff_right hC]
  | broken hC hnone hr =>
      refine .broken (fun h => hC h.1) (fun r => ?_) hr
      rintro (hr | ⟨h, -⟩)
      · exact hnone r hr
      · exact hC h
  | mistaken hr => exact .mistaken (.inl hr)
  | late _ _ hr => exact hr.elim

theorem clean_bind (hx : Needs C (fun _ => False) (fun _ => False) x)
    (hf : ∀ a, x = .ok a → Needs D M L (f a)) :
    Needs (C ∧ D) (fun r => C ∧ M r) L (x >>= f) :=
  (hx.bind hf).congr Iff.rfl fun _ => iff_of_eq (false_or _)

theorem bind_clean (hx : Needs C M (fun _ => False) x)
    (hf : ∀ a, x = .ok a → Needs D (fun _ => False) L (f a)) : Needs (C ∧ D) M L (x >>= f) := by
  refine (hx.bind hf).congr Iff.rfl fun r => ?_
  rw [and_false, or_false]

theorem check_bind (hx : Needs True M (fun _ => False) x)
    (hf : ∀ a, x = .ok a → Needs Q M' L (f a)) : Needs Q (fun r => M r ∨ M' r) L (x >>= f) := by
  refine (hx.bind hf).congr (iff_of_eq (true_and Q)) fun r => ?_
  rw [true_and]

theorem bind_check (hx : Needs Q M (fun _ => False) x)
    (hf : ∀ a, x = .ok a → Needs True M' L (f a)) :
    Needs Q (fun r => M r ∨ Q ∧ M' r) L (x >>= f) :=
  (hx.bind hf).congr (iff_of_eq (and_true Q)) fun _ => Iff.rfl

/-- The second step looks at no more nodes. -/
theorem finish (hx : Needs Q M (fun _ => False) x) (hf : ∀ a, x = .ok a → FailsOnly L (f a)) :
    Needs Q M L (x >>= f) :=
  (hx.bind_clean fun a ha => of_failsOnly trivial (hf a ha)).congr (iff_of_eq (and_true Q))
    fun _ => Iff.rfl

end Bind

section Rows

variable {γ : Type} {P : γ → Prop} {f : γ → Except Rejection α} {ms : List γ}

/-- **A row needs what its items need**, and a mistake is met after items that are complete. -/
theorem mapM {M : γ → Rejection → Prop} (h : ∀ m ∈ ms, Needs (P m) (M m) (fun _ => False) (f m)) :
    Needs (∀ m ∈ ms, P m) (MeetsIn P M ms) L (ms.mapM f) := by
  induction ms generalizing L with
  | nil => exact .ok (fun _ hm => nomatch hm) (fun _ hr => nomatch hr) []
  | cons m ms ih =>
      obtain ⟨hm, hms⟩ := List.forall_mem_cons.mp h
      rw [List.mapM_cons]
      refine (hm.bind fun y _ => (ih hms).finish fun ys _ => .ok (y :: ys)).congr
        List.forall_mem_cons.symm fun r => ⟨?_, ?_⟩
      · rintro (hr | ⟨hP, hr⟩)
        · exact .here hr
        · exact .later hP hr
      · rintro (hr | ⟨hP, hr⟩)
        · exact .inl hr
        · exact .inr ⟨hP, hr⟩

theorem mapM_clean (h : ∀ m ∈ ms, Needs (P m) (fun _ => False) (fun _ => False) (f m)) :
    Needs (∀ m ∈ ms, P m) (fun _ => False) L (ms.mapM f) := by
  refine (mapM h).congr Iff.rfl fun r => ⟨fun hr => ?_, False.elim⟩
  obtain ⟨_, -, hr⟩ := hr.exists_mem
  exact hr

end Rows

end Needs

/-! ### Parts and names -/

namespace Node

variable {n : Node} {P : Node → Prop} {i : ℕ} {f : Node → Except Rejection α}

/-- Every child has a text. -/
def HasTexts (n : Node) : Prop :=
  ∀ m ∈ n.children, m.text.isSome

/-- The first child is there and has a text. -/
def HasName (n : Node) : Prop :=
  ∃ named ∈ n.children[0]?, named.text.isSome

/-- A part is needed, and then what is needed of it. -/
theorem part_bind_needs {M : Node → Rejection → Prop}
    (hf : ∀ child, n.children[i]? = some child → Needs (P child) (M child) L (f child)) :
    Needs (∃ child ∈ n.children[i]?, P child) (fun r => ∃ child ∈ n.children[i]?, M child r) L
      (n.part i >>= f) := by
  rw [part, child?_ofNat]
  cases h : n.children[i]? with
  | none => exact .broken (by simp) (by simp) rfl
  | some child => exact (hf child h).congr (by simp) (by simp)

theorem part_bind_clean
    (hf : ∀ child, n.children[i]? = some child → Needs (P child) (fun _ => False) L (f child)) :
    Needs (∃ child ∈ n.children[i]?, P child) (fun _ => False) L (n.part i >>= f) := by
  refine (part_bind_needs hf).congr Iff.rfl fun r => ⟨?_, False.elim⟩
  rintro ⟨_, -, hr⟩
  exact hr

theorem token_needs : Needs n.text.isSome (fun _ => False) L n.token := by
  rw [token]
  cases h : n.text with
  | none => exact .broken (by simp) (fun _ => id) rfl
  | some text => exact .ok rfl (fun _ => id) text

theorem name_needs : Needs n.text.isSome (fun _ => False) L n.name :=
  token_needs.map _

theorem names_needs : Needs n.HasTexts (fun _ => False) L n.names :=
  .mapM_clean fun _ _ => name_needs

end Node

end AccessControl
