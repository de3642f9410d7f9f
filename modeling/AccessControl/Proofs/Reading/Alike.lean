import AccessControl.Attempt

/-!
# Reading — two attempts that go alike

Two attempts go alike (`Attempt.Alike`) when they keep the same journal and end in the same way:
with values that are related, or with errors that are.

**What goes alike step by step goes alike as a whole** (`Alike.bind`).
-/

namespace AccessControl.Attempt

variable {ε ε' α α' β β' : Type} {S : ε → ε' → Prop} {R : α → α' → Prop} {Q : β → β' → Prop}

/-- The attempts keep the same journal, and end with related values or with related errors. -/
inductive Alike (S : ε → ε' → Prop) (R : α → α' → Prop) :
    Attempt ε α → Attempt ε' α' → Prop where
  | ok {a : α} {a' : α'} {journal : List Entry} (h : R a a') :
      Alike S R ⟨.ok a, journal⟩ ⟨.ok a', journal⟩
  | error {e : ε} {e' : ε'} {journal : List Entry} (h : S e e') :
      Alike S R ⟨.error e, journal⟩ ⟨.error e', journal⟩

namespace Alike

theorem refl {S : ε → ε → Prop} {R : α → α → Prop} (hS : ∀ e, S e e) (hR : ∀ a, R a a)
    (x : Attempt ε α) : Alike S R x x := by
  obtain ⟨result, journal⟩ := x
  cases result with
  | ok a => exact .ok (hR a)
  | error e => exact .error (hS e)

theorem after {x : Attempt ε α} {y : Attempt ε' α'} (h : Alike S R x y) (journal : List Entry) :
    Alike S R (x.after journal) (y.after journal) := by
  cases h with
  | ok h => exact .ok h
  | error h => exact .error h

/-- **Steps that go alike go alike one after another.**  The second steps are reached with the
values of the first. -/
theorem bind {x : Attempt ε α} {y : Attempt ε' α'} {f : α → Attempt ε β} {g : α' → Attempt ε' β'}
    (h : Alike S R x y) (hf : ∀ a a', x.result = .ok a → R a a' → Alike S Q (f a) (g a')) :
    Alike S Q (x >>= f) (y >>= g) := by
  cases h with
  | ok h => exact (hf _ _ rfl h).after _
  | error h => exact .error h

/-- A step that two attempts share. -/
theorem bind_left {S : ε → ε → Prop} (hS : ∀ e, S e e) (x : Attempt ε α)
    {f : α → Attempt ε β} {g : α → Attempt ε β'}
    (hf : ∀ a, x.result = .ok a → Alike S Q (f a) (g a)) : Alike S Q (x >>= f) (x >>= g) :=
  (refl hS (fun _ => rfl) x).bind fun a _ ha h => h ▸ hf a ha

end Alike

end AccessControl.Attempt
