import AccessControl.Proofs.Reading.Rows
import AccessControl.Proofs.Reading.Renaming

/-!
# Reading — two runs side by side

Two runs of a reader can differ in the tree that is read or in the catalog that is asked.  They are
compared step by step.

* `EndAlike`: both end with a value and the values are related, or both end with an error and the
  errors are.
* `Attempt.Paired`: they end alike, and their journals are related.  The relation between journals
  has to be `Additive`: it holds of two journals that are put together from related parts.

**Runs that are paired at each step are paired as a whole** (`Attempt.Paired.bind`,
`Attempt.Paired.mapM`).
-/

namespace AccessControl

variable {ε ε' α α' β β' : Type} {S : ε → ε' → Prop} {R : α → α' → Prop} {Q : β → β' → Prop}

/-! ### Results -/

/-- The computations end with related values or with related errors. -/
inductive EndAlike (S : ε → ε' → Prop) (R : α → α' → Prop) : Except ε α → Except ε' α' → Prop where
  | ok {a : α} {a' : α'} (h : R a a') : EndAlike S R (.ok a) (.ok a')
  | error {e : ε} {e' : ε'} (h : S e e') : EndAlike S R (.error e) (.error e')

namespace EndAlike

theorem refl {S : ε → ε → Prop} {R : α → α → Prop} (hS : ∀ e, S e e) (hR : ∀ a, R a a)
    (x : Except ε α) : EndAlike S R x x := by
  cases x with
  | ok a => exact .ok (hR a)
  | error e => exact .error (hS e)

theorem imp {S' : ε → ε' → Prop} {R' : α → α' → Prop} {x : Except ε α} {y : Except ε' α'}
    (h : EndAlike S R x y) (hS : ∀ e e', S e e' → S' e e') (hR : ∀ a a', R a a' → R' a a') :
    EndAlike S' R' x y := by
  cases h with
  | ok h => exact .ok (hR _ _ h)
  | error h => exact .error (hS _ _ h)

/-- Runs that end alike up to equality end equally. -/
theorem eq {x y : Except ε α} (h : EndAlike Eq Eq x y) : x = y := by
  cases h with
  | ok h => rw [h]
  | error h => rw [h]

/-- The second steps are reached with related values. -/
theorem bind {x : Except ε α} {y : Except ε' α'} {f : α → Except ε β} {g : α' → Except ε' β'}
    (h : EndAlike S R x y) (hf : ∀ a a', R a a' → EndAlike S Q (f a) (g a')) :
    EndAlike S Q (x >>= f) (y >>= g) := by
  cases h with
  | ok h => exact hf _ _ h
  | error h => exact .error h

/-- The second steps are reached with the same value. -/
theorem bind_eq {x : Except ε α} {y : Except ε' α} {f : α → Except ε β} {g : α → Except ε' β'}
    (h : EndAlike S Eq x y) (hf : ∀ a, EndAlike S Q (f a) (g a)) :
    EndAlike S Q (x >>= f) (y >>= g) := by
  refine h.bind ?_
  rintro a _ rfl
  exact hf a

/-- A computation ends like itself, with what is true of its errors. -/
theorem of_failsOnly {P : ε → Prop} {x : Except ε α} (h : FailsOnly P x) :
    EndAlike (fun e e' => P e ∧ P e') Eq x x := by
  cases x with
  | ok a => exact .ok rfl
  | error e => exact .error ⟨h e rfl, h e rfl⟩

theorem map {x : Except ε α} {y : Except ε' α'} {f : α → β} {g : α' → β'}
    (h : EndAlike S R x y) (hf : ∀ a a', R a a' → Q (f a) (g a')) :
    EndAlike S Q (x.map f) (y.map g) := by
  cases h with
  | ok h => exact .ok (hf _ _ h)
  | error h => exact .error h

/-- Rows end alike when they are as long and their items end alike one by one. -/
theorem mapM {γ γ' : Type} {T : γ → γ' → Prop} {f : γ → Except ε α} {g : γ' → Except ε' α'}
    {xs : List γ} {ys : List γ'} (h : List.Forall₂ T xs ys)
    (hf : ∀ x y, T x y → EndAlike S R (f x) (g y)) :
    EndAlike S (List.Forall₂ R) (xs.mapM f) (ys.mapM g) := by
  induction h with
  | nil => exact .ok .nil
  | cons hxy _ ih =>
      rw [List.mapM_cons, List.mapM_cons]
      refine (hf _ _ hxy).bind fun a a' ha => ?_
      exact ih.bind fun as as' has => .ok (.cons ha has)

/-- Rows whose items have the same values have the same values. -/
theorem mapM_eq {γ γ' : Type} {T : γ → γ' → Prop} {f : γ → Except ε α} {g : γ' → Except ε' α}
    {xs : List γ} {ys : List γ'} (h : List.Forall₂ T xs ys)
    (hf : ∀ x y, T x y → EndAlike S Eq (f x) (g y)) : EndAlike S Eq (xs.mapM f) (ys.mapM g) :=
  (mapM h hf).imp (fun _ _ => id) fun _ _ => eq_of_forall₂

end EndAlike

/-! ### Attempts -/

/-- The relation holds of journals that are put together from related parts. -/
structure Additive (J : List Entry → List Entry → Prop) : Prop where
  nil : J [] []
  append {j j' k k' : List Entry} : J j j' → J k k' → J (j ++ k) (j' ++ k')

/-- What two functions tell of journals agrees on journals that are put together from parts where it
agrees. -/
theorem additive_of_append {γ : Type} {f g : List Entry → List γ} (hf : f [] = [])
    (hg : g [] = []) (hf' : ∀ j k, f (j ++ k) = f j ++ f k)
    (hg' : ∀ j k, g (j ++ k) = g j ++ g k) : Additive fun j j' => g j' = f j where
  nil := hg.trans hf.symm
  append h h' := by rw [hf', hg', h, h']

namespace Attempt

/-- The attempts end alike, and their journals are related. -/
structure Paired (J : List Entry → List Entry → Prop) (S : ε → ε' → Prop) (R : α → α' → Prop)
    (x : Attempt ε α) (y : Attempt ε' α') : Prop where
  journal : J x.journal y.journal
  result : EndAlike S R x.result y.result

namespace Paired

variable {J : List Entry → List Entry → Prop}

theorem imp {J' : List Entry → List Entry → Prop} {S' : ε → ε' → Prop} {R' : α → α' → Prop}
    {x : Attempt ε α} {y : Attempt ε' α'} (h : Paired J S R x y)
    (hJ : ∀ j j', J j j' → J' j j') (hS : ∀ e e', S e e' → S' e e')
    (hR : ∀ a a', R a a' → R' a a') : Paired J' S' R' x y :=
  ⟨hJ _ _ h.journal, h.result.imp hS hR⟩

theorem ofExcept (hJ : Additive J) {x : Except ε α} {y : Except ε' α'} (h : EndAlike S R x y) :
    Paired J S R (ofExcept x) (ofExcept y) :=
  ⟨hJ.nil, h⟩

theorem pure (hJ : Additive J) {a : α} {a' : α'} (h : R a a') :
    Paired J S R (pure a : Attempt ε α) (pure a' : Attempt ε' α') :=
  ⟨hJ.nil, .ok h⟩

theorem fail (hJ : Additive J) {e : ε} {e' : ε'} (h : S e e') :
    Paired J S R (fail e : Attempt ε α) (fail e' : Attempt ε' α') :=
  ⟨hJ.nil, .error h⟩

/-- **Runs that are paired at each step are paired as a whole.** -/
theorem bind (hJ : Additive J) {x : Attempt ε α} {y : Attempt ε' α'} {f : α → Attempt ε β}
    {g : α' → Attempt ε' β'} (h : Paired J S R x y)
    (hf : ∀ a a', R a a' → Paired J S Q (f a) (g a')) : Paired J S Q (x >>= f) (y >>= g) := by
  obtain ⟨result, j⟩ := x
  obtain ⟨result', j'⟩ := y
  obtain ⟨hj, hr⟩ := h
  dsimp only at hj hr
  cases hr with
  | ok h => exact ⟨hJ.append hj (hf _ _ h).journal, (hf _ _ h).result⟩
  | error h => exact ⟨hj, .error h⟩

/-- The second attempts are reached with the same value. -/
theorem bind_eq (hJ : Additive J) {x : Attempt ε α} {y : Attempt ε' α} {f : α → Attempt ε β}
    {g : α → Attempt ε' β'} (h : Paired J S Eq x y) (hf : ∀ a, Paired J S Q (f a) (g a)) :
    Paired J S Q (x >>= f) (y >>= g) := by
  refine h.bind hJ ?_
  rintro a _ rfl
  exact hf a

/-- The first steps note nothing. -/
theorem ofExcept_bind (hJ : Additive J) {x : Except ε α} {y : Except ε' α'}
    {f : α → Attempt ε β} {g : α' → Attempt ε' β'} (h : EndAlike S R x y)
    (hf : ∀ a a', R a a' → Paired J S Q (f a) (g a')) :
    Paired J S Q (Attempt.ofExcept x >>= f) (Attempt.ofExcept y >>= g) :=
  (ofExcept hJ h).bind hJ hf

theorem ofExcept_bind_eq (hJ : Additive J) {x : Except ε α} {y : Except ε' α}
    {f : α → Attempt ε β} {g : α → Attempt ε' β'} (h : EndAlike S Eq x y)
    (hf : ∀ a, Paired J S Q (f a) (g a)) :
    Paired J S Q (Attempt.ofExcept x >>= f) (Attempt.ofExcept y >>= g) :=
  (ofExcept hJ h).bind_eq hJ hf

theorem after (hJ : Additive J) {j j' : List Entry} (hj : J j j') {x : Attempt ε α}
    {y : Attempt ε' α'} (h : Paired J S R x y) : Paired J S R (x.after j) (y.after j') :=
  ⟨hJ.append hj h.journal, h.result⟩

/-- Errors are noted side by side. -/
theorem noteError (hJ : Additive J) {x : Attempt ε α} {y : Attempt ε' α'} {f : ε → Entry}
    {g : ε' → Entry} (h : Paired J S R x y) (hf : ∀ e e', S e e' → J [f e] [g e']) :
    Paired J S R (x.noteError f) (y.noteError g) := by
  obtain ⟨result, j⟩ := x
  obtain ⟨result', j'⟩ := y
  obtain ⟨hj, hr⟩ := h
  dsimp only at hj hr
  cases hr with
  | ok h => exact ⟨hj, .ok h⟩
  | error h => exact ⟨hJ.append hj (hf _ _ h), .error h⟩

theorem map {x : Attempt ε α} {y : Attempt ε' α'} {f : α → β} {g : α' → β'}
    (h : Paired J S R x y) (hf : ∀ a a', R a a' → Q (f a) (g a')) :
    Paired J S Q (f <$> x) (g <$> y) := by
  refine ⟨?_, ?_⟩
  · rw [journal_map, journal_map]
    exact h.journal
  · rw [result_map, result_map]
    exact h.result.map hf

/-- Equal errors are renamed side by side. -/
theorem mapError {ε'' : Type} {x : Attempt ε α} {y : Attempt ε α'} (h : Paired J Eq R x y)
    (f : ε → ε'') : Paired J Eq R (x.mapError f) (y.mapError f) := by
  obtain ⟨hj, hr⟩ := h
  refine ⟨?_, ?_⟩
  · rwa [journal_mapError, journal_mapError]
  · rw [result_mapError, result_mapError]
    generalize x.result = r, y.result = r' at hr
    cases hr with
    | ok ha => exact .ok ha
    | error he => exact .error (congrArg f he)

/-- A row is paired with a row of items that are paired with its items. -/
theorem mapM (hJ : Additive J) {γ γ' : Type} {T : γ → γ' → Prop} {f : γ → Attempt ε α}
    {g : γ' → Attempt ε' α'} {xs : List γ} {ys : List γ'} (h : List.Forall₂ T xs ys)
    (hf : ∀ x y, T x y → Paired J S R (f x) (g y)) :
    Paired J S (List.Forall₂ R) (xs.mapM f) (ys.mapM g) := by
  induction h with
  | nil => exact .pure hJ .nil
  | cons hxy _ ih =>
      rw [List.mapM_cons, List.mapM_cons]
      refine (hf _ _ hxy).bind hJ fun a a' ha => ?_
      exact ih.bind hJ fun as as' has => .pure hJ (.cons ha has)

theorem mapM_eq (hJ : Additive J) {γ γ' : Type} {T : γ → γ' → Prop} {f : γ → Attempt ε α}
    {g : γ' → Attempt ε' α} {xs : List γ} {ys : List γ'} (h : List.Forall₂ T xs ys)
    (hf : ∀ x y, T x y → Paired J S Eq (f x) (g y)) :
    Paired J S Eq (xs.mapM f) (ys.mapM g) :=
  (mapM hJ h hf).imp (fun _ _ => id) (fun _ _ => id) fun _ _ => eq_of_forall₂

end Paired

end Attempt

end AccessControl
