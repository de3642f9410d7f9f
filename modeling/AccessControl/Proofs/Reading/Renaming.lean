import AccessControl.Proofs.Reading.Rows

/-!
# Reading — errors under other names

Renaming the errors of a computation leaves what it does as it is.

**A computation with renamed errors is put together from steps with renamed errors**
(`mapError_bind`, `mapError_mapM`, `Attempt.mapError_bind`, `Attempt.mapError_mapM`).  **A loop that
keeps what it has found so far is a row that is read and then gone through**
(`foldlM_eq_foldl_mapM`).
-/

namespace AccessControl

variable {ε ε' α β γ σ : Type} {f : ε → ε'}

theorem mapError_bind (x : Except ε α) (g : α → Except ε β) :
    (x >>= g).mapError f = x.mapError f >>= fun a => (g a).mapError f := by
  cases x <;> rfl

theorem mapError_mapM (g : γ → Except ε α) (xs : List γ) :
    (xs.mapM g).mapError f = xs.mapM fun x => (g x).mapError f := by
  induction xs with
  | nil => rfl
  | cons x xs ih =>
      simp only [List.mapM_cons, mapError_bind, ih]
      rfl

/-- A row of computations that all end with a value ends with the values. -/
theorem mapM_ok (g : γ → α) (xs : List γ) :
    (xs.mapM fun x => (.ok (g x) : Except ε α)) = .ok (xs.map g) :=
  mapM_ok_iff.mpr (List.forall₂_map_right_iff.mpr (List.forall₂_same.mpr fun _ _ => rfl))

/-- A loop whose state is changed by what is read of each item, and by nothing else. -/
theorem foldlM_eq_foldl_mapM {m : Type → Type} [Monad m] [LawfulMonad m] (g : γ → m β)
    (next : σ → β → σ) (xs : List γ) (s : σ) :
    xs.foldlM (fun s x => next s <$> g x) s = (List.foldl next s ·) <$> xs.mapM g := by
  induction xs generalizing s with
  | nil => simp
  | cons x xs ih => simp [ih, bind_map_left, map_bind]

namespace Attempt

@[simp] theorem mapError_pure (a : α) :
    (pure a : Attempt ε α).mapError f = pure a := rfl

@[simp] theorem mapError_fail (e : ε) :
    (fail e : Attempt ε α).mapError f = fail (f e) := rfl

@[simp] theorem mapError_note (entry : Entry) :
    (note entry : Attempt ε Unit).mapError f = note entry := rfl

@[simp] theorem mapError_ofExcept (r : Except ε α) :
    (ofExcept r).mapError f = ofExcept (r.mapError f) := by
  cases r <;> rfl

theorem mapError_after (journal : List Entry) (x : Attempt ε α) :
    (x.after journal).mapError f = (x.mapError f).after journal := by
  ext
  · simp only [result_mapError, result_after]
  · simp only [journal_mapError, journal_after]

theorem mapError_bind (x : Attempt ε α) (g : α → Attempt ε β) :
    (x >>= g).mapError f = x.mapError f >>= fun a => (g a).mapError f := by
  cases h : x.result with
  | ok a =>
      have h' : (x.mapError f).result = .ok a := by rw [result_mapError, h]; rfl
      rw [bind_of_ok h, bind_of_ok h', mapError_after, journal_mapError]
  | error e =>
      have h' : (x.mapError f).result = .error (f e) := by rw [result_mapError, h]; rfl
      rw [bind_of_error h, bind_of_error h', journal_mapError]
      ext
      · rw [result_mapError]; rfl
      · rw [journal_mapError]

theorem mapError_map (g : α → β) (x : Attempt ε α) :
    (g <$> x).mapError f = g <$> x.mapError f := by
  rw [← bind_pure_comp, ← bind_pure_comp, mapError_bind]
  rfl

theorem mapError_mapM (g : γ → Attempt ε α) (xs : List γ) :
    (xs.mapM g).mapError f = xs.mapM fun x => (g x).mapError f := by
  induction xs with
  | nil => rfl
  | cons x xs ih => simp only [List.mapM_cons, mapError_bind, ih, mapError_pure]

theorem mapError_result_ok_iff {x : Attempt ε α} {a : α} :
    (x.mapError f).result = .ok a ↔ x.result = .ok a := by
  rw [result_mapError]
  cases x.result <;> simp [Except.mapError]

theorem mapError_result_error_iff {x : Attempt ε α} {e : ε'} :
    (x.mapError f).result = .error e ↔ ∃ e', x.result = .error e' ∧ f e' = e := by
  rw [result_mapError]
  cases x.result <;> simp [Except.mapError]

/-- The second attempt matters only for values that the first can have. -/
theorem bind_congr_of_ok {x : Attempt ε α} {g g' : α → Attempt ε β}
    (h : ∀ a, x.result = .ok a → g a = g' a) : x >>= g = x >>= g' := by
  cases hx : x.result with
  | ok a => rw [bind_of_ok hx, bind_of_ok hx, h a hx]
  | error e => rw [bind_of_error hx, bind_of_error hx]

end Attempt

end AccessControl
