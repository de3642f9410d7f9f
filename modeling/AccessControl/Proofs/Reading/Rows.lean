import AccessControl.Attempt
import Mathlib.Data.List.Forall2

/-!
# Reading — steps and rows

A reader takes what it needs from the nodes in front of it, one step after another, and reads a
row of nodes one by one.

* `bind_ok_iff`, `bind_error_iff`: two steps in a row succeed when both do.
* `mapM_ok_iff`: **a row is read when each of its items is**, with one value for each item and in
  the same order.
* `mapM_error_iff`: a row fails with the error of the first item that fails.
* `mapM_map`: what changes the value of each item changes the values of the row and nothing else.
* `exists_forall₂_iff`, `forall_of_forall₂`, `forall₂_getElem?`, `forall₂_getLast?`,
  `forall₂_find?`: what a row of values owes to its items.
* `FailsOnly.bind`, `FailsOnly.mapM`: what is true of the errors of each step is true of the errors
  of them all.
* `Attempt.result_mapM`, `Attempt.mapM_result_ok_iff`: the result of a row of attempts is the row of
  their results; what the journals hold does not matter to it.
-/

namespace AccessControl

variable {ε α β γ : Type}

theorem bind_ok_iff {x : Except ε α} {f : α → Except ε β} {b : β} :
    x >>= f = .ok b ↔ ∃ a, x = .ok a ∧ f a = .ok b := by
  cases x with
  | ok a => simp [bind, Except.bind]
  | error e => simp [bind, Except.bind]

/-- Two steps in a row fail when the first does, or else the second. -/
theorem bind_error_iff {x : Except ε α} {f : α → Except ε β} {e : ε} :
    x >>= f = .error e ↔ x = .error e ∨ ∃ a, x = .ok a ∧ f a = .error e := by
  cases x with
  | ok a => simp [bind, Except.bind]
  | error e => simp [bind, Except.bind]

theorem map_ok_iff {f : α → β} {x : Except ε α} {b : β} :
    x.map f = .ok b ↔ ∃ a, x = .ok a ∧ f a = b := by
  cases x with
  | ok a => simp [Except.map]
  | error e => simp [Except.map]

theorem map_error_iff {f : α → β} {x : Except ε α} {e : ε} :
    x.map f = .error e ↔ x = .error e := by
  cases x with
  | ok a => simp [Except.map]
  | error e => simp [Except.map]

theorem toOption_eq_some_iff {x : Except ε α} {a : α} : x.toOption = some a ↔ x = .ok a := by
  cases x with
  | ok a => simp [Except.toOption]
  | error e => simp [Except.toOption]

/-- **A row is read when each of its items is.** -/
theorem mapM_ok_iff {f : α → Except ε β} {xs : List α} {ys : List β} :
    xs.mapM f = .ok ys ↔ List.Forall₂ (fun x y => f x = .ok y) xs ys := by
  induction xs generalizing ys with
  | nil =>
      rw [List.mapM_nil, List.forall₂_nil_left_iff]
      exact ⟨fun h => (Except.ok.inj h).symm, fun h => h ▸ rfl⟩
  | cons x xs ih =>
      simp only [List.mapM_cons, bind_ok_iff, ih, List.forall₂_cons_left_iff]
      refine ⟨?_, ?_⟩
      · rintro ⟨y, hy, ys', hys, h⟩
        exact ⟨y, ys', hy, hys, (Except.ok.inj h).symm⟩
      · rintro ⟨y, ys', hy, hys, rfl⟩
        exact ⟨y, hy, ys', hys, rfl⟩

/-- A row fails with the error of the first item that fails. -/
theorem mapM_error_iff {f : α → Except ε β} {xs : List α} {e : ε} :
    xs.mapM f = .error e ↔
      ∃ before x after ys, xs = before ++ x :: after ∧ before.mapM f = .ok ys ∧ f x = .error e := by
  refine ⟨fun h => ?_, ?_⟩
  · induction xs with
    | nil => exact nomatch h
    | cons x xs ih =>
        rw [List.mapM_cons] at h
        cases hx : f x with
        | error e' =>
            rw [hx] at h
            cases h
            exact ⟨[], x, xs, [], rfl, rfl, hx⟩
        | ok y =>
            rw [hx] at h
            cases hxs : xs.mapM f with
            | ok ys =>
                rw [hxs] at h
                exact nomatch h
            | error e' =>
                rw [hxs] at h
                cases h
                obtain ⟨before, x', after, ys, rfl, hys, hx'⟩ := ih hxs
                refine ⟨x :: before, x', after, y :: ys, rfl, ?_, hx'⟩
                rw [List.mapM_cons, hx, hys]
                rfl
  · rintro ⟨before, x, after, ys, rfl, hys, hx⟩
    rw [List.mapM_append, hys, List.mapM_cons, hx]
    rfl

/-- What changes each value changes the values of a row. -/
theorem mapM_map (g : β → γ) (f : α → Except ε β) (xs : List α) :
    xs.mapM (fun x => g <$> f x) = List.map g <$> xs.mapM f := by
  induction xs with
  | nil => rfl
  | cons x xs ih =>
      simp only [List.mapM_cons, ih, map_bind, bind_map_left, map_pure, List.map_cons]

/-- A relation between the items of a row and their values holds for some values when each item
has one. -/
theorem exists_forall₂_iff {R : α → β → Prop} {xs : List α} :
    (∃ ys, List.Forall₂ R xs ys) ↔ ∀ x ∈ xs, ∃ y, R x y := by
  induction xs with
  | nil => simp
  | cons x xs ih =>
      simp only [List.forall₂_cons_left_iff, List.forall_mem_cons, ← ih]
      refine ⟨?_, ?_⟩
      · rintro ⟨_, y, ys, hy, hys, rfl⟩
        exact ⟨⟨y, hy⟩, ys, hys⟩
      · rintro ⟨⟨y, hy⟩, ys, hys⟩
        exact ⟨y :: ys, y, ys, hy, hys, rfl⟩

/-- What holds of each value that an item can have holds of the values of a row. -/
theorem forall_of_forall₂ {R : α → β → Prop} {P : β → Prop} {xs : List α} {ys : List β}
    (h : List.Forall₂ R xs ys) (hP : ∀ x y, R x y → P y) : ∀ y ∈ ys, P y := by
  induction h with
  | nil => exact fun _ hy => nomatch hy
  | cons hxy _ ih => exact List.forall_mem_cons.mpr ⟨hP _ _ hxy, ih⟩

/-- Each value of a row is related to an item. -/
theorem exists_of_forall₂ {R : α → β → Prop} {xs : List α} {ys : List β}
    (h : List.Forall₂ R xs ys) : ∀ y ∈ ys, ∃ x ∈ xs, R x y := by
  induction h with
  | nil => exact fun _ hy => nomatch hy
  | cons hxy _ ih =>
      refine List.forall_mem_cons.mpr ⟨⟨_, List.mem_cons_self, hxy⟩, fun y hy => ?_⟩
      obtain ⟨x, hx, hR⟩ := ih y hy
      exact ⟨x, List.mem_cons_of_mem _ hx, hR⟩

/-- A row that is made from values is related to them when each of its items is. -/
theorem forall₂_map_self {R : α → β → Prop} {f : β → α} {ys : List β}
    (h : ∀ y ∈ ys, R (f y) y) : List.Forall₂ R (ys.map f) ys := by
  rw [List.forall₂_map_left_iff, List.forall₂_same]
  exact h

/-- Values of a row that all have a property are related to the items by both. -/
theorem forall₂_and_right {R : α → β → Prop} {P : β → Prop} {xs : List α} {ys : List β} :
    List.Forall₂ R xs ys ∧ (∀ y ∈ ys, P y) ↔ List.Forall₂ (fun x y => R x y ∧ P y) xs ys := by
  refine ⟨?_, fun h => ⟨h.imp fun _ _ => And.left, ?_⟩⟩
  · rintro ⟨h, hP⟩
    induction h with
    | nil => exact .nil
    | cons hxy _ ih =>
        obtain ⟨hy, hys⟩ := List.forall_mem_cons.mp hP
        exact .cons ⟨hxy, hy⟩ (ih hys)
  · exact forall_of_forall₂ h fun _ _ => And.right

/-- The last value of a row is that of the last item. -/
theorem forall₂_getLast? {R : α → β → Prop} {xs : List α} {ys : List β}
    (h : List.Forall₂ R xs ys) : Option.Rel R xs.getLast? ys.getLast? := by
  have hreverse := List.forall₂_reverse_iff.mpr h
  rw [List.getLast?_eq_head?_reverse, List.getLast?_eq_head?_reverse]
  generalize xs.reverse = xs', ys.reverse = ys' at hreverse
  cases hreverse with
  | nil => exact .none
  | cons hxy _ => exact .some hxy

/-- Two related rows are searched for what holds of the items in the same places. -/
theorem forall₂_find? {R : α → β → Prop} {p : α → Bool} {q : β → Bool} {xs : List α} {ys : List β}
    (h : List.Forall₂ R xs ys) (hpq : ∀ x y, R x y → p x = q y) :
    Option.Rel R (xs.find? p) (ys.find? q) := by
  induction h with
  | nil => exact .none
  | @cons x y xs ys hxy _ ih =>
      rw [List.find?_cons, List.find?_cons, hpq x y hxy]
      cases q y with
      | true => exact .some hxy
      | false => exact ih

/-- Rows that are equal item by item are equal. -/
theorem eq_of_forall₂ {xs ys : List α} (h : List.Forall₂ Eq xs ys) : xs = ys := by
  rwa [List.forall₂_eq_eq_eq] at h

/-- The items in the same place of two related rows are related. -/
theorem forall₂_getElem? {R : α → β → Prop} {xs : List α} {ys : List β}
    (h : List.Forall₂ R xs ys) (i : ℕ) : Option.Rel R xs[i]? ys[i]? := by
  induction h generalizing i with
  | nil => exact .none
  | cons hxy _ ih =>
      cases i with
      | zero => exact .some hxy
      | succ i => exact ih i

/-- An item is there, and has a property, when the row is long enough and the item that is there
has the property. -/
theorem exists_getElem?_iff {P : α → Prop} {xs : List α} {i : ℕ} :
    (∃ x, xs[i]? = some x ∧ P x) ↔ i < xs.length ∧ ∀ x ∈ xs[i]?, P x := by
  by_cases h : i < xs.length
  · simp [h]
  · simp [h]

/-! ### What errors have in common -/

/-- Every error of the computation has the property. -/
def FailsOnly (P : ε → Prop) (x : Except ε α) : Prop :=
  ∀ e, x = .error e → P e

namespace FailsOnly

variable {P Q : ε → Prop}

theorem ok (a : α) : FailsOnly P (.ok a : Except ε α) :=
  fun _ h => nomatch h

theorem error {e : ε} (h : P e) : FailsOnly P (.error e : Except ε α) := by
  rintro _ ⟨⟩
  exact h

theorem imp {x : Except ε α} (h : FailsOnly P x) (hPQ : ∀ e, P e → Q e) : FailsOnly Q x :=
  fun e he => hPQ e (h e he)

/-- The second step is reached with the value of the first. -/
theorem bind {x : Except ε α} {f : α → Except ε β} (hx : FailsOnly P x)
    (hf : ∀ a, x = .ok a → FailsOnly P (f a)) : FailsOnly P (x >>= f) := by
  cases x with
  | ok a => exact hf a rfl
  | error e => exact error (hx e rfl)

theorem map {x : Except ε α} (h : FailsOnly P x) (f : α → β) : FailsOnly P (x.map f) := by
  cases x with
  | ok a => exact ok (f a)
  | error e => exact error (h e rfl)

theorem mapM {f : α → Except ε β} {xs : List α} (h : ∀ x ∈ xs, FailsOnly P (f x)) :
    FailsOnly P (xs.mapM f) := by
  induction xs with
  | nil => exact ok []
  | cons x xs ih =>
      obtain ⟨hx, hxs⟩ := List.forall_mem_cons.mp h
      rw [List.mapM_cons]
      exact hx.bind fun y _ => (ih hxs).bind fun ys _ => ok (y :: ys)

end FailsOnly

namespace Attempt

theorem result_map (f : α → β) (x : Attempt ε α) : (f <$> x).result = f <$> x.result := by
  rw [← bind_pure_comp, ← bind_pure_comp, result_bind]
  rfl

/-- The result of a row of attempts is the row of their results. -/
theorem result_mapM (f : α → Attempt ε β) (xs : List α) :
    (xs.mapM f).result = xs.mapM fun x => (f x).result := by
  induction xs with
  | nil => rfl
  | cons x xs ih =>
      simp only [List.mapM_cons, result_bind, ih, result_pure]
      rfl

theorem mapM_result_ok_iff {f : α → Attempt ε β} {xs : List α} {ys : List β} :
    (xs.mapM f).result = .ok ys ↔ List.Forall₂ (fun x y => (f x).result = .ok y) xs ys := by
  rw [result_mapM, mapM_ok_iff]

end Attempt

end AccessControl
