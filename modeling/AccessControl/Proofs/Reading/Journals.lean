import AccessControl.Proofs.Reading.Paired

/-!
# Reading — what a journal owes to its steps

Results are put together from the results of the steps, and so are journals.  A second step adds to
the journal if it is reached, which it is when the first has a value.

* `Attempt.journal_mapM`: **a row keeps the journals of its items up to the first that fails**, that
  one included (`Attempt.reached`).
* `Attempt.journal_ofExcept_bind`: after a result without a history only what follows counts.
* `Attempt.journal_bind_silent`, `Attempt.journal_bind_const`: what is added by a second step that
  notes the same with every value, be it nothing.
-/

namespace AccessControl.Attempt

variable {ε α β : Type}

/-! ### Journals -/

theorem journal_bind_of_ok {x : Attempt ε α} {a : α} (h : x.result = .ok a)
    (f : α → Attempt ε β) : (x >>= f).journal = x.journal ++ (f a).journal := by
  rw [bind_of_ok h, journal_after]

theorem journal_bind_of_error {x : Attempt ε α} {e : ε} (h : x.result = .error e)
    (f : α → Attempt ε β) : (x >>= f).journal = x.journal := by
  rw [bind_of_error h]

/-- After a result without a history only what follows counts, if there is a value. -/
theorem journal_ofExcept_bind (r : Except ε α) (f : α → Attempt ε β) :
    (ofExcept r >>= f).journal = r.toOption.toList.flatMap fun a => (f a).journal := by
  cases r with
  | error e => rfl
  | ok a => exact (List.flatMap_singleton (fun a => (f a).journal) a).symm

/-- A second step that notes the same with every value notes it when it is reached. -/
theorem journal_bind_const (x : Attempt ε α) {p : Prop} [Decidable p]
    (hp : (∃ a, x.result = .ok a) ↔ p) {f : α → Attempt ε β} {j : List Entry}
    (hf : ∀ a, (f a).journal = j) :
    (x >>= f).journal = x.journal ++ if p then j else [] := by
  cases h : x.result with
  | error e =>
      have hfails : ¬ p := by
        rw [← hp, h]
        rintro ⟨_, ⟨⟩⟩
      rw [journal_bind_of_error h, if_neg hfails, List.append_nil]
  | ok a => rw [journal_bind_of_ok h, hf a, if_pos (hp.mp ⟨a, h⟩)]

/-- A second step that notes nothing adds nothing. -/
theorem journal_bind_silent (x : Attempt ε α) {f : α → Attempt ε β}
    (hf : ∀ a, (f a).journal = []) : (x >>= f).journal = x.journal := by
  cases h : x.result with
  | error e => rw [journal_bind_of_error h]
  | ok a => rw [journal_bind_of_ok h, hf a, List.append_nil]

/-- A note on the error stands at the end. -/
theorem journal_noteError (x : Attempt ε α) (entry : ε → Entry) :
    (x.noteError entry).journal =
      x.journal ++ match x.result with
        | .ok _ => []
        | .error e => [entry e] := by
  cases h : x.result with
  | ok a => rw [noteError, recover_of_ok h, List.append_nil]
  | error e =>
      rw [noteError, recover_of_error h]
      rfl

/-! ### Rows -/

/-- The items of a row that an attempt at the row gets to: those up to the first that fails, and
that one. -/
def reached (f : α → Attempt ε β) (xs : List α) : List α :=
  xs.take (xs.findIdx (fun x => !(f x).result.isOk) + 1)

theorem reached_cons_of_ok {f : α → Attempt ε β} {x : α} {b : β} (h : (f x).result = .ok b)
    (xs : List α) : reached f (x :: xs) = x :: reached f xs := by
  simp [reached, List.findIdx_cons, h, Except.isOk, Except.toBool]

theorem reached_cons_of_error {f : α → Attempt ε β} {x : α} {e : ε} (h : (f x).result = .error e)
    (xs : List α) : reached f (x :: xs) = [x] := by
  simp [reached, List.findIdx_cons, h, Except.isOk, Except.toBool]

/-- **A row keeps the journals of its items up to the first that fails.** -/
theorem journal_mapM (f : α → Attempt ε β) (xs : List α) :
    (xs.mapM f).journal = (reached f xs).flatMap fun x => (f x).journal := by
  induction xs with
  | nil => rfl
  | cons x xs ih =>
      rw [List.mapM_cons]
      cases hx : (f x).result with
      | error e =>
          rw [journal_bind_of_error hx, reached_cons_of_error hx, List.flatMap_singleton]
      | ok b =>
          rw [journal_bind_of_ok hx, reached_cons_of_ok hx, List.flatMap_cons, ← ih, bind_pure_comp,
            journal_map]

end AccessControl.Attempt
