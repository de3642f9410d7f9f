import AccessControl.Journal

/-!
# Attempts

An attempt is a computation that ends with a value or an error, and that keeps a journal in both
cases.  One attempt after another keeps the journals of both, in order; nothing is attempted
after an error.
-/

namespace AccessControl

/-- A result and the journal of what led to it. -/
structure Attempt (ε α : Type) where
  result : Except ε α
  journal : List Entry := []

namespace Attempt

variable {ε ε' α β : Type}

@[ext] theorem ext {x y : Attempt ε α} (result : x.result = y.result)
    (journal : x.journal = y.journal) : x = y := by
  cases x; cases y; cases result; cases journal; rfl

/-! ### Building attempts -/

/-- The attempt that ends with an error at once. -/
def fail (e : ε) : Attempt ε α where
  result := .error e

/-- The attempt that only notes an event. -/
def note (entry : Entry) : Attempt ε Unit where
  result := .ok ()
  journal := [entry]

/-- A result without a history. -/
def ofExcept (r : Except ε α) : Attempt ε α where
  result := r

/-- The journal comes first, then the attempt. -/
def after (journal : List Entry) (x : Attempt ε α) : Attempt ε α where
  result := x.result
  journal := journal ++ x.journal

/-- One attempt after another, which is chosen by the value of the first. -/
protected def bind (x : Attempt ε α) (f : α → Attempt ε β) : Attempt ε β :=
  match x.result with
  | .ok a => (f a).after x.journal
  | .error e => ⟨.error e, x.journal⟩

instance : Monad (Attempt ε) where
  pure a := ⟨.ok a, []⟩
  bind := Attempt.bind

instance : MonadLift (Except ε) (Attempt ε) where
  monadLift := ofExcept

/-- Where an attempt fails, the handler goes on. -/
def recover (x : Attempt ε α) (handler : ε → Attempt ε' α) : Attempt ε' α :=
  match x.result with
  | .ok a => ⟨.ok a, x.journal⟩
  | .error e => (handler e).after x.journal

/-- An attempt whose error, if there is one, is noted at the end. -/
def noteError (x : Attempt ε α) (entry : ε → Entry) : Attempt ε α :=
  x.recover fun e => (fail e).after [entry e]

/-- The same attempt, with another account of the error. -/
def mapError (x : Attempt ε α) (f : ε → ε') : Attempt ε' α :=
  x.recover fun e => fail (f e)

/-! ### One equation per operation -/

@[simp] theorem result_pure (a : α) : (pure a : Attempt ε α).result = .ok a := rfl

@[simp] theorem journal_pure (a : α) : (pure a : Attempt ε α).journal = [] := rfl

@[simp] theorem result_fail (e : ε) : (fail e : Attempt ε α).result = .error e := rfl

@[simp] theorem journal_fail (e : ε) : (fail e : Attempt ε α).journal = [] := rfl

@[simp] theorem result_note (entry : Entry) : (note entry : Attempt ε Unit).result = .ok () := rfl

@[simp] theorem journal_note (entry : Entry) : (note entry : Attempt ε Unit).journal = [entry] :=
  rfl

@[simp] theorem result_ofExcept (r : Except ε α) : (ofExcept r).result = r := rfl

@[simp] theorem journal_ofExcept (r : Except ε α) : (ofExcept r).journal = [] := rfl

@[simp] theorem liftM_eq (r : Except ε α) : (liftM r : Attempt ε α) = ofExcept r := rfl

@[simp] theorem monadLift_eq (r : Except ε α) :
    (MonadLift.monadLift r : Attempt ε α) = ofExcept r := rfl

@[simp] theorem result_after (journal : List Entry) (x : Attempt ε α) :
    (x.after journal).result = x.result := rfl

@[simp] theorem journal_after (journal : List Entry) (x : Attempt ε α) :
    (x.after journal).journal = journal ++ x.journal := rfl

@[simp] theorem after_nil (x : Attempt ε α) : x.after [] = x := rfl

@[simp] theorem after_after (j k : List Entry) (x : Attempt ε α) :
    (x.after k).after j = x.after (j ++ k) := by
  ext <;> simp

theorem bind_of_ok {x : Attempt ε α} {a : α} (h : x.result = .ok a) (f : α → Attempt ε β) :
    x >>= f = (f a).after x.journal := by
  change Attempt.bind x f = _
  rw [Attempt.bind, h]

theorem bind_of_error {x : Attempt ε α} {e : ε} (h : x.result = .error e) (f : α → Attempt ε β) :
    x >>= f = ⟨.error e, x.journal⟩ := by
  change Attempt.bind x f = _
  rw [Attempt.bind, h]

theorem recover_of_ok {x : Attempt ε α} {a : α} (h : x.result = .ok a)
    (handler : ε → Attempt ε' α) : x.recover handler = ⟨.ok a, x.journal⟩ := by
  rw [recover, h]

theorem recover_of_error {x : Attempt ε α} {e : ε} (h : x.result = .error e)
    (handler : ε → Attempt ε' α) : x.recover handler = (handler e).after x.journal := by
  rw [recover, h]

theorem result_bind (x : Attempt ε α) (f : α → Attempt ε β) :
    (x >>= f).result = x.result >>= fun a => (f a).result := by
  cases h : x.result with
  | ok a => rw [bind_of_ok h]; rfl
  | error e => rw [bind_of_error h]; rfl

/-- An attempt that maps its value succeeds when it did before. -/
theorem map_result_ok_iff {x : Attempt ε α} {f : α → β} {b : β} :
    (f <$> x).result = .ok b ↔ ∃ a, x.result = .ok a ∧ f a = b := by
  change (x.bind fun a => pure (f a)).result = .ok b ↔ _
  rw [Attempt.bind]
  cases x.result <;> simp

/-- Two attempts in a row succeed when both do. -/
theorem bind_result_ok_iff {x : Attempt ε α} {f : α → Attempt ε β} {b : β} :
    (x >>= f).result = .ok b ↔ ∃ a, x.result = .ok a ∧ (f a).result = .ok b := by
  cases h : x.result with
  | ok a => rw [bind_of_ok h]; simp
  | error e => rw [bind_of_error h]; simp

theorem bind_after (journal : List Entry) (x : Attempt ε α) (f : α → Attempt ε β) :
    x.after journal >>= f = (x >>= f).after journal := by
  cases h : x.result with
  | ok a =>
      rw [bind_of_ok h, bind_of_ok (x := x.after journal) h]
      simp
  | error e =>
      rw [bind_of_error h, bind_of_error (x := x.after journal) h]
      rfl

/-- Noting an error changes no result. -/
@[simp] theorem result_noteError (x : Attempt ε α) (entry : ε → Entry) :
    (x.noteError entry).result = x.result := by
  cases h : x.result with
  | ok a => rw [noteError, recover_of_ok h]
  | error e => rw [noteError, recover_of_error h]; rfl

theorem journal_mapError (x : Attempt ε α) (f : ε → ε') :
    (x.mapError f).journal = x.journal := by
  cases h : x.result with
  | ok a => rw [mapError, recover_of_ok h]
  | error e => rw [mapError, recover_of_error h, journal_after, journal_fail, List.append_nil]

theorem result_mapError (x : Attempt ε α) (f : ε → ε') :
    (x.mapError f).result = x.result.mapError f := by
  cases h : x.result with
  | ok a =>
      rw [mapError, recover_of_ok h]
      rfl
  | error e =>
      rw [mapError, recover_of_error h]
      rfl

instance : LawfulMonad (Attempt ε) :=
  LawfulMonad.mk' (Attempt ε)
    (fun x => by
      change x.bind (fun a => pure a) = x
      cases x with
      | mk result journal => cases result <;> simp [Attempt.bind, after])
    (fun _ _ => rfl)
    (fun x f g => by
      cases h : x.result with
      | ok a => rw [bind_of_ok h, bind_of_ok h, bind_after]
      | error e =>
          rw [bind_of_error h, bind_of_error h]
          rfl)

theorem journal_map (f : α → β) (x : Attempt ε α) : (f <$> x).journal = x.journal := by
  rw [← bind_pure_comp]
  cases h : x.result with
  | ok a => rw [bind_of_ok h, journal_after, journal_pure, List.append_nil]
  | error e => rw [bind_of_error h]

end Attempt

end AccessControl
