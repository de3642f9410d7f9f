import AccessControl.Proofs.Catalog.Savepoints

/-!
# Catalogs — a connection is as good as entries kept by hand

Owners can be kept by hand, as entries, or asked for over a connection to a database whose rows say
the same.  A host with a connection is compared with the host that keeps the same owners by hand
(`Host.kept`), over a run of actions that both take.

**As long as the connection does not fail, nobody can tell the difference** (`Host.run_kept`).  The
answers are the same, as are the rejections and the faults, and so are the compiler's own remarks;
each question to the entries is one block on the connection.  What a connection remarks about the
rows it finds is its own.
-/

namespace AccessControl

/-- The remarks of the compiler in a journal. -/
def ownRecords (journal : List Entry) : List Record :=
  (records journal).filter fun r => r.source = .compiler

@[simp] theorem ownRecords_append (j k : List Entry) :
    ownRecords (j ++ k) = ownRecords j ++ ownRecords k := by
  rw [ownRecords, records_append, List.filter_append]
  rfl

/-- The attempts have the same result, with the same remarks of the compiler on the way, and each
question of the one is a block of the other, in the same order. -/
structure Attempt.Matches {ε α : Type} (kept asked : Attempt ε α) : Prop where
  result : asked.result = kept.result
  records : ownRecords asked.journal = AccessControl.records kept.journal
  exchanges : AccessControl.exchanges asked.journal =
    (questions kept.journal).flatMap (·.block none)

/-! ### Questions -/

/-- A connection remarks on the row it finds, and the compiler has nothing to add. -/
theorem Connection.ownRecords_owner (c : Connection) (kind : CatalogKind) (name : String) :
    ownRecords (c.owner kind name).journal = [] := by
  have hfetch : ownRecords (c.fetchRow kind name).journal = [] := by
    obtain ⟨dialect, rows, failing⟩ := c
    cases failing with
    | none => rfl
    | some stage => cases stage <;> rfl
  rw [owner]
  cases h : (c.fetchRow kind name).result with
  | error fault => rwa [Attempt.bind_of_error h]
  | ok row =>
      rw [Attempt.bind_of_ok h, Attempt.journal_after, ownRecords_append, hfetch]
      cases row <;> rfl

/-- Entries kept by hand are asked without a remark. -/
theorem Entries.records_owner (entries : Entries) (kind : CatalogKind) (name : String) :
    records (entries.catalog.owner kind name).journal = [] :=
  congrArg records (entries.journal_owner kind name)

/-- The same owners are found, or missing, with entries kept by hand and over a connection in
working order with the same rows, and the compiler makes the same remarks. -/
theorem Connection.lookupOwner_paired (c : Connection) (h : c.failing = none) (kind : ObjectKind)
    (name : String) :
    Attempt.Paired (fun j j' => ownRecords j' = records j) (Eq (α := Rejection)) Eq
      (Catalog.lookupOwner (some c.rows.catalog) kind name)
      (Catalog.lookupOwner (some c.catalog) kind name) := by
  have hleft := c.rows.records_owner kind.catalogKind name
  have hright := c.ownRecords_owner kind.catalogKind name
  have hresult : (c.catalog.owner kind.catalogKind name).result =
      (c.rows.catalog.owner kind.catalogKind name).result :=
    Connection.owner_result_eq h kind.catalogKind name
  rw [Catalog.lookupOwner, Catalog.lookupOwner]
  cases hkept : (c.rows.catalog.owner kind.catalogKind name).result with
  | ok owner =>
      rw [Attempt.recover_of_ok hkept, Attempt.recover_of_ok (hresult.trans hkept)]
      exact ⟨hright.trans hleft.symm, .ok rfl⟩
  | error fault =>
      rw [Attempt.recover_of_error hkept, Attempt.recover_of_error (hresult.trans hkept)]
      refine ⟨?_, .ok rfl⟩
      rw [Attempt.journal_after, Attempt.journal_after, ownRecords_append, records_append]
      exact congrArg (· ++ _) (hright.trans hleft.symm)

/-- A remark of the compiler is one of its own remarks. -/
theorem ownRecords_record (r : Record) (hr : r.source = .compiler) :
    ownRecords [.record r] = records [.record r] := by
  change [r].filter _ = [r]
  rw [List.filter_cons_of_pos (by simpa using hr), List.filter_nil]

/-- Entries kept by hand beside a connection in working order with the same rows. -/
def Catalog.Pairing.inOrder (c : Connection) (h : c.failing = none) : Catalog.Pairing :=
  .ofEq (some c.rows.catalog) (some c.catalog) (fun j j' => ownRecords j' = records j)
    (additive_of_append rfl rfl records_append ownRecords_append) ownRecords_record
    (c.lookupOwner_paired h)

/-! ### Runs -/

namespace Host

variable {host : Host} {c : Connection}

/-- An action is answered as with entries kept by hand. -/
theorem answer_kept (h : host.backend = .connection c) (hc : c.failing = none)
    (action : Action) : (host.kept.answer action).Matches (host.answer action) := by
  have hexchanges := exchanges_answer h action
  rw [hc] at hexchanges
  cases action with
  | ask request =>
      obtain ⟨hjournal, hresult⟩ := Compiler.answer_paired (.inOrder c hc) host.policy request
      refine ⟨?_, ?_, hexchanges⟩
      · rw [answer, answer, compiler_eq h, compiler_kept_eq h]
        exact (hresult.imp (fun _ _ => id) fun _ _ => Value.UpToOwner.eq).eq.symm
      · rw [answer, answer, compiler_eq h, compiler_kept_eq h]
        exact hjournal
  | lookup kind name =>
      refine ⟨?_, ?_, hexchanges⟩
      · rw [answer, answer, Attempt.result_mapError, Attempt.result_mapError, lookup_eq h,
          lookup_kept_eq, h, Attempt.result_map, Attempt.result_map, Connection.owner_result_eq hc]
        rfl
      · rw [answer, answer, Attempt.journal_mapError, Attempt.journal_mapError, lookup_eq h,
          lookup_kept_eq, Attempt.journal_map, Attempt.journal_map, c.ownRecords_owner,
          Entries.records_owner]
  | compare | set | unset | setSource | failAt => exact ⟨rfl, rfl, rfl⟩

/-- The hosts take an action side by side: the one with entries stays the one that keeps the owners
of the other by hand. -/
theorem kept_step (h : host.backend = .connection c) {action : Action}
    (hresult : (host.answer action).result = (host.kept.answer action).result) :
    (host.step action).kept = host.kept.step action := by
  obtain ⟨policy, backend, source, values⟩ := host
  obtain rfl : backend = .connection c := h
  rw [step, step, ← hresult]
  cases action <;> rfl

/-- An action leaves a connection in working order, unless it breaks it. -/
theorem exists_inOrder_step (h : host.backend = .connection c) (hc : c.failing = none)
    {action : Action} (haction : ∀ stage, action ≠ .failAt (some stage)) :
    ∃ c', (host.step action).backend = .connection c' ∧ c'.failing = none := by
  cases action with
  | ask request => exact ⟨c, (host.backend_after_ask request).trans h, hc⟩
  | lookup kind name => exact ⟨c, (host.backend_after_lookup kind name).trans h, hc⟩
  | compare | setSource => exact ⟨c, h, hc⟩
  | set kind name owner =>
      exact ⟨_, congrArg (Backend.modify · (·.set kind name owner)) h, hc⟩
  | unset kind name => exact ⟨_, congrArg (Backend.modify · (·.unset kind name)) h, hc⟩
  | failAt stage =>
      cases stage with
      | none => exact ⟨_, congrArg (Backend.failAt · none) h, rfl⟩
      | some stage => exact absurd rfl (haction stage)

/-- **As long as the connection does not fail, it is as good as entries kept by hand.**  Over a run
of actions the host with the connection and the host that starts with the same owners as entries
give the same answers, with the same remarks of the compiler, and each question to the entries is a
block on the connection. -/
theorem run_kept (h : host.backend = .connection c) (hc : c.failing = none)
    (actions : List Action) (hactions : ∀ stage, .failAt (some stage) ∉ actions) :
    List.Forall₂ Attempt.Matches (host.kept.run actions) (host.run actions) := by
  induction actions generalizing host c with
  | nil => exact .nil
  | cons action actions ih =>
      have hanswer := answer_kept h hc action
      have haction : ∀ stage, action ≠ .failAt (some stage) := fun stage e =>
        hactions stage (e ▸ List.mem_cons_self)
      obtain ⟨c', h', hc'⟩ := exists_inOrder_step h hc haction
      have hrest := ih h' hc' fun stage hstage => hactions stage (List.mem_cons_of_mem _ hstage)
      rw [kept_step h hanswer.result] at hrest
      exact .cons hanswer hrest

/-- A statement about a table, before and after its owner is known, and a table that is not
there. -/
def mendingActions : List Action :=
  [.ask (.compile {} Compiler.grantOnTable), .set .table "t" (some "ann"),
    .ask (.compile {} Compiler.grantOnTable), .unset .table "t", .lookup .table "t"]

theorem run_kept_mendingActions :
    (∀ stage, .failAt (some stage) ∉ mendingActions) ∧
      (ofUnownedTable.run mendingActions).map (·.result) =
        [.ok (.verdict (.accepted (Compiler.grantOfTable none))), .ok .nothing,
          .ok (.verdict (.accepted (Compiler.grantOfTable (some "ann")))), .ok .nothing,
          .error (.fault (.missing .table "t"))] ∧
      List.Forall₂ Attempt.Matches (ofUnownedTable.kept.run mendingActions)
        (ofUnownedTable.run mendingActions) := by
  have hactions : ∀ stage, .failAt (some stage) ∉ mendingActions := by
    simp [mendingActions]
  exact ⟨hactions, rfl, @run_kept ofUnownedTable _ rfl rfl mendingActions hactions⟩

end Host

end AccessControl
