import AccessControl.Proofs.Catalog.Questions

/-!
# Catalogs — an owner is the one set last

A host changes entries and rows between its requests, and a connection can fail and be mended.  What
the backend then knows of an object is told by the history alone (`Backend.ownerAfter`): the entry
set last for that object, if the connection does not fail; the entry it had at first, if none was
set.

**The owner in an answer is the one that the history tells** (`Host.run_owner`): the compiler keeps
no owner from one request to the next.  Requests, changes of other objects and changes of the list
that the entries were made from leave no trace.
-/

namespace AccessControl

/-! ### Histories -/

section Latest

variable {α β : Type} {f : α → Option β}

/-- The value found last in a history, and the first value if none is found. -/
def latest (f : α → Option β) (first : β) (history : List α) : β :=
  (history.filterMap f).getLast?.getD first

theorem latest_cons (first : β) (a : α) (history : List α) :
    latest f first (a :: history) = latest f ((f a).getD first) history := by
  rw [latest, List.filterMap_cons]
  cases f a with
  | none => rfl
  | some b =>
      dsimp only
      rw [List.getLast?_cons]
      rfl

/-- What is not looked for can be left out of a history. -/
theorem latest_filter {p : α → Bool} (hp : ∀ a, (f a).isSome → p a) (first : β)
    (history : List α) : latest f first (history.filter p) = latest f first history := by
  rw [latest, List.filterMap_filter, latest]
  congr 3
  funext a
  cases h : f a with
  | none => exact ite_self none
  | some b => rw [if_pos (hp a (by rw [h]; rfl))]

end Latest

namespace Action

/-- What an action writes as the entry for an object, if it writes it: an entry or none. -/
def entry? (kind : CatalogKind) (name : String) : Action → Option (Option (Option String))
  | .set kind' name' owner => if kind = kind' ∧ name = name' then some (some owner) else none
  | .unset kind' name' => if kind = kind' ∧ name = name' then some none else none
  | .ask _ | .compare .. | .lookup .. | .setSource .. | .failAt _ => none

/-- The stage from which on a connection fails, or that it is mended, if the action says so. -/
def stage? : Action → Option (Option Stage)
  | .failAt stage => some stage
  | .ask _ | .compare .. | .lookup .. | .set .. | .unset .. | .setSource .. => none

/-- The action can change what is known of an object. -/
def concerns (kind : CatalogKind) (name : String) (action : Action) : Bool :=
  (action.entry? kind name).isSome || action.stage?.isSome

/-- The entries after an action. -/
def update (entries : Entries) : Action → Entries
  | .set kind name owner => entries.set kind name owner
  | .unset kind name => entries.unset kind name
  | .ask _ | .compare .. | .lookup .. | .setSource .. | .failAt _ => entries

theorem find?_update (entries : Entries) (action : Action) (kind : CatalogKind) (name : String) :
    (action.update entries).find? kind name =
      (action.entry? kind name).getD (entries.find? kind name) := by
  cases action with
  | set kind' name' owner =>
      rw [update, Entries.find?_set, entry?]
      split <;> rfl
  | unset kind' name' =>
      rw [update, Entries.find?_unset, entry?]
      split <;> rfl
  | ask | compare | lookup | setSource | failAt => rfl

end Action

namespace Backend

/-- The owner that a backend knows after actions, as the history tells. -/
def ownerAfter (past : List Action) (kind : CatalogKind) (name : String) :
    Backend → Option String
  | .absent | .broken _ => none
  | .kept entries => (latest (Action.entry? kind name) (entries.find? kind name) past).join
  | .connection c =>
      match latest Action.stage? c.failing past with
      | some _ => none
      | none => (latest (Action.entry? kind name) (c.rows.find? kind name) past).join

/-- Without a past, the owner is the answer of the catalog. -/
theorem answer_catalog (backend : Backend) (kind : CatalogKind) (name : String) :
    Catalog.answer backend.catalog kind name = backend.ownerAfter [] kind name := by
  have hkept (entries : Entries) : Catalog.answer (some entries.catalog) kind name =
      (entries.find? kind name).join := by
    dsimp only [Catalog.answer, Entries.catalog]
    cases entries.find? kind name <;> rfl
  cases backend with
  | absent | broken => rfl
  | kept entries => exact hkept entries
  | connection c =>
      obtain ⟨dialect, rows, failing⟩ := c
      cases failing with
      | some stage => cases stage <;> rfl
      | none =>
          refine Eq.trans ?_ (hkept rows)
          simp only [catalog, Catalog.answer, Connection.catalog]
          rw [Connection.owner_result_eq rfl]

/-- Only what concerns the object counts. -/
theorem ownerAfter_filter (backend : Backend) (past : List Action) (kind : CatalogKind)
    (name : String) :
    backend.ownerAfter (past.filter (·.concerns kind name)) kind name =
      backend.ownerAfter past kind name := by
  have hentry (first : Option (Option String)) :
      latest (Action.entry? kind name) first (past.filter (·.concerns kind name)) =
        latest (Action.entry? kind name) first past :=
    latest_filter (fun a h => by rw [Action.concerns, h]; rfl) first past
  have hstage (first : Option Stage) :
      latest Action.stage? first (past.filter (·.concerns kind name)) =
        latest Action.stage? first past :=
    latest_filter (fun a h => by rw [Action.concerns, h, Bool.or_true]) first past
  cases backend with
  | absent | broken => rfl
  | kept entries => rw [ownerAfter, ownerAfter, hentry]
  | connection c => rw [ownerAfter, ownerAfter, hentry, hstage]

end Backend

/-! ### Answers -/

/-- The target in an answer, if there is one. -/
def Value.target? : Value → Option Target
  | .target t => some t
  | .operation op => op.target?
  | .verdict v => v.operation?.bind Operation.target?
  | .nothing | .truth _ | .text _ | .principal _ | .items _ => none

/-- The owner in any answer is the advice of the catalog. -/
theorem Compiler.advised_of_answer {c : Compiler} {request : Request} {value : Value} {t : Target}
    (h : (c.answer request).result = .ok value) (ht : value.target? = some t) :
    t.owner = Catalog.advice c.catalog t.kind t.name := by
  cases request with
  | compile issue n =>
      obtain ⟨v, hv, rfl⟩ := Attempt.map_result_ok_iff.mp h
      cases v with
      | rejected r => cases ht
      | accepted op => exact advised_of_compile (Execution.compile_accepted_iff.mp hv) t ht
  | build kind issue n =>
      obtain ⟨op, hop, rfl⟩ := Attempt.map_result_ok_iff.mp h
      rw [Execution.build_eq] at hop
      exact advised_of_build (Attempt.mapError_result_ok_iff.mp hop) t ht
  | target n =>
      obtain ⟨t', ht', rfl⟩ := Attempt.map_result_ok_iff.mp h
      cases ht
      rw [Execution.target_eq] at ht'
      exact (Target.ofNode_result_ok_iff.mp (Attempt.mapError_result_ok_iff.mp ht')).2.2.1
  -- no other answer has a target
  | setRole | showCurrentRole =>
      cases h
      cases ht
  | privileges n | principals n =>
      obtain ⟨_, _, h⟩ := Attempt.bind_result_ok_iff.mp h
      cases h
      cases ht
  | principal n =>
      obtain ⟨_, _, rfl⟩ := Attempt.map_result_ok_iff.mp h
      cases ht
  | owner kind name =>
      obtain ⟨owner, -, rfl⟩ := Attempt.map_result_ok_iff.mp h
      cases owner <;> cases ht

/-! ### Runs -/

namespace Host

/-- An action changes entries and rows as it says, and where a connection fails. -/
theorem backend_step (host : Host) (action : Action) :
    (host.step action).backend =
      match host.backend with
      | .absent => .absent
      | .kept entries => .kept (action.update entries)
      | .broken reason => .broken reason
      | .connection c => .connection
          { c with rows := action.update c.rows, failing := action.stage?.getD c.failing } := by
  obtain ⟨policy, backend, source, values⟩ := host
  cases backend <;> cases action <;> rfl

/-- The first action of a history can be taken beforehand. -/
theorem ownerAfter_step (host : Host) (action : Action) (past : List Action) (kind : CatalogKind)
    (name : String) :
    (host.step action).backend.ownerAfter past kind name =
      host.backend.ownerAfter (action :: past) kind name := by
  rw [backend_step]
  cases host.backend with
  | absent | broken => rfl
  | kept entries =>
      dsimp only [Backend.ownerAfter]
      rw [latest_cons, Action.find?_update]
  | connection c =>
      dsimp only [Backend.ownerAfter]
      rw [latest_cons, latest_cons, Action.find?_update]

/-- **The history tells what a backend knows**: after actions the backend answers as it says. -/
theorem answer_catalog_foldl (host : Host) (past : List Action) (kind : CatalogKind)
    (name : String) :
    Catalog.answer (past.foldl step host).backend.catalog kind name =
      host.backend.ownerAfter past kind name := by
  induction past generalizing host with
  | nil => exact host.backend.answer_catalog kind name
  | cons action past ih => rw [List.foldl_cons, ih, ownerAfter_step]

/-- An action of a run is answered by the host after the actions before it. -/
theorem getElem?_run (host : Host) (actions : List Action) (i : ℕ) :
    (host.run actions)[i]? = actions[i]?.map ((actions.take i).foldl step host).answer := by
  induction actions generalizing host i with
  | nil => rfl
  | cons action actions ih =>
      cases i with
      | zero => rfl
      | succ i => exact ih (host.step action) i

/-- The owner in an answer to a request is the advice of the catalog as it then is. -/
theorem advised_of_ask {host : Host} {request : Request} {value : Value} {t : Target}
    (h : (host.answer (.ask request)).result = .ok value) (ht : value.target? = some t) :
    t.owner = Catalog.advice host.backend.catalog t.kind t.name := by
  exact Compiler.advised_of_answer (c := host.compiler) h ht

/-- What concerns no object leaves entries, rows and the connection as they are. -/
theorem backend_step_of_not_concerns (host : Host) {action : Action}
    (h : ∀ kind name, ¬ action.concerns kind name) :
    (host.step action).backend = host.backend := by
  cases action with
  | ask request => exact host.backend_after_ask request
  | lookup kind name => exact host.backend_after_lookup kind name
  | compare | setSource => rfl
  | set kind name owner => exact absurd (by simp [Action.concerns, Action.entry?]) (h kind name)
  | unset kind name => exact absurd (by simp [Action.concerns, Action.entry?]) (h kind name)
  | failAt stage => exact absurd (by simp [Action.concerns, Action.stage?]) (h .table "")

/-- **The owner in an answer is the one that the history tells.**  In a run the owner of a table or
database in the answer to a request is the entry set last for an object of that kind and name, or
the one it had before the run, and nothing if there is none or the connection then fails.  Only
what concerns the object counts; and what concerns no object, such as a request, changes neither
entries nor rows. -/
theorem run_owner (host : Host) (actions : List Action) :
    (∀ (i : ℕ) (request : Request) (value : Value) (t : Target),
      actions[i]? = some (.ask request) →
      (host.run actions)[i]?.map (·.result) = some (.ok value) → value.target? = some t →
        (t.kind = .table →
          t.owner = host.backend.ownerAfter (actions.take i) .table t.name) ∧
        (t.kind = .database →
          t.owner = host.backend.ownerAfter (actions.take i) .database t.name)) ∧
    (∀ (past : List Action) (kind : CatalogKind) (name : String),
      host.backend.ownerAfter (past.filter (·.concerns kind name)) kind name =
        host.backend.ownerAfter past kind name) ∧
    ∀ action : Action, (∀ kind name, ¬ action.concerns kind name) →
      (host.step action).backend = host.backend := by
  refine ⟨fun i request value t hask hvalue ht => ?_, host.backend.ownerAfter_filter,
    fun _ => host.backend_step_of_not_concerns⟩
  rw [getElem?_run, hask, Option.map_some, Option.map_some, Option.some_inj] at hvalue
  have howner := advised_of_ask hvalue ht
  refine ⟨fun hkind => ?_, fun hkind => ?_⟩
  · rw [howner, hkind, ← answer_catalog_foldl]
    rfl
  · rw [howner, hkind, ← answer_catalog_foldl]
    rfl

/-- Changes beside the point, a failure, a new owner and a statement that is turned down, with a
grant on the table `t` before the connection is mended and one at the end. -/
def restlessActions : List Action :=
  [.set .database "t" (some "bob"), .setSource .table "t" (some "eve"),
    .failAt (some .execute), .set .table "t" (some "cem"),
    .ask (.compile {} Compiler.grantOnTable), .failAt none,
    .ask (.compile {} Compiler.grantOnMany), .lookup .table "t",
    .ask (.compile {} Compiler.grantOnTable)]

theorem run_owner_restlessActions :
    ((ofUnownedTable.run restlessActions)[4]?.map (·.result) =
        some (.ok (.verdict (.accepted (Compiler.grantOfTable none)))) ∧
      none = ofUnownedTable.backend.ownerAfter (restlessActions.take 4) .table "t") ∧
    ((ofUnownedTable.run restlessActions)[8]?.map (·.result) =
        some (.ok (.verdict (.accepted (Compiler.grantOfTable (some "cem"))))) ∧
      some "cem" = ofUnownedTable.backend.ownerAfter (restlessActions.take 8) .table "t") ∧
    (ofUnownedTable.step (.setSource .table "t" (some "eve"))).backend =
      ofUnownedTable.backend := by
  obtain ⟨howner, -, hsame⟩ := run_owner ofUnownedTable restlessActions
  have hfailing : (ofUnownedTable.run restlessActions)[4]?.map (·.result) =
      some (.ok (.verdict (.accepted (Compiler.grantOfTable none)))) := rfl
  have hmended : (ofUnownedTable.run restlessActions)[8]?.map (·.result) =
      some (.ok (.verdict (.accepted (Compiler.grantOfTable (some "cem"))))) := rfl
  exact ⟨⟨hfailing, (howner 4 _ _ _ rfl hfailing rfl).1 rfl⟩,
    ⟨hmended, (howner 8 _ _ _ rfl hmended rfl).1 rfl⟩,
    hsame (.setSource .table "t" (some "eve")) fun _ _ => Bool.false_ne_true⟩

end Host

end AccessControl
