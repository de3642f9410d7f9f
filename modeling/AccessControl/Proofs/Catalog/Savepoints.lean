import AccessControl.Host
import AccessControl.Proofs.Catalog.Owners
import AccessControl.Proofs.Reading.SideBySide

/-!
# Catalogs — every question is put inside a savepoint of its own

What is done with a connection while a question is put to it is a block (`Question.block`): either a
savepoint that could not be opened, or one that is opened, with a query inside, and closed again.

**The exchanges of a run are the blocks of its questions, one after another**
(`Host.run_savepoints`), whatever the statements and however rows change and the connection fails in
between.  The questions are those that entries kept by hand would be asked, in the same order, and
each block is as the connection is at that time.  So no query is sent outside a savepoint,
savepoints do not nest, and none is open between two actions (`IsTidy`).
-/

namespace AccessControl

/-! ### Questions and exchanges of a journal -/

/-- A question for the owner of an object. -/
structure Question where
  kind : CatalogKind
  name : String
deriving DecidableEq

/-- The question that is put to a catalog. -/
def Call.question? : Call → Option Question
  | .ask kind name => some ⟨kind, name⟩
  | .exchange _ => none

/-- What is done with a connection. -/
def Call.exchange? : Call → Option Exchange
  | .ask _ _ => none
  | .exchange x => some x

/-- The questions of a journal that are put to a catalog which is no connection. -/
def questions (journal : List Entry) : List Question :=
  (calls journal).filterMap Call.question?

/-- What is done with a connection in a journal. -/
def exchanges (journal : List Entry) : List Exchange :=
  (calls journal).filterMap Call.exchange?

@[simp] theorem questions_append (j k : List Entry) :
    questions (j ++ k) = questions j ++ questions k := by
  rw [questions, calls_append, List.filterMap_append]
  rfl

@[simp] theorem exchanges_append (j k : List Entry) :
    exchanges (j ++ k) = exchanges j ++ exchanges k := by
  rw [exchanges, calls_append, List.filterMap_append]
  rfl

/-- A question that fails is remarked on, and that is all that a request for an owner adds to it. -/
theorem Catalog.calls_lookupOwner {ε : Type} (catalog : Catalog) (kind : ObjectKind)
    (name : String) :
    calls (lookupOwner (ε := ε) (some catalog) kind name).journal =
      calls (catalog.owner kind.catalogKind name).journal := by
  rw [lookupOwner]
  cases h : (catalog.owner kind.catalogKind name).result with
  | ok owner => rw [Attempt.recover_of_ok h]
  | error fault =>
      rw [Attempt.recover_of_error h, Attempt.journal_after, calls_append]
      exact List.append_nil _

theorem Catalog.questions_lookupOwner {ε : Type} (catalog : Catalog) (kind : ObjectKind)
    (name : String) :
    questions (lookupOwner (ε := ε) (some catalog) kind name).journal =
      questions (catalog.owner kind.catalogKind name).journal :=
  congrArg (List.filterMap Call.question?) (calls_lookupOwner catalog kind name)

theorem Catalog.exchanges_lookupOwner {ε : Type} (catalog : Catalog) (kind : ObjectKind)
    (name : String) :
    exchanges (lookupOwner (ε := ε) (some catalog) kind name).journal =
      exchanges (catalog.owner kind.catalogKind name).journal :=
  congrArg (List.filterMap Call.exchange?) (calls_lookupOwner catalog kind name)

/-- Entries kept by hand note the question and nothing else. -/
theorem Entries.journal_owner (entries : Entries) (kind : CatalogKind) (name : String) :
    (entries.catalog.owner kind name).journal = [.call (.ask kind name)] := by
  change (Attempt.note _ >>= fun _ => _).journal = _
  rw [Attempt.bind_of_ok (Attempt.result_note _), Attempt.journal_after]
  cases entries.find? kind name <;> rfl

theorem Entries.questions_owner (entries : Entries) (kind : CatalogKind) (name : String) :
    questions (entries.catalog.owner kind name).journal = [⟨kind, name⟩] :=
  congrArg questions (entries.journal_owner kind name)

/-! ### Savepoints -/

/-- Whether a savepoint is open after an exchange.  Outside a savepoint one can only be opened, and
inside no other can. -/
def Exchange.next : Bool → Exchange → Option Bool
  | false, .begin => some true
  | false, .beginFailed => some false
  | true, .execute _ _ | true, .fetch => some true
  | true, .release | true, .rollback => some false
  | _, _ => none

/-- Each exchange can happen where it does, and no savepoint stays open. -/
def IsTidy (xs : List Exchange) : Prop :=
  xs.foldlM Exchange.next false = some false

theorem isTidy_append {xs ys : List Exchange} (hx : IsTidy xs) (hy : IsTidy ys) :
    IsTidy (xs ++ ys) := by
  rw [IsTidy, List.foldlM_append, hx]
  exact hy

theorem isTidy_flatMap {α : Type} {f : α → List Exchange} {as : List α}
    (h : ∀ a ∈ as, IsTidy (f a)) : IsTidy (as.flatMap f) := by
  induction as with
  | nil => rfl
  | cons a as ih =>
      obtain ⟨ha, has⟩ := List.forall_mem_cons.mp h
      exact isTidy_append ha (ih has)

/-- What is done with a connection that fails at a stage, or at none, while a question is put to it.
The name is the only parameter of the query. -/
def Question.block (q : Question) : Option Stage → List Exchange
  | some .begin => [.beginFailed]
  | some .execute => [.begin, .execute q.kind [(q.kind.parameter, q.name)], .rollback]
  | some .fetch => [.begin, .execute q.kind [(q.kind.parameter, q.name)], .fetch, .rollback]
  | none => [.begin, .execute q.kind [(q.kind.parameter, q.name)], .fetch, .release]

theorem Question.isTidy_block (q : Question) (failing : Option Stage) :
    IsTidy (q.block failing) := by
  cases failing with
  | none => rfl
  | some stage => cases stage <;> rfl

namespace Connection

variable {c : Connection}

theorem exchanges_fetchRow (c : Connection) (q : Question) :
    exchanges (c.fetchRow q.kind q.name).journal = q.block c.failing := by
  obtain ⟨dialect, rows, failing⟩ := c
  cases failing with
  | none => rfl
  | some stage => cases stage <;> rfl

/-- A row is fetched, whether there is one or not, unless the connection fails. -/
theorem fetchRow_result (c : Connection) (q : Question) :
    (c.fetchRow q.kind q.name).result =
      match c.failing with
      | some stage => .error (.failed stage.reason)
      | none => .ok (c.rows.find? q.kind q.name) := by
  obtain ⟨dialect, rows, failing⟩ := c
  cases failing with
  | none => rfl
  | some stage => cases stage <;> rfl

theorem exchanges_owner (c : Connection) (kind : CatalogKind) (name : String) :
    exchanges (c.owner kind name).journal = Question.block ⟨kind, name⟩ c.failing := by
  rw [← exchanges_fetchRow c ⟨kind, name⟩, owner]
  cases h : (c.fetchRow kind name).result with
  | error fault => rw [Attempt.bind_of_error h]
  | ok row =>
      rw [Attempt.bind_of_ok h, Attempt.journal_after, exchanges_append]
      cases row <;> exact List.append_nil _

/-- A savepoint is closed by a rollback exactly when the query inside fails.  It is closed by a
release exactly when an answer is fetched: a row with an owner, a row without, or no row. -/
theorem getLast?_block (c : Connection) (q : Question) :
    ((q.block c.failing).getLast? = some .rollback ↔
      ∃ stage : Stage, stage ≠ .begin ∧
        (c.fetchRow q.kind q.name).result = .error (.failed stage.reason)) ∧
    ((q.block c.failing).getLast? = some .release ↔
      ∃ row, (c.fetchRow q.kind q.name).result = .ok row) := by
  rw [fetchRow_result]
  cases c.failing with
  | none => simp [Question.block]
  | some stage =>
      cases stage with
      | begin =>
          refine ⟨⟨nofun, ?_⟩, ⟨nofun, nofun⟩⟩
          rintro ⟨stage, hstage, h⟩
          cases stage <;> simp [Stage.reason] at hstage h
      | execute => exact ⟨⟨fun _ => ⟨.execute, nofun, rfl⟩, fun _ => rfl⟩, nofun, nofun⟩
      | fetch => exact ⟨⟨fun _ => ⟨.fetch, nofun, rfl⟩, fun _ => rfl⟩, nofun, nofun⟩

end Connection

/-! ### Compilations -/

/-- Entries kept by hand beside a connection: for each question to the entries there is a block on
the connection. -/
def Catalog.Pairing.blocks (entries : Entries) (c : Connection) : Catalog.Pairing where
  left := some entries.catalog
  right := some c.catalog
  journal j j' := exchanges j' = (questions j).flatMap (·.block c.failing)
  owner _ _ _ _ := True
  additive := by
    refine additive_of_append rfl rfl (fun j k => ?_) exchanges_append
    rw [questions_append, List.flatMap_append]
  record _ _ := rfl
  ownerless _ _ _ := trivial
  lookup kind name := by
    refine ⟨?_, ?_⟩
    · rw [exchanges_lookupOwner, questions_lookupOwner, Entries.questions_owner]
      exact (c.exchanges_owner kind.catalogKind name).trans (List.append_nil _).symm
    · obtain ⟨owner, ho⟩ := lookupOwner_ok (ε := Rejection) (some entries.catalog) kind name
      obtain ⟨owner', ho'⟩ := lookupOwner_ok (ε := Rejection) (some c.catalog) kind name
      rw [ho, ho']
      exact .ok trivial

/-! ### Runs -/

namespace Host

variable {host : Host} {c : Connection}

/-- The host with its owners kept by hand. -/
def kept (host : Host) : Host :=
  { host with backend := .kept host.backend.contents }

/-- The actions of a run, each with the host as it then is. -/
def moments (host : Host) : List Action → List (Host × Action)
  | [] => []
  | action :: actions => (host, action) :: (host.step action).moments actions

/-- An action leaves a connection in its place, perhaps with other rows or another failure. -/
theorem exists_connection_step (h : host.backend = .connection c) (action : Action) :
    ∃ c', (host.step action).backend = .connection c' := by
  cases action with
  | ask request => exact ⟨c, (host.backend_after_ask request).trans h⟩
  | lookup kind name => exact ⟨c, (host.backend_after_lookup kind name).trans h⟩
  | compare | setSource => exact ⟨c, h⟩
  | set kind name owner =>
      exact ⟨_, congrArg (Backend.modify · (·.set kind name owner)) h⟩
  | unset kind name => exact ⟨_, congrArg (Backend.modify · (·.unset kind name)) h⟩
  | failAt stage => exact ⟨_, congrArg (Backend.failAt · stage) h⟩

theorem compiler_eq (h : host.backend = .connection c) :
    host.compiler = ⟨host.policy, some c.catalog⟩ := by
  rw [compiler, h]
  rfl

/-- The host with its owners kept by hand has those of the rows. -/
theorem compiler_kept_eq (h : host.backend = .connection c) :
    host.kept.compiler = ⟨host.policy, some c.rows.catalog⟩ := by
  rw [compiler, kept, h]
  rfl

theorem lookup_eq (h : host.backend = .connection c) (kind : CatalogKind) (name : String) :
    host.lookup kind name = Value.ofText? <$> c.owner kind name := by
  rw [lookup, h]
  rfl

theorem lookup_kept_eq (host : Host) (kind : CatalogKind) (name : String) :
    host.kept.lookup kind name =
      Value.ofText? <$> host.backend.contents.catalog.owner kind name :=
  rfl

/-- A catalog that is asked directly is asked what the action says. -/
theorem questions_kept_lookup (host : Host) (kind : CatalogKind) (name : String) :
    questions (host.kept.answer (.lookup kind name)).journal = [⟨kind, name⟩] := by
  rw [answer, Attempt.journal_mapError, lookup_kept_eq, Attempt.journal_map,
    Entries.questions_owner]

/-- An action puts the questions that it would put to entries kept by hand, each in its block. -/
theorem exchanges_answer (h : host.backend = .connection c) (action : Action) :
    exchanges (host.answer action).journal =
      (questions (host.kept.answer action).journal).flatMap (·.block c.failing) := by
  cases action with
  | ask request =>
      rw [answer, answer, compiler_eq h, compiler_kept_eq h]
      exact (Compiler.answer_paired (.blocks c.rows c) host.policy request).journal
  | lookup kind name =>
      rw [questions_kept_lookup, answer, Attempt.journal_mapError, lookup_eq h,
        Attempt.journal_map, c.exchanges_owner]
      exact (List.append_nil _).symm
  | compare | set | unset | setSource | failAt => rfl

theorem isTidy_answer (h : host.backend = .connection c) (action : Action) :
    IsTidy (exchanges (host.answer action).journal) := by
  rw [exchanges_answer h]
  exact isTidy_flatMap fun q _ => q.isTidy_block c.failing

/-- **Every question is put inside a savepoint of its own.**  In a run of a host with a connection,
what is done with the connection is, action by action, the blocks of the questions that the action
would put to entries kept by hand; what a block looks like depends on where the connection then
fails.  Each exchange of the run happens where it can, and after each action no savepoint is open.
A savepoint is rolled back exactly when the query in it fails. -/
theorem run_savepoints (h : host.backend = .connection c) (actions : List Action) :
    List.Forall₂ (fun moment answer => ∃ c' : Connection, moment.1.backend = .connection c' ∧
        exchanges answer.journal =
          (questions (moment.1.kept.answer moment.2).journal).flatMap (·.block c'.failing) ∧
        IsTidy (exchanges answer.journal))
      (host.moments actions) (host.run actions) ∧
    IsTidy ((host.run actions).flatMap fun answer => exchanges answer.journal) ∧
    (∀ (host' : Host) (kind : CatalogKind) (name : String),
      questions (host'.kept.answer (.lookup kind name)).journal = [⟨kind, name⟩]) ∧
    ∀ (c' : Connection) (q : Question),
      ((q.block c'.failing).getLast? = some .rollback ↔
        ∃ stage : Stage, stage ≠ .begin ∧
          (c'.fetchRow q.kind q.name).result = .error (.failed stage.reason)) ∧
      ((q.block c'.failing).getLast? = some .release ↔
        ∃ row, (c'.fetchRow q.kind q.name).result = .ok row) := by
  refine ⟨?_, ?_, questions_kept_lookup, fun c' => c'.getLast?_block⟩
  · induction actions generalizing host c with
    | nil => exact .nil
    | cons action actions ih =>
        obtain ⟨c', h'⟩ := exists_connection_step h action
        exact .cons ⟨c, h, exchanges_answer h action, isTidy_answer h action⟩ (ih h')
  · induction actions generalizing host c with
    | nil => rfl
    | cons action actions ih =>
        obtain ⟨c', h'⟩ := exists_connection_step h action
        exact isTidy_append (isTidy_answer h action) (ih h')

/-- A host with a connection to a database that has the table `t`, which nobody owns. -/
def ofUnownedTable : Host where
  backend := .connection { rows := { tables := [("t", none)] } }

/-- A table without an owner and a database that is not there, and then a statement and a question
while the connection fails. -/
def failingActions : List Action :=
  [.lookup .table "t", .lookup .database "d", .failAt (some .fetch),
    .ask (.compile {} Compiler.grantOnTable), .failAt (some .begin), .lookup .table "t"]

theorem run_savepoints_failingActions :
    (ofUnownedTable.run failingActions).flatMap (fun answer => exchanges answer.journal) =
        [.begin, .execute .table [("table_name", "t")], .fetch, .release,
          .begin, .execute .database [("database_name", "d")], .fetch, .release,
          .begin, .execute .table [("table_name", "t")], .fetch, .rollback,
          .beginFailed] ∧
      IsTidy ((ofUnownedTable.run failingActions).flatMap fun answer =>
        exchanges answer.journal) := by
  obtain ⟨-, htidy, -⟩ := @run_savepoints ofUnownedTable _ rfl failingActions
  exact ⟨rfl, htidy⟩

end Host

end AccessControl
