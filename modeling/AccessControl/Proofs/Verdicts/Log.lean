import AccessControl.Proofs.Catalog.Questions
import AccessControl.Proofs.Catalog.Refinement

/-!
# Verdicts — the log tells the outcome

For each remark of a journal a line is written to the log (`Record.line`): how grave it is, who
writes it, the text, and the failure that it carries.

**The log of a compilation is known line by line** (`Compiler.compile_log`): the line that it
begins, a line for each principal that is read, for each question what the catalog writes and a line
with the fault if there is one, and the line of the rejection.  So **the log tells the outcome**
(`Tells`): the last line says why a statement is turned down, and it is an error exactly if the tree
is one that the grammar never produces.  This is so however many questions fail on the way, as long
as the catalog says nothing in the name of the compiler.
-/

namespace AccessControl

/-! ### Lines -/

/-- A line of the log. -/
@[ext] structure Line where
  level : Level
  source : Source
  text : String
  failure : Option Failure
deriving DecidableEq

/-- The line that is written for a remark. -/
def Record.line (r : Record) : Line :=
  ⟨r.level, r.source, r.message, r.cause⟩

/-- The lines that are written for a journal. -/
def lines (journal : List Entry) : List Line :=
  (records journal).map Record.line

@[simp] theorem lines_append (j k : List Entry) : lines (j ++ k) = lines j ++ lines k := by
  rw [lines, records_append, List.map_append]
  rfl

theorem lines_flatMap {α : Type} (as : List α) (f : α → List Entry) :
    lines (as.flatMap f) = as.flatMap fun a => lines (f a) := by
  rw [lines, records, List.filterMap_flatMap, List.map_flatMap]
  rfl

namespace Line

/-- The compilation of a statement begins. -/
def compiling (tag : Tag) : Line :=
  ⟨.debug, .compiler, "Compiling " ++ tag.text, none⟩

/-- A principal was read. -/
def principal (p : Principal) : Line :=
  ⟨.debug, .compiler,
    "Principal: [" ++ p.name ++ ", " ++ (p.kind.map Coded.qualifiedLabel).getD "None" ++ "]", none⟩

/-- A question has no answer, for a fault that the line carries. -/
def unresolved (q : Question) (fault : Fault) : Line :=
  ⟨.debug, .compiler, "Could not resolve owner of " ++ q.kind.noun ++ " " ++ q.name,
    some (.fault fault)⟩

/-- A connection found a row. -/
def found (q : Question) (owner : Option String) : Line :=
  ⟨.debug, .connection,
    "Owner of " ++ q.kind.noun ++ " " ++ q.name ++ " is " ++ owner.getD "None", none⟩

/-- A tree is not one of the grammar, for a reason that the line carries. -/
def malformed (tag : Tag) (r : Rejection) : Line :=
  ⟨.error, .compiler, "Malformed " ++ tag.text ++ " statement tree: " ++ r.message,
    some (.rejection r)⟩

/-- A statement is turned down for a mistake of its author. -/
def rejected (tag : Tag) (r : Rejection) : Line :=
  ⟨.debug, .compiler, "Rejected " ++ tag.text ++ " statement: " ++ r.message, none⟩

/-- A statement is turned down. -/
def refused (tag : Tag) (r : Rejection) : Line :=
  if r.isBrokenInvariant then malformed tag r else rejected tag r

theorem refused_of_isBrokenInvariant {tag : Tag} {r : Rejection} (h : r.isBrokenInvariant) :
    refused tag r = malformed tag r :=
  if_pos h

theorem refused_of_not_isBrokenInvariant {tag : Tag} {r : Rejection} (h : ¬ r.isBrokenInvariant) :
    refused tag r = rejected tag r :=
  if_neg h

end Line

theorem Record.line_refused (tag : Tag) (r : Rejection) :
    (refused tag r).line = .refused tag r := by
  by_cases h : r.isBrokenInvariant
  · rw [Line.refused_of_isBrokenInvariant h]
    exact Line.ext (if_pos h) rfl (if_pos h) (if_pos h)
  · rw [Line.refused_of_not_isBrokenInvariant h]
    exact Line.ext (if_neg h) rfl (if_neg h) (if_neg h)

/-! ### The log of a compilation -/

/-- What is written about a question: what the catalog writes itself, and a line with the fault if
the question has no answer. -/
def Catalog.linesOn (catalog : Option Catalog) (q : Question) : List Line :=
  catalog.toList.flatMap fun catalog =>
    lines (catalog.owner q.kind q.name).journal ++
      match (catalog.owner q.kind q.name).result with
      | .ok _ => []
      | .error fault => [.unresolved q fault]

theorem Catalog.lines_consulted (catalog : Option Catalog) (q : Question) :
    lines (consulted catalog q) = linesOn catalog q := by
  cases catalog with
  | none => rfl
  | some catalog =>
      have hkind : q.kind.objectKind.catalogKind = q.kind := by cases q.kind <;> rfl
      have hnoun : q.kind.objectKind.noun = q.kind.noun := by cases q.kind <;> rfl
      rw [consulted, lookupOwner, hkind, linesOn, Option.toList_some, List.flatMap_singleton]
      cases h : (catalog.owner q.kind q.name).result with
      | ok owner => rw [Attempt.recover_of_ok h, List.append_nil]
      | error fault =>
          rw [Attempt.recover_of_error h, Attempt.journal_after, lines_append]
          simp only [Line.unresolved, ← hnoun]
          rfl

/-- The lines before the verdict. -/
def Compiler.linesBefore (c : Compiler) (n : Node) : List Line :=
  (n.tag.statement?.toList.map fun _ => .compiling n.tag) ++
    (n.principals c.policy).map Line.principal ++
    (n.questions c.policy).flatMap (Catalog.linesOn c.catalog)

/-- The verdict, if it is a rejection. -/
def linesAfter (tag : Tag) : Except Rejection Operation → List Line
  | .ok _ => []
  | .error r => [.refused tag r]

theorem Compiler.lines_compile (c : Compiler) (issue : Issue) (n : Node) :
    lines (c.compile issue n).journal =
      c.linesBefore n ++ linesAfter n.tag (c.compile issue n).result := by
  have hopening : lines (n.tag.statement?.toList.map fun _ => .record (.compiling n.tag)) =
      n.tag.statement?.toList.map fun _ => .compiling n.tag := by
    cases n.tag.statement? <;> rfl
  have hprincipals : lines ((n.principals c.policy).map Principal.noted) =
      (n.principals c.policy).map Line.principal := by
    have hrecords : records ((n.principals c.policy).map Principal.noted) =
        (n.principals c.policy).map Record.principal := by
      rw [records, List.filterMap_map]
      exact congrFun List.filterMap_eq_map' _
    rw [lines, hrecords, List.map_map]
    rfl
  have hquestions : lines ((n.questions c.policy).flatMap (Catalog.consulted c.catalog)) =
      (n.questions c.policy).flatMap (Catalog.linesOn c.catalog) := by
    rw [lines_flatMap]
    exact List.flatMap_congr fun q _ => Catalog.lines_consulted c.catalog q
  rw [journal_compile, lines_append, lines_append, lines_append, hopening, hprincipals, hquestions,
    linesBefore]
  cases (c.compile issue n).result with
  | ok op => rfl
  | error r => rw [linesAfter, ← Record.line_refused]; rfl

/-! ### Lines that are no verdict -/

/-- The line is no error and does not turn a statement down. -/
structure Line.IsInterim (line : Line) : Prop where
  level : line.level = .debug
  ne_rejected : ∀ tag r, line ≠ .rejected tag r

namespace Line

theorem IsInterim.ne_malformed {line : Line} (h : line.IsInterim) (tag : Tag) (r : Rejection) :
    line ≠ malformed tag r := by
  rintro rfl
  exact nomatch h.level

theorem isInterim_of_text {line : Line} (hlevel : line.level = .debug)
    (htext : line.text.toList.head? ≠ some 'R') : line.IsInterim := by
  refine ⟨hlevel, ?_⟩
  rintro tag r rfl
  simp [rejected] at htext

theorem isInterim_compiling (tag : Tag) : (compiling tag).IsInterim :=
  isInterim_of_text rfl (by simp [compiling])

theorem isInterim_principal (p : Principal) : (principal p).IsInterim :=
  isInterim_of_text rfl (by simp [principal])

theorem isInterim_unresolved (q : Question) (fault : Fault) : (unresolved q fault).IsInterim :=
  isInterim_of_text rfl (by simp [unresolved])

end Line

/-- What a connection remarks is no verdict. -/
theorem Record.isInterim_line {r : Record} (h : r.source ≠ .compiler) : r.line.IsInterim := by
  cases r with
  | ownerFound kind name owner =>
      refine ⟨rfl, ?_⟩
      intro tag r hline
      exact nomatch congrArg Line.source hline
  | compiling | principal | ownerUnresolved | refused => exact absurd rfl h

/-- The catalog says nothing in the name of the compiler. -/
def Catalog.SpeaksForItself (catalog : Catalog) : Prop :=
  ∀ kind name, ownRecords (catalog.owner kind name).journal = []

theorem Catalog.SpeaksForItself.isInterim {catalog : Catalog} (h : catalog.SpeaksForItself)
    (q : Question) : ∀ line ∈ linesOn (some catalog) q, line.IsInterim := by
  rw [linesOn, Option.toList_some, List.flatMap_singleton]
  intro line hline
  rcases List.mem_append.mp hline with hown | hfault
  · obtain ⟨r, hr, rfl⟩ := List.mem_map.mp hown
    have hsource := List.filter_eq_nil_iff.mp (h q.kind q.name) r hr
    exact r.isInterim_line (by simpa using hsource)
  · cases hresult : (catalog.owner q.kind q.name).result with
    | ok owner => simp [hresult] at hfault
    | error fault =>
        obtain rfl : line = .unresolved q fault := by simpa [hresult] using hfault
        exact Line.isInterim_unresolved q fault

/-- **No line before the verdict is one.** -/
theorem Compiler.isInterim_linesBefore {c : Compiler}
    (h : ∀ catalog ∈ c.catalog, catalog.SpeaksForItself) (n : Node) :
    ∀ line ∈ c.linesBefore n, line.IsInterim := by
  intro line hline
  rw [linesBefore, List.mem_append, List.mem_append] at hline
  rcases hline with (hopening | hprincipal) | hquestion
  · obtain ⟨_, -, rfl⟩ := List.mem_map.mp hopening
    exact Line.isInterim_compiling n.tag
  · obtain ⟨p, -, rfl⟩ := List.mem_map.mp hprincipal
    exact Line.isInterim_principal p
  · obtain ⟨q, -, hq⟩ := List.mem_flatMap.mp hquestion
    obtain ⟨policy, _ | catalog⟩ := c
    · exact absurd hq List.not_mem_nil
    · exact (h catalog rfl).isInterim q line hq

/-! ### What the log tells -/

/-- A log tells how the compilation of a statement ends. -/
structure Tells (tag : Tag) (result : Except Rejection Operation) (log : List Line) : Prop where
  /-- It begins with the statement exactly if the root is one. -/
  begins : log.head? = some (.compiling tag) ↔ ∃ kind, tag = .word (.statement kind)
  /-- There is an error exactly if the tree is malformed. -/
  grave : (∃ line ∈ log, line.level = .error) ↔ ∃ r, result = .error r ∧ r.isBrokenInvariant
  /-- The error says why; it is the last line, and there is no other. -/
  malformed : ∀ r, result = .error r → r.isBrokenInvariant →
    ∃ before, log = before ++ [.malformed tag r] ∧ ∀ line ∈ before, line.level = .debug
  /-- The last line says for what mistake the statement is turned down. -/
  rejected : ∀ r, result = .error r → ¬ r.isBrokenInvariant →
    log.getLast? = some (.rejected tag r)
  /-- Nothing is said to be turned down that is not. -/
  accepted : ∀ op, result = .ok op →
    ∀ tag' r, Line.malformed tag' r ∉ log ∧ Line.rejected tag' r ∉ log

/-- A verdict after lines that are none tells how the compilation ends. -/
theorem tells_append {tag : Tag} {result : Except Rejection Operation} {before : List Line}
    (hbefore : ∀ line ∈ before, line.IsInterim)
    (hbegins : (before ++ linesAfter tag result).head? = some (.compiling tag) ↔
      ∃ kind, tag = .word (.statement kind)) :
    Tells tag result (before ++ linesAfter tag result) := by
  cases result with
  | ok op =>
      rw [linesAfter, List.append_nil] at hbegins ⊢
      refine ⟨hbegins, ⟨?_, ?_⟩, ?_, ?_, ?_⟩
      · rintro ⟨line, hline, hgrave⟩
        exact nomatch (hbefore line hline).level.symm.trans hgrave
      · rintro ⟨r, ⟨⟩, -⟩
      · rintro r ⟨⟩
      · rintro r ⟨⟩
      · intro op' _ tag' r
        exact ⟨fun hmem => (hbefore _ hmem).ne_malformed tag' r rfl,
          fun hmem => (hbefore _ hmem).ne_rejected tag' r rfl⟩
  | error r =>
      rw [linesAfter] at hbegins ⊢
      by_cases hr : r.isBrokenInvariant
      · rw [Line.refused_of_isBrokenInvariant hr] at hbegins ⊢
        refine ⟨hbegins, iff_of_true ⟨.malformed tag r, List.mem_append_right _ (.head _), rfl⟩
          ⟨r, rfl, hr⟩, ?_, ?_, ?_⟩
        · rintro _ ⟨⟩ -
          exact ⟨before, rfl, fun line hline => (hbefore line hline).level⟩
        · rintro _ ⟨⟩ hnot
          exact absurd hr hnot
        · rintro op ⟨⟩
      · rw [Line.refused_of_not_isBrokenInvariant hr] at hbegins ⊢
        refine ⟨hbegins, ⟨?_, ?_⟩, ?_, ?_, ?_⟩
        · rintro ⟨line, hline, hgrave⟩
          rcases List.mem_append.mp hline with hbefore' | hlast
          · exact nomatch (hbefore line hbefore').level.symm.trans hgrave
          · obtain rfl : line = .rejected tag r := by simpa using hlast
            exact nomatch hgrave
        · rintro ⟨_, ⟨⟩, hbroken⟩
          exact absurd hbroken hr
        · rintro _ ⟨⟩ hbroken
          exact absurd hbroken hr
        · rintro _ ⟨⟩ -
          exact List.getLast?_concat
        · rintro op ⟨⟩

namespace Compiler

/-- The log begins with the statement exactly if the root is one. -/
theorem head?_lines_compile (c : Compiler) (issue : Issue) (n : Node) :
    (lines (c.compile issue n).journal).head? = some (.compiling n.tag) ↔
      ∃ kind, n.tag = .word (.statement kind) := by
  rw [lines_compile, compile_result, linesBefore, Node.principals, Node.questions]
  simp only [← Tag.statement?_eq_some_iff]
  cases n.tag.statement? with
  | none =>
      -- an unknown statement is turned down at once
      have hmistake : ¬ (Rejection.unknownStatement n.tag).isBrokenInvariant := by
        simp [Rejection.isBrokenInvariant, Rejection.category]
      have hne := (Line.isInterim_compiling n.tag).ne_rejected n.tag (.unknownStatement n.tag)
      simpa [linesAfter, Line.refused_of_not_isBrokenInvariant hmistake] using hne.symm
  | some kind => simp

theorem tells_compile {c : Compiler} (h : ∀ catalog ∈ c.catalog, catalog.SpeaksForItself)
    (issue : Issue) (n : Node) :
    Tells n.tag (c.compile issue n).result (lines (c.compile issue n).journal) := by
  have hbegins := c.head?_lines_compile issue n
  rw [lines_compile] at hbegins ⊢
  exact tells_append (isInterim_linesBefore h n) hbegins

end Compiler

/-! ### The catalogs of backends -/

theorem Entries.linesOn_catalog (entries : Entries) (q : Question) :
    Catalog.linesOn (some entries.catalog) q =
      if (entries.find? q.kind q.name).isSome then []
      else [.unresolved q (.missing q.kind q.name)] := by
  rw [Catalog.linesOn, Option.toList_some, List.flatMap_singleton, lines, entries.records_owner,
    Entries.catalog]
  cases h : entries.find? q.kind q.name with
  | none =>
      simp only [h]
      rfl
  | some owner =>
      simp only [h]
      rfl

theorem Catalog.linesOn_broken (reason : String) (q : Question) :
    linesOn (some (broken reason)) q = [.unresolved q (.failed reason)] := rfl

theorem Connection.linesOn_catalog (c : Connection) (q : Question) :
    Catalog.linesOn (some c.catalog) q =
      match c.failing, c.rows.find? q.kind q.name with
      | some stage, _ => [.unresolved q (.failed stage.reason)]
      | none, some owner => [.found q owner]
      | none, none => [.unresolved q (.missing q.kind q.name)] := by
  obtain ⟨dialect, rows, failing⟩ := c
  cases failing with
  | some stage => cases stage <;> rfl
  | none =>
      have hfetch : (fetchRow ⟨dialect, rows, none⟩ q.kind q.name).result =
          .ok (rows.find? q.kind q.name) := rfl
      rw [Catalog.linesOn, Option.toList_some, List.flatMap_singleton]
      dsimp only [catalog]
      rw [owner]
      cases hrow : rows.find? q.kind q.name with
      | none =>
          rw [hrow] at hfetch
          rw [Attempt.bind_of_ok hfetch]
          rfl
      | some owner =>
          rw [hrow] at hfetch
          rw [Attempt.bind_of_ok hfetch]
          rfl

theorem Backend.speaksForItself (backend : Backend) :
    ∀ catalog ∈ backend.catalog, catalog.SpeaksForItself := by
  cases backend with
  | absent => nofun
  | kept entries =>
      rintro _ ⟨⟩ kind name
      rw [ownRecords, entries.records_owner]
      rfl
  | broken reason =>
      rintro _ ⟨⟩ kind name
      rfl
  | connection c =>
      rintro _ ⟨⟩ kind name
      exact c.ownRecords_owner kind name

namespace Compiler

/-- **The log of a compilation is known line by line, and it tells the outcome.**  It begins with
the statement if the root is one; there is a line for each principal that is read; for each question
there is what the catalog writes, and a line with the fault if there is one; and a rejection is the
last line.  With a catalog that says nothing in the name of the compiler, as the catalogs of hosts
are, the log tells how the compilation ends.  A connection writes a line for each row that it finds,
and no other catalog of a host writes any. -/
theorem compile_log (c : Compiler) (issue : Issue) (n : Node) :
    lines (c.compile issue n).journal =
        (n.tag.statement?.toList.map fun _ => Line.compiling n.tag) ++
          (n.principals c.policy).map Line.principal ++
          (n.questions c.policy).flatMap (Catalog.linesOn c.catalog) ++
          linesAfter n.tag (c.compile issue n).result ∧
      ((∀ catalog ∈ c.catalog, catalog.SpeaksForItself) →
        Tells n.tag (c.compile issue n).result (lines (c.compile issue n).journal)) ∧
      (∀ (backend : Backend), ∀ catalog ∈ backend.catalog, catalog.SpeaksForItself) ∧
      (∀ q : Question,
        (∀ entries : Entries, Catalog.linesOn (some entries.catalog) q =
          if (entries.find? q.kind q.name).isSome then []
          else [.unresolved q (.missing q.kind q.name)]) ∧
        (∀ reason, Catalog.linesOn (some (.broken reason)) q = [.unresolved q (.failed reason)]) ∧
        ∀ connection : Connection, Catalog.linesOn (some connection.catalog) q =
          match connection.failing, connection.rows.find? q.kind q.name with
          | some stage, _ => [.unresolved q (.failed stage.reason)]
          | none, some owner => [.found q owner]
          | none, none => [.unresolved q (.missing q.kind q.name)]) ∧
      (∀ m : Node, m.principal? = (Principal.ofNode m).result.toOption) ∧
      ∀ (list : Node) (ps : List Principal), (Principal.listOfNode list).result = .ok ps →
        list.principalsListed = ps := by
  refine ⟨c.lines_compile issue n, ?_, ?_, ?_, ?_, ?_⟩
  · intro hcatalog
    exact tells_compile hcatalog issue n
  · intro backend
    exact backend.speaksForItself
  · intro q
    refine ⟨?_, ?_, ?_⟩
    · intro entries
      exact entries.linesOn_catalog q
    · intro reason
      exact Catalog.linesOn_broken reason q
    · intro connection
      exact connection.linesOn_catalog q
  · intro m
    exact (Principal.toOption_ofNode_result m).symm
  · intro list ps hlist
    exact Principal.principalsListed_of_result hlist

/-- Two questions fail, and then a column has no name: the tree is malformed. -/
theorem compile_log_grantOnMany :
    Tells grantOnMany.tag (.error (.missingText (.word .identifier)))
        (lines (compile ⟨{}, some (Catalog.broken "down")⟩ {} grantOnMany).journal) ∧
      lines (compile ⟨{}, some (Catalog.broken "down")⟩ {} grantOnMany).journal =
        [.compiling grantOnMany.tag, .principal ⟨"r", some .role⟩,
          .unresolved ⟨.table, "t"⟩ (.failed "down"),
          .unresolved ⟨.database, "d"⟩ (.failed "down"),
          .malformed grantOnMany.tag (.missingText (.word .identifier))] ∧
      Catalog.linesOn (some ownedTable) ⟨.table, "u"⟩ =
        [.unresolved ⟨.table, "u"⟩ (.missing .table "u")] := by
  obtain ⟨hlog, htells, hbackend, hquestions, -, -⟩ :=
    compile_log ⟨{}, some (Catalog.broken "down")⟩ {} grantOnMany
  have hresult : (compile ⟨{}, some (Catalog.broken "down")⟩ {} grantOnMany).result =
      .error (.missingText (.word .identifier)) := rfl
  have hprincipals : grantOnMany.principals {} = [⟨"r", some .role⟩] := by decide +kernel
  have hasked : grantOnMany.questions {} = [⟨.table, "t"⟩, ⟨.database, "d"⟩] := by decide +kernel
  refine ⟨?_, ?_, ?_⟩
  · rw [← hresult]
    exact htells (hbackend (.broken "down"))
  · rw [hlog, hresult, hprincipals, hasked]
    rfl
  · exact (hquestions _).1 _

end Compiler

end AccessControl
