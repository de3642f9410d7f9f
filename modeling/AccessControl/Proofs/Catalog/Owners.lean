import AccessControl.Catalog.Entries
import AccessControl.Proofs.Reading.Statements

/-!
# Catalogs — an owner is all that a catalog adds

A statement is compiled with a catalog as it is without one, and then the owner of the target, if
there is a target, is filled in with the advice of the catalog (`Compiler.compile_result_advised`).
A catalog is any function from questions to attempts: it may know the object, not know it, or fail
in any way, and it may be asked about several objects of one statement.

The proof follows the readers.  Each reader that a catalog reaches commutes with filling in the
owner (`advised`): the target, the clause, the row of clauses, the statement.  Where a reader does
not look at the catalog there is nothing to prove.

**Owners are advisory** (`Compiler.compile_ownerless_eq`): two compilers that differ in the catalog
only accept the same statements, with operations that differ in the owner of the target only, and
reject the same statements for the same cause.
-/

namespace AccessControl

/-! ### The target of an operation -/

/-- The target of an operation, if it has one. -/
def Operation.target? : Operation → Option Target
  | .grant g => some g.target
  | .revoke r => r.target
  | .showGrant _ _ target => target
  | _ => none

/-- The operation with another target. -/
def Operation.mapTarget (f : Target → Target) : Operation → Operation
  | .grant g => .grant { g with target := f g.target }
  | .revoke r => .revoke { r with target := r.target.map f }
  | .showGrant resultFile principal target => .showGrant resultFile principal (target.map f)
  | op => op

theorem Operation.mapTarget_mapTarget (f g : Target → Target) (op : Operation) :
    (op.mapTarget f).mapTarget g = op.mapTarget (g ∘ f) := by
  cases op <;> simp [mapTarget]

theorem Operation.target?_mapTarget (f : Target → Target) (op : Operation) :
    (op.mapTarget f).target? = op.target?.map f := by
  cases op <;> rfl

/-- The owner of the target is the one that the catalog gives it. -/
def Operation.Advised (catalog : Option Catalog) (op : Operation) : Prop :=
  ∀ t ∈ op.target?, t.owner = Catalog.advice catalog t.kind t.name

/-- The target without its owner. -/
def Target.ownerless (t : Target) : Target :=
  { t with owner := none }

/-- The target with the owner that the catalog gives it. -/
def Target.advised (catalog : Option Catalog) (t : Target) : Target :=
  { t with owner := Catalog.advice catalog t.kind t.name }

theorem Operation.advised_mapTarget (catalog : Option Catalog) (op : Operation) :
    (op.mapTarget (Target.advised catalog)).Advised catalog := by
  rw [Advised, target?_mapTarget]
  rintro _ ht
  obtain ⟨t, -, rfl⟩ := Option.map_eq_some_iff.mp ht
  rfl

/-! ### Filling in the owner -/

/-- Reading an object with a catalog is reading it without one and filling in the owner. -/
theorem Target.ofNode_result_advised (catalog : Option Catalog) (object : Node) :
    (ofNode catalog object).result = advised catalog <$> (ofNode none object).result := by
  rw [ofNode_result, ofNode_result]
  split
  · rfl
  · simp only [map_bind, map_pure, advised]

/-- The clause with its target filled in. -/
def Clause.advised (catalog : Option Catalog) : Clause → Clause
  | .grantOption => .grantOption
  | .object target => .object (target.advised catalog)

namespace Clause

theorem ofNode_result_advised (catalog : Option Catalog) (place : Place) (n : Node) :
    (ofNode catalog place n).result = advised catalog <$> (ofNode none place n).result := by
  rw [ofNode, ofNode]
  split
  · rfl
  · split
    · rw [Attempt.result_bind, Attempt.result_bind, Target.ofNode_result_advised, bind_map_left,
        map_bind]
      rfl
    · rfl

theorem listOfNode_result_advised (catalog : Option Catalog) (place : Place) (n : Node) :
    (listOfNode catalog place n).result =
      List.map (advised catalog) <$> (listOfNode none place n).result := by
  simp only [listOfNode, Attempt.result_mapM, ofNode_result_advised catalog, mapM_map]

/-- The last target is the last one filled in: which clause it stands in does not change. -/
theorem lastTarget?_map_advised (catalog : Option Catalog) (clauses : List Clause) :
    lastTarget? (clauses.map (advised catalog)) =
      (lastTarget? clauses).map (Target.advised catalog) := by
  rw [lastTarget?, lastTarget?, List.filterMap_map, ← List.getLast?_map, List.map_filterMap]
  congr 2
  funext clause
  cases clause <;> rfl

theorem contains_grantOption_map_advised (catalog : Option Catalog) (clauses : List Clause) :
    (clauses.map (advised catalog)).contains .grantOption = clauses.contains .grantOption := by
  rw [Bool.eq_iff_iff, List.contains_iff_mem, List.contains_iff_mem, List.mem_map]
  refine ⟨?_, fun h => ⟨_, h, rfl⟩⟩
  rintro ⟨clause, hmem, h⟩
  cases clause with
  | grantOption => exact hmem
  | object target => cases h

end Clause

theorem PrivilegeGrant.ofNode_result_advised (policy : Policy) (catalog : Option Catalog)
    (issue : Issue) (n : Node) :
    (ofNode policy catalog issue n).result =
      (fun g => { g with target := g.target.advised catalog }) <$>
        (ofNode policy none issue n).result := by
  rw [ofNode_result, ofNode_result, Clause.listOfNode_result_advised]
  simp only [map_bind, bind_map_left, Clause.lastTarget?_map_advised,
    Clause.contains_grantOption_map_advised]
  refine bind_congr fun _ => bind_congr fun _ => bind_congr fun _ => bind_congr fun _ =>
    bind_congr fun clauses => ?_
  -- only the target of the last object is left of the clauses
  cases Clause.lastTarget? clauses with
  | none => rfl
  | some target => simp only [Option.map_some, map_bind, map_pure]

theorem PrivilegeRevocation.ofNode_result_advised (policy : Policy) (catalog : Option Catalog)
    (n : Node) :
    (ofNode policy catalog n).result =
      (fun r => { r with target := r.target.map (Target.advised catalog) }) <$>
        (ofNode policy none n).result := by
  rw [ofNode_result, ofNode_result, Clause.listOfNode_result_advised]
  simp only [map_bind, bind_map_left, Clause.lastTarget?_map_advised, map_pure]

theorem Target.shownOfNode_result_advised (catalog : Option Catalog) (n : Node) :
    (shownOfNode catalog n).result =
      Option.map (advised catalog) <$> (shownOfNode none n).result := by
  rw [shownOfNode, shownOfNode]
  cases n.children[1]? with
  | none => rfl
  | some object =>
      dsimp only
      split
      · rw [Attempt.result_map, Attempt.result_map, ofNode_result_advised, Functor.map_map,
          Functor.map_map]
        rfl
      · rfl

theorem Operation.showGrantOfNode_result_advised (catalog : Option Catalog) (issue : Issue)
    (n : Node) :
    (showGrantOfNode catalog issue n).result =
      mapTarget (Target.advised catalog) <$> (showGrantOfNode none issue n).result := by
  simp only [showGrantOfNode, Attempt.result_bind, Attempt.result_pure,
    Target.shownOfNode_result_advised catalog, map_bind, bind_map_left]
  rfl

namespace Compiler

/-- Compiling a tree as a statement of some kind with a catalog is compiling it without one and
filling in the owner. -/
theorem build_result_advised (policy : Policy) (catalog : Option Catalog) (issue : Issue)
    (n : Node) (kind : StatementKind) :
    (build ⟨policy, catalog⟩ issue n kind).result =
      Operation.mapTarget (Target.advised catalog) <$>
        (build ⟨policy, none⟩ issue n kind).result := by
  cases kind with
  | grant =>
      simp only [build, Attempt.result_map, PrivilegeGrant.ofNode_result_advised policy catalog,
        Functor.map_map]
      rfl
  | revoke =>
      simp only [build, Attempt.result_map,
        PrivilegeRevocation.ofNode_result_advised policy catalog, Functor.map_map]
      rfl
  | showGrant => exact Operation.showGrantOfNode_result_advised catalog issue n
  | createRole | dropRole | setRole | grantRole | revokeRole =>
      simp only [build, Attempt.result_map, Functor.map_map]
      rfl
  | showRoleGrant =>
      simp only [build, Operation.showRoleGrantOfNode, Attempt.result_bind, map_bind]
      rfl
  | showRoles | showCurrentRole => rfl
  | showRolePrincipals =>
      simp only [build, Operation.showRolePrincipalsOfNode, Attempt.result_ofExcept]
      split
      · rename_i role _
        cases role.name <;> rfl
      · rfl

/-- **An owner is all that a catalog adds.** -/
theorem compile_result_advised (policy : Policy) (catalog : Option Catalog) (issue : Issue)
    (n : Node) :
    (compile ⟨policy, catalog⟩ issue n).result =
      Operation.mapTarget (Target.advised catalog) <$>
        (compile ⟨policy, none⟩ issue n).result := by
  rw [compile_result, compile_result]
  cases n.tag.statement? with
  | none => rfl
  | some kind => exact build_result_advised policy catalog issue n kind

/-- The owner in an operation is the advice of the catalog. -/
theorem advised_of_build {c : Compiler} {issue : Issue} {n : Node} {kind : StatementKind}
    {op : Operation} (h : (c.build issue n kind).result = .ok op) : op.Advised c.catalog := by
  rw [build_result_advised] at h
  obtain ⟨op, -, rfl⟩ := map_ok_iff.mp h
  exact op.advised_mapTarget c.catalog

theorem advised_of_compile {c : Compiler} {issue : Issue} {n : Node} {op : Operation}
    (h : (c.compile issue n).result = .ok op) : op.Advised c.catalog := by
  rw [compile_result_advised] at h
  obtain ⟨op, -, rfl⟩ := map_ok_iff.mp h
  exact op.advised_mapTarget c.catalog

/-- **Owners are advisory.**  With any two catalogs a tree is accepted in both runs or rejected in
both.  If it is rejected, the causes are equal; if it is accepted, the operations are equal without
the owners of their targets.  The owner of a table or database is the answer of the catalog, and
nothing when there is no catalog or the question fails. -/
theorem compile_ownerless_eq (policy : Policy) (catalog catalog' : Option Catalog)
    (issue : Issue) (n : Node) :
    (compile ⟨policy, catalog⟩ issue n).result.map (·.mapTarget Target.ownerless) =
        (compile ⟨policy, catalog'⟩ issue n).result.map (·.mapTarget Target.ownerless) ∧
      ∀ op, (compile ⟨policy, catalog⟩ issue n).result = .ok op → ∀ t ∈ op.target?,
        (t.kind = .table → t.owner = Catalog.answer catalog .table t.name) ∧
          (t.kind = .database → t.owner = Catalog.answer catalog .database t.name) := by
  refine ⟨?_, fun op h t ht => ?_⟩
  -- both runs are the run without a catalog, once the owners are dropped
  · have ownerless : ∀ catalog,
        (compile ⟨policy, catalog⟩ issue n).result.map (·.mapTarget Target.ownerless) =
          (compile ⟨policy, none⟩ issue n).result.map (·.mapTarget Target.ownerless) := by
      intro catalog
      rw [compile_result_advised policy catalog]
      cases (compile ⟨policy, none⟩ issue n).result with
      | error r => rfl
      | ok op =>
          exact congrArg Except.ok (Operation.mapTarget_mapTarget _ _ op)
    rw [ownerless catalog, ownerless catalog']
  · have howner := advised_of_compile h t ht
    exact ⟨fun hk => by rw [howner, hk]; rfl, fun hk => by rw [howner, hk]; rfl⟩

/-- The grant of everything on the table `t` to the role `r`, as a tree. -/
def grantOnTable : Node where
  tag := .word (.statement .grant)
  children :=
    [{ tag := .word .privilegeList
       children := [{ tag := .word .privilegeItem
                      children := [{ tag := .word (.privilege .all) }] }] },
     { tag := .word .principalList
       children := [{ tag := .word (.principal .role), children := [.identifier "r"] }] },
     { tag := .word .object
       children := [{ tag := .word (.target .table), children := [.identifier "t"] }] }]

/-- The same grant as an operation. -/
def grantOfTable (owner : Option String) : Operation :=
  .grant ⟨[⟨.all, []⟩], [⟨"r", some .role⟩], ⟨"t", .table, owner, [], none⟩, none, .user, false⟩

/-- A catalog that knows the owner of the table. -/
def ownedTable : Catalog :=
  Entries.catalog { tables := [("t", some "ann")] }

/-- The grant with a catalog that knows the owner and with one that cannot be asked. -/
theorem compile_ownerless_eq_owned_broken :
    (compile ⟨{}, some ownedTable⟩ {} grantOnTable).result = .ok (grantOfTable (some "ann")) ∧
      (compile ⟨{}, some (Catalog.broken "down")⟩ {} grantOnTable).result =
        .ok (grantOfTable none) ∧
      (compile ⟨{}, some ownedTable⟩ {} grantOnTable).result.map
          (·.mapTarget Target.ownerless) =
        (compile ⟨{}, some (Catalog.broken "down")⟩ {} grantOnTable).result.map
          (·.mapTarget Target.ownerless) ∧
      some "ann" = Catalog.answer (some ownedTable) .table "t" := by
  obtain ⟨heq, howner⟩ := compile_ownerless_eq {} (some ownedTable) (some (Catalog.broken "down"))
    {} grantOnTable
  exact ⟨rfl, rfl, heq, (howner (grantOfTable (some "ann")) rfl _ rfl).1 rfl⟩

end Compiler

end AccessControl
