import AccessControl.Execution.Statements

/-!
# Requests

What can be asked of a compiler, and the values it answers with.  Beside whole statements the parts
of statements can be asked about on their own.  The answer is what is run under `Execution`.
-/

namespace AccessControl

/-- Something asked of a compiler. -/
inductive Request where
  /-- The verdict on a statement. -/
  | compile (issue : Issue) (n : Node)
  /-- The operation of a tree, read as a statement of some kind. -/
  | build (kind : StatementKind) (issue : Issue) (n : Node)
  /-- The operation that takes on a role. -/
  | setRole (role : String)
  /-- The operation that asks for the role taken on. -/
  | showCurrentRole (resultFile : Option String)
  /-- The target of an object. -/
  | target (n : Node)
  /-- The privileges of a list. -/
  | privileges (n : Node)
  /-- The principals of a list. -/
  | principals (n : Node)
  /-- One principal. -/
  | principal (n : Node)
  /-- The owner of an object, as far as the catalog can tell. -/
  | owner (kind : ObjectKind) (name : String)

/-! ### Values -/

/-- An item of a list. -/
inductive Item where
  | privilege (request : PrivilegeRequest)
  | principal (principal : Principal)
deriving DecidableEq

/-- An answer. -/
inductive Value where
  | nothing
  | truth (b : Bool)
  | text (s : String)
  | principal (principal : Principal)
  | target (target : Target)
  | items (items : List Item)
  | operation (operation : Operation)
  | verdict (verdict : Verdict)
deriving DecidableEq

namespace Value

/-- A text, or nothing. -/
def ofText? : Option String → Value
  | none => .nothing
  | some s => .text s

/-- The values count as the same.  Two verdicts do when they accept the same operation or both
reject, for whatever cause. -/
def same : Value → Value → Bool
  | .verdict v, .verdict w => v.operation? = w.operation?
  | v, w => v = w

end Value

/-! ### Answers -/

/-- What the compiler answers. -/
def Compiler.answer (c : Compiler) : Request → Attempt Failure Value
  | .compile issue n => .verdict <$> Execution.compile c issue n
  | .build kind issue n => .operation <$> Execution.build c issue n kind
  | .setRole role => pure (.operation (.setRole role))
  | .showCurrentRole resultFile => pure (.operation (.showCurrentRole resultFile))
  | .target n => .target <$> Execution.target c.catalog n
  | .privileges n => do
      let requests ← Execution.privileges c.policy n
      pure (.items (requests.map .privilege))
  | .principals n => do
      let principals ← Execution.principals n
      pure (.items (principals.map .principal))
  | .principal n => .principal <$> Execution.principal n
  | .owner kind name => .ofText? <$> Catalog.lookupOwner c.catalog kind name

end AccessControl
