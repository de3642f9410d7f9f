import AccessControl.Catalog.Backend
import AccessControl.Request

/-!
# Hosts

A host puts requests to one compiler, one after another, and changes what the catalog knows in
between.  Entries kept by hand are a copy: the list they were made from can change without an
effect.

**Questions change nothing** (`backend_after_ask`, `backend_after_lookup`): after a request to the
compiler or to the catalog the backend is what it was.
-/

namespace AccessControl

/-- A host, with the values of the actions it has taken. -/
structure Host where
  policy : Policy := {}
  backend : Backend := .absent
  /-- The list that the entries were made from. -/
  source : Entries := {}
  values : List Value := []

/-- One action of a host. -/
inductive Action where
  /-- Puts a request to the compiler. -/
  | ask (request : Request)
  /-- Compares the values of two earlier actions. -/
  | compare (i j : Nat)
  /-- Asks the catalog itself. -/
  | lookup (kind : CatalogKind) (name : String)
  /-- Sets an owner. -/
  | set (kind : CatalogKind) (name : String) (owner : Option String)
  /-- Removes an owner. -/
  | unset (kind : CatalogKind) (name : String)
  /-- Sets an owner in the list that the entries were made from. -/
  | setSource (kind : CatalogKind) (name : String) (owner : Option String)
  /-- Lets the connection fail at a stage, or at none. -/
  | failAt (stage : Option Stage)

namespace Host

/-- A host with entries kept by hand. -/
def ofEntries (policy : Policy) (entries : Entries) : Host where
  policy := policy
  backend := .kept entries
  source := entries

/-- The compiler of the host, as its catalog is now. -/
def compiler (host : Host) : Compiler where
  policy := host.policy
  catalog := host.backend.catalog

/-- The value of an earlier action. -/
def value (host : Host) (i : Nat) : Value :=
  host.values.getD i .nothing

/-- What the catalog itself answers. -/
def lookup (host : Host) (kind : CatalogKind) (name : String) : Attempt Fault Value :=
  match host.backend.catalog with
  | none => pure .nothing
  | some catalog => .ofText? <$> catalog.owner kind name

/-- The answer to an action. -/
def answer (host : Host) : Action → Attempt Failure Value
  | .ask request => host.compiler.answer request
  | .compare i j => pure (.truth ((host.value i).same (host.value j)))
  | .lookup kind name => (host.lookup kind name).mapError .fault
  | .set .. | .unset .. | .setSource .. | .failAt _ => pure .nothing

/-- The host with what an action changes. -/
def change (host : Host) : Action → Host
  | .ask _ | .compare .. | .lookup .. => host
  | .set kind name owner => { host with backend := host.backend.modify (·.set kind name owner) }
  | .unset kind name => { host with backend := host.backend.modify (·.unset kind name) }
  | .setSource kind name owner => { host with source := host.source.set kind name owner }
  | .failAt stage => { host with backend := host.backend.failAt stage }

/-- The host after an action, which remembers the value of the answer; a failed action has
none. -/
def step (host : Host) (action : Action) : Host :=
  let value := match (host.answer action).result with
    | .ok value => value
    | .error _ => .nothing
  { host.change action with values := host.values ++ [value] }

/-- The answers to a run of actions. -/
def run (host : Host) : List Action → List (Attempt Failure Value)
  | [] => []
  | action :: actions => host.answer action :: (host.step action).run actions

/-- **Questions change nothing.** -/
theorem backend_after_ask (host : Host) (request : Request) :
    (host.step (.ask request)).backend = host.backend := rfl

theorem backend_after_lookup (host : Host) (kind : CatalogKind) (name : String) :
    (host.step (.lookup kind name)).backend = host.backend := rfl

end Host

end AccessControl
