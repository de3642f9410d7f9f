import AccessControl.Catalog.Fault
import AccessControl.Rejection
import AccessControl.Statement.Node

/-!
# Journals

A journal tells, in order, what happened while a request was answered: the questions put to the
catalog (`Call`) and the remarks made about it (`Record`).  A remark says what it is about; its
wording is read off it.
-/

namespace AccessControl

/-- Why a request has no answer. -/
inductive Failure where
  | rejection (rejection : Rejection)
  | fault (fault : Fault)
  /-- A child was taken from a position where there is none. -/
  | noChild (fault : Node.PositionFault)
  /-- A name was taken from a row without names. -/
  | noName
  /-- A character was taken from a text without characters. -/
  | noCharacter
  /-- A sentence has a number in it that cannot be written. -/
  | longNumber
deriving DecidableEq

/-- What the requester is told. -/
def Failure.message : Failure → String
  | .rejection r => r.message
  | .fault f => f.message
  | .noChild f => f.message
  | .noName => "list index out of range"
  | .noCharacter => "string index out of range"
  | .longNumber =>
      "Exceeds the limit (" ++ toString Text.maxDigits ++ " digits) for integer string " ++
        "conversion; use sys.set_int_max_str_digits() to increase the limit"

/-- What ends the reading of a tree that is turned down.  Its message is written first, and where
that fails the tree is not turned down but given up. -/
def Rejection.raised (r : Rejection) : Failure :=
  if r.IsWritable then .rejection r else .longNumber

/-! ### Questions to the catalog -/

/-- What is done with a connection to a database. -/
inductive Exchange where
  /-- A savepoint is opened. -/
  | begin
  /-- A savepoint could not be opened. -/
  | beginFailed
  /-- The owner query of a kind is sent, with values for its parameters. -/
  | execute (query : CatalogKind) (parameters : List (String × String))
  /-- A row of the answer is fetched. -/
  | fetch
  /-- The savepoint is closed and what was done is kept. -/
  | release
  /-- The savepoint is closed and what was done is undone. -/
  | rollback
deriving DecidableEq

/-- One contact with the catalog. -/
inductive Call where
  /-- A catalog is asked for an owner. -/
  | ask (kind : CatalogKind) (name : String)
  /-- A connection is used. -/
  | exchange (exchange : Exchange)
deriving DecidableEq

/-! ### Remarks -/

/-- How grave a remark is. -/
inductive Level where
  | debug
  | error
deriving DecidableEq

/-- Who makes a remark. -/
inductive Source where
  | compiler
  | connection
deriving DecidableEq

/-- A remark. -/
inductive Record where
  /-- The compilation of a statement begins. -/
  | compiling (tag : Tag)
  /-- A principal was read. -/
  | principal (principal : Principal)
  /-- The owner of a target stays unknown. -/
  | ownerUnresolved (kind : ObjectKind) (name : String) (fault : Fault)
  /-- A connection found the owner, or that there is none. -/
  | ownerFound (kind : CatalogKind) (name : String) (owner : Option String)
  /-- A statement was turned down. -/
  | refused (tag : Tag) (rejection : Rejection)
deriving DecidableEq

namespace Record

/-- Who makes the remark: a connection speaks of what it found, the compiler of all else. -/
def source : Record → Source
  | .ownerFound .. => .connection
  | _ => .compiler

/-- A broken invariant is grave. -/
def level : Record → Level
  | .refused _ r => if r.isBrokenInvariant then .error else .debug
  | _ => .debug

/-- What the remark says. -/
def message : Record → String
  | .compiling tag => "Compiling " ++ tag.text
  | .principal p =>
      "Principal: [" ++ p.name ++ ", " ++ (p.kind.map Coded.qualifiedLabel).getD "None" ++ "]"
  | .ownerUnresolved kind name _ => "Could not resolve owner of " ++ kind.noun ++ " " ++ name
  | .ownerFound kind name owner =>
      "Owner of " ++ kind.noun ++ " " ++ name ++ " is " ++ owner.getD "None"
  | .refused tag r =>
      if r.isBrokenInvariant then "Malformed " ++ tag.text ++ " statement tree: " ++ r.message
      else "Rejected " ++ tag.text ++ " statement: " ++ r.message

/-- The numbers in what the remark says.  The message of a rejection is there already. -/
def numbers : Record → List Int
  | .compiling tag | .refused tag _ => tag.numbers
  | .principal _ | .ownerUnresolved .. | .ownerFound .. => []

/-- The remark can be written. -/
def IsWritable (r : Record) : Prop :=
  ∀ n ∈ r.numbers, Text.IsWritable n

instance (r : Record) : Decidable r.IsWritable :=
  inferInstanceAs (Decidable (∀ n ∈ r.numbers, Text.IsWritable n))

/-- The failure that the remark carries.  Mistakes of the author are told, not carried. -/
def cause : Record → Option Failure
  | .ownerUnresolved _ _ fault => some (.fault fault)
  | .refused _ r => if r.isBrokenInvariant then some (.rejection r) else none
  | _ => none

end Record

/-! ### Journals -/

/-- An event of a journal. -/
inductive Entry where
  | record (record : Record)
  | call (call : Call)
deriving DecidableEq

/-- The remark of an event, if it is one. -/
def Entry.record? : Entry → Option Record
  | .record r => some r
  | .call _ => none

/-- The contact of an event, if it is one. -/
def Entry.call? : Entry → Option Call
  | .record _ => none
  | .call c => some c

/-- The remarks of a journal. -/
def records (journal : List Entry) : List Record :=
  journal.filterMap Entry.record?

/-- The contacts with the catalog in a journal. -/
def calls (journal : List Entry) : List Call :=
  journal.filterMap Entry.call?

@[simp] theorem records_append (j k : List Entry) : records (j ++ k) = records j ++ records k :=
  List.filterMap_append

@[simp] theorem calls_append (j k : List Entry) : calls (j ++ k) = calls j ++ calls k :=
  List.filterMap_append

end AccessControl
