import AccessControl.Principal
import AccessControl.Privilege
import AccessControl.Target

/-!
# Statements — tags

Every node of a statement tree has a tag.  Most tags are words of the grammar (`NodeKind`).  A tag
can also be a bare number, and a bare number is never a word of the grammar, whatever its value;
three of them stand for kinds of principal.

The wording of a tag (`Tag.text`, `Tag.display`) is told for every number.  Whether a sentence with
the tag in it can be put together depends on the numbers in the wording (`Tag.numbers`): not every
number can be written (`Text.IsWritable`).
-/

namespace AccessControl

/-- The statements that can be compiled. -/
inductive StatementKind where
  | createRole
  | dropRole
  | grant
  | revoke
  | grantRole
  | revokeRole
  | setRole
  | showGrant
  | showRoleGrant
  | showRoles
  | showCurrentRole
  | showRolePrincipals
deriving DecidableEq

namespace StatementKind

/-- The word of the grammar. -/
def label : StatementKind → String
  | .createRole => "CREATE_ROLE"
  | .dropRole => "DROP_ROLE"
  | .grant => "GRANT"
  | .revoke => "REVOKE"
  | .grantRole => "GRANT_ROLE"
  | .revokeRole => "REVOKE_ROLE"
  | .setRole => "SET_ROLE"
  | .showGrant => "SHOW_GRANT"
  | .showRoleGrant => "SHOW_ROLE_GRANT"
  | .showRoles => "SHOW_ROLES"
  | .showCurrentRole => "SHOW_CURRENT_ROLE"
  | .showRolePrincipals => "SHOW_ROLE_PRINCIPALS"

/-- Its number. -/
def code : StatementKind → Nat
  | .createRole => 1
  | .dropRole => 2
  | .grant => 3
  | .revoke => 4
  | .grantRole => 5
  | .revokeRole => 6
  | .setRole => 7
  | .showGrant => 8
  | .showRoleGrant => 9
  | .showRoles => 10
  | .showCurrentRole => 11
  | .showRolePrincipals => 12

end StatementKind

/-! ### The words of the grammar -/

/-- The kinds of node. -/
inductive NodeKind where
  /-- The root of a statement. -/
  | statement (kind : StatementKind)
  /-- A name. -/
  | identifier
  /-- The privileges of a grant or revoke. -/
  | privilegeList
  /-- One of them, with its columns. -/
  | privilegeItem
  /-- The principals of a grant or revoke. -/
  | principalList
  /-- One of them. -/
  | principal (kind : PrincipalKind)
  /-- The object of a grant or revoke. -/
  | object
  /-- The object of a question about grants. -/
  | shownObject
  /-- The permission to grant further. -/
  | grantOption
  /-- The target inside an object. -/
  | target (kind : ObjectKind)
  /-- A partition of a table. -/
  | partition
  /-- A table name, one child for each part. -/
  | tableName
  /-- A list of columns. -/
  | columnList
  /-- A privilege. -/
  | privilege (privilege : Privilege)
deriving DecidableEq

instance : Coded NodeKind where
  family := "FragmentType"
  members :=
    [.createRole, .dropRole, .grant, .revoke, .grantRole, .revokeRole, .setRole, .showGrant,
      .showRoleGrant, .showRoles, .showCurrentRole, .showRolePrincipals].map .statement ++
    [.identifier, .privilegeList, .privilegeItem, .principalList, .principal .user,
      .principal .group, .principal .role, .object, .shownObject, .grantOption,
      .target .server, .target .database, .target .table, .target .uri, .partition, .tableName,
      .columnList] ++
    (Coded.members (α := Privilege)).map .privilege
  label
    | .statement kind => kind.label
    | .identifier => "IDENTIFIER"
    | .privilegeList => "PRIVILEGE_LIST"
    | .privilegeItem => "PRIVILEGE"
    | .principalList => "PRINCIPAL_LIST"
    | .principal kind => Coded.label kind
    | .object => "PRIV_OBJECT"
    | .shownObject => "PRIV_OBJECT_COL"
    | .grantOption => "GRANT_WITH_OPTION"
    | .target .server => "SERVER_TYPE"
    | .target .database => "DB_TYPE"
    | .target .table => "TABLE_TYPE"
    | .target .uri => "URI_TYPE"
    | .partition => "PARTSPEC"
    | .tableName => "TABNAME"
    | .columnList => "TABCOLNAME"
    | .privilege privilege => "PRIV_" ++ Coded.label privilege
  code
    | .statement kind => kind.code
    | .identifier => 20
    | .privilegeList => 21
    | .privilegeItem => 22
    | .principalList => 23
    | .principal .user => 24
    | .principal .group => 25
    | .principal .role => 26
    | .object => 27
    | .shownObject => 28
    | .grantOption => 29
    | .target .server => 40
    | .target .database => 41
    | .target .table => 42
    | .target .uri => 43
    | .partition => 44
    | .tableName => 45
    | .columnList => 46
    | .privilege privilege => 59 + Coded.code privilege
  mem_members a := by
    cases a with
    | statement kind => cases kind <;> decide
    | principal kind => cases kind <;> decide
    | target kind => cases kind <;> decide
    | privilege privilege => cases privilege <;> decide
    | _ => decide
  nodup_codes := by decide

/-! ### Tags -/

/-- The tag of a node. -/
inductive Tag where
  /-- A word of the grammar. -/
  | word (kind : NodeKind)
  /-- A bare number. -/
  | number (n : Int)
deriving DecidableEq

namespace Tag

/-- The tag inside a sentence. -/
def text : Tag → String
  | .word kind => Coded.qualifiedLabel kind
  | .number n => toString n

/-- The tag inside a list. -/
def display : Tag → String
  | .word kind => Coded.display kind
  | .number n => toString n

/-- The numbers in the text of the tag. -/
def numbers : Tag → List Int
  | .word _ => []
  | .number n => [n]

/-- The statement that a root with this tag begins. -/
def statement? : Tag → Option StatementKind
  | .word (.statement kind) => some kind
  | _ => none

/-- The privilege that the tag stands for. -/
def privilege? : Tag → Option Privilege
  | .word (.privilege privilege) => some privilege
  | _ => none

/-- The kind of target that the tag stands for. -/
def objectKind? : Tag → Option ObjectKind
  | .word (.target kind) => some kind
  | _ => none

/-- The kind of principal that the tag stands for.  Each kind has a word and a number. -/
def principalKind? : Tag → Option PrincipalKind
  | .word (.principal kind) => some kind
  | .number 880 => some .user
  | .number 685 => some .group
  | .number 782 => some .role
  | _ => none

end Tag

end AccessControl
