import AccessControl.Statement.Tag
import AccessControl.Text.Numeral
import AccessControl.Text.Quoted

/-!
# Rejections

Why a statement is turned down.  A rejection names its cause; its category and its message are
read off the cause.  All categories but one are mistakes that the author of the statement can
mend; a broken invariant is a tree that the grammar never produces.

The message of some causes has numbers in it: those of tags, and how many children there are.  It
can be written when each of them can (`IsWritable`).
-/

namespace AccessControl

/-- The places where a node can be out of place. -/
inductive Place where
  | grant
  | revoke
  | privilege
  | showGrant
deriving DecidableEq

/-- The place inside a sentence. -/
def Place.label : Place → String
  | .grant => "GRANT"
  | .revoke => "REVOKE"
  | .privilege => "privilege"
  | .showGrant => "SHOW GRANT"

/-- The cause of a rejection. -/
inductive Rejection where
  /-- The object is, or holds, a partition. -/
  | partitionTarget
  /-- The tag stands for no privilege. -/
  | unknownPrivilege (tag : Tag)
  /-- The policy does not let the privilege be granted or revoked. -/
  | privilegeNotAllowed (privilege : Privilege)
  /-- The privilege applies to whole rows and came with columns. -/
  | columnsNotAllowed (privilege : Privilege)
  /-- A principal is not of the kind that the statement takes. -/
  | principalNotSupported (found : Option PrincipalKind) (required : PrincipalKind)
  /-- The role is one of the reserved ones. -/
  | reservedRole (reserved : List String)
  /-- The root is no statement. -/
  | unknownStatement (tag : Tag)
  /-- The tag stands for no kind of target. -/
  | unknownTarget (tag : Tag)
  /-- A node is out of place. -/
  | unexpectedNode (place : Place) (tag : Tag)
  /-- A node without the text of a token. -/
  | missingText (tag : Tag)
  /-- A node has `count` children and none at `position`. -/
  | missingChild (tag : Tag) (count : Nat) (position : Int)
  /-- A grant without an object. -/
  | missingObject
  /-- A table name without parts. -/
  | emptyTableName
  /-- A question for the principals of a role that does not have the role as its only child. -/
  | notOneRole (tags : List Tag)
deriving DecidableEq

/-- The kinds of cause. -/
inductive Category where
  | unsupportedTarget
  | unknownPrivilege
  | privilegeNotAllowed
  | principalNotSupported
  | reservedRoleName
  | unrecognizedNode
  | brokenInvariant
deriving DecidableEq

/-- The author of the statement can mend the mistake. -/
def Category.isUserFacing : Category → Bool
  | .brokenInvariant => false
  | _ => true

namespace Rejection

/-- The kind of the cause. -/
def category : Rejection → Category
  | .partitionTarget => .unsupportedTarget
  | .unknownPrivilege _ => .unknownPrivilege
  | .privilegeNotAllowed _ | .columnsNotAllowed _ => .privilegeNotAllowed
  | .principalNotSupported _ _ => .principalNotSupported
  | .reservedRole _ => .reservedRoleName
  | .unknownStatement _ | .unknownTarget _ | .unexpectedNode _ _ => .unrecognizedNode
  | .missingText _ | .missingChild _ _ _ | .missingObject | .emptyTableName | .notOneRole _ =>
      .brokenInvariant

/-- The tree is one that the grammar never produces. -/
def isBrokenInvariant (r : Rejection) : Bool :=
  r.category = .brokenInvariant

/-- The kind of the principal that was turned down. -/
def principalKind : Rejection → Option PrincipalKind
  | .principalNotSupported found _ => found
  | _ => none

/-- What the author of the statement is told. -/
def message : Rejection → String
  | .partitionTarget => "Partition level privileges are not supported"
  | .unknownPrivilege tag => "Undefined privilege " ++ tag.text
  | .privilegeNotAllowed privilege => "Privilege is not supported: " ++ Coded.label privilege
  | .columnsNotAllowed privilege =>
      "Privilege is not supported: " ++ Coded.label privilege ++ " on column"
  | .principalNotSupported found required =>
      "Grant/revoke is not supported for principal type " ++
        (found.map Coded.label).getD "UNKNOWN" ++ ", only " ++ Coded.label required
  | .reservedRole reserved =>
      "Roles cannot be one of the reserved roles: " ++
        Text.bracketed (reserved.map Text.quoted)
  | .unknownStatement tag => "Unrecognized statement: " ++ tag.text
  | .unknownTarget tag => "Unrecognized privilege object: " ++ tag.text
  | .unexpectedNode place tag => "Unrecognized fragment in " ++ place.label ++ ": " ++ tag.text
  | .missingText tag => "Expected token text on fragment " ++ tag.text
  | .missingChild tag count position =>
      tag.text ++ " has " ++ toString count ++ " children, expected at least " ++
        toString (position + 1)
  | .missingObject => "No privilege object in GRANT statement"
  | .emptyTableName => "Table name fragment has no identifiers"
  | .notOneRole tags =>
      "Unexpected fragments in SHOW ROLE PRINCIPALS: " ++ Text.bracketed (tags.map Tag.display)

/-- The numbers in the message. -/
def numbers : Rejection → List Int
  | .unknownPrivilege tag | .unknownStatement tag | .unknownTarget tag | .unexpectedNode _ tag
  | .missingText tag => tag.numbers
  | .missingChild tag count position => tag.numbers ++ [(count : Int), position + 1]
  | .notOneRole tags => tags.flatMap Tag.numbers
  | .partitionTarget | .privilegeNotAllowed _ | .columnsNotAllowed _ | .principalNotSupported _ _
  | .reservedRole _ | .missingObject | .emptyTableName => []

/-- The message can be written. -/
def IsWritable (r : Rejection) : Prop :=
  ∀ n ∈ r.numbers, Text.IsWritable n

instance (r : Rejection) : Decidable r.IsWritable :=
  inferInstanceAs (Decidable (∀ n ∈ r.numbers, Text.IsWritable n))

end Rejection

end AccessControl
