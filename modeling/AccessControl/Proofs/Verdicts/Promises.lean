import AccessControl.Proofs.Reading.Needs
import AccessControl.Proofs.Verdicts.Blame

/-!
# Verdicts — what the grammar promises

The grammar promises the parts that a statement of each kind has.  A tree is complete
(`Node.IsComplete`) when they are all there: children, the texts of names, and an object in a grant.
Whether the parts mean anything is another matter, and nothing that completeness asks about.

What is wrong with parts that are there is a mistake of the author.  Some mistakes are met while
other parts are still to come, which may be missing (`Node.Mistake`): mistakes in the privileges and
clauses of grants and revocations, and in questions for grants.  Each is a mistake only where
everything before it is there, and **they are all for the author to mend**
(`StatementKind.Mistake.isUserFacing`).
-/

namespace AccessControl

/-! ### Completeness -/

namespace Node

/-- The columns of a requested privilege have texts. -/
def HasColumns (n : Node) : Prop :=
  ∀ list ∈ n.children[1]?, list.tag = .word .columnList → list.HasTexts

/-- The node of a requested privilege has a first child, and its columns have texts. -/
structure IsCompleteRequest (n : Node) : Prop where
  head : n.children[0]?.isSome
  columns : n.HasColumns

/-- The first child of each child has a text. -/
def HasPrincipals (n : Node) : Prop :=
  ∀ m ∈ n.children, m.HasName

/-- The node yields the name of a target with the tag.  The last part of a table name is the one
that counts. -/
def YieldsName (n : Node) (tag : Tag) : Prop :=
  if tag = .word (.target .table) ∧ n.tag = .word .tableName then
    ∃ last ∈ n.children.getLast?, last.text.isSome
  else n.text.isSome

/-- The target has a name, and the columns in its lists have texts. -/
structure IsCompleteTarget (n : Node) : Prop where
  name : ∃ named ∈ n.children[0]?, named.YieldsName n.tag
  columns : ∀ m ∈ n.children.drop 1, m.tag = .word .columnList → m.HasTexts

/-- The object has a complete target. -/
def IsCompleteObject (n : Node) : Prop :=
  ∃ target ∈ n.children[0]?, target.IsCompleteTarget

end Node

/-- The kind of node that is an object in the place. -/
def Place.objectKind : Place → NodeKind
  | .showGrant => .shownObject
  | _ => .object

namespace Node

/-- If the node is an object in the place, it is complete. -/
def IsCompleteClause (place : Place) (n : Node) : Prop :=
  n.tag = .word place.objectKind → n.IsCompleteObject

/-- The lists of privileges and principals of a grant or revocation are there and complete. -/
structure HasCompleteLists (n : Node) : Prop where
  privileges : ∃ list ∈ n.children[0]?, ∀ m ∈ list.children, m.IsCompleteRequest
  principals : ∃ list ∈ n.children[1]?, list.HasPrincipals

end Node

/-- Everything is there that the grammar promises of a statement of the kind. -/
def StatementKind.IsComplete (n : Node) : StatementKind → Prop
  | .createRole | .dropRole | .setRole => n.HasName
  | .grant =>
      n.HasCompleteLists ∧ (∀ m ∈ n.clauses, m.IsCompleteClause .grant) ∧ n.objects ≠ []
  | .revoke => n.HasCompleteLists ∧ ∀ m ∈ n.clauses, m.IsCompleteClause .revoke
  | .grantRole | .revokeRole =>
      (∃ list ∈ n.children[0]?, list.HasPrincipals) ∧ ∀ m ∈ n.children.drop 1, m.text.isSome
  | .showGrant =>
      (∃ principal ∈ n.children[0]?, principal.HasName) ∧
        ∀ object ∈ n.children[1]?, object.IsCompleteClause .showGrant
  | .showRoleGrant => ∃ principal ∈ n.children[0]?, principal.HasName
  | .showRoles | .showCurrentRole => True
  | .showRolePrincipals => n.children.length = 1 ∧ n.HasName

/-- The tree has everything that the grammar promises of its root.  It promises nothing of a root
that begins no statement. -/
def Node.IsComplete (n : Node) : Prop :=
  ∀ kind ∈ n.tag.statement?, kind.IsComplete n

/-! ### Completeness can be decided -/

section Decidable

variable (n : Node)

instance : Decidable n.HasTexts :=
  inferInstanceAs (Decidable (∀ m ∈ n.children, m.text.isSome))

instance : Decidable n.HasName :=
  inferInstanceAs (Decidable (∃ named ∈ n.children[0]?, named.text.isSome))

instance : Decidable n.HasColumns :=
  inferInstanceAs (Decidable (∀ list ∈ n.children[1]?, list.tag = .word .columnList →
    list.HasTexts))

instance : Decidable n.IsCompleteRequest :=
  decidable_of_iff (n.children[0]?.isSome ∧ n.HasColumns)
    ⟨fun h => ⟨h.1, h.2⟩, fun h => ⟨h.head, h.columns⟩⟩

instance : Decidable n.HasPrincipals :=
  inferInstanceAs (Decidable (∀ m ∈ n.children, m.HasName))

instance (tag : Tag) : Decidable (n.YieldsName tag) :=
  inferInstanceAs (Decidable (ite _ _ _))

instance : Decidable n.IsCompleteTarget :=
  decidable_of_iff ((∃ named ∈ n.children[0]?, named.YieldsName n.tag) ∧
      ∀ m ∈ n.children.drop 1, m.tag = .word .columnList → m.HasTexts)
    ⟨fun h => ⟨h.1, h.2⟩, fun h => ⟨h.name, h.columns⟩⟩

instance : Decidable n.IsCompleteObject :=
  inferInstanceAs (Decidable (∃ target ∈ n.children[0]?, target.IsCompleteTarget))

instance (place : Place) : Decidable (n.IsCompleteClause place) :=
  inferInstanceAs (Decidable (n.tag = .word place.objectKind → n.IsCompleteObject))

instance : Decidable n.HasCompleteLists :=
  decidable_of_iff ((∃ list ∈ n.children[0]?, ∀ m ∈ list.children, m.IsCompleteRequest) ∧
      ∃ list ∈ n.children[1]?, list.HasPrincipals)
    ⟨fun h => ⟨h.1, h.2⟩, fun h => ⟨h.privileges, h.principals⟩⟩

instance : (kind : StatementKind) → Decidable (kind.IsComplete n)
  | .createRole | .dropRole | .setRole => inferInstanceAs (Decidable n.HasName)
  | .grant =>
      inferInstanceAs (Decidable (n.HasCompleteLists ∧
        (∀ m ∈ n.clauses, m.IsCompleteClause .grant) ∧ n.objects ≠ []))
  | .revoke =>
      inferInstanceAs (Decidable (n.HasCompleteLists ∧
        ∀ m ∈ n.clauses, m.IsCompleteClause .revoke))
  | .grantRole | .revokeRole =>
      inferInstanceAs (Decidable ((∃ list ∈ n.children[0]?, list.HasPrincipals) ∧
        ∀ m ∈ n.children.drop 1, m.text.isSome))
  | .showGrant =>
      inferInstanceAs (Decidable ((∃ principal ∈ n.children[0]?, principal.HasName) ∧
        ∀ object ∈ n.children[1]?, object.IsCompleteClause .showGrant))
  | .showRoleGrant => inferInstanceAs (Decidable (∃ principal ∈ n.children[0]?, principal.HasName))
  | .showRoles | .showCurrentRole => isTrue trivial
  | .showRolePrincipals => inferInstanceAs (Decidable (n.children.length = 1 ∧ n.HasName))

instance : Decidable n.IsComplete :=
  inferInstanceAs (Decidable (∀ kind ∈ n.tag.statement?, kind.IsComplete n))

end Decidable

/-! ### Mistakes -/

/-- The tag stands for no privilege, or for one that the policy does not allow. -/
inductive Tag.PrivilegeMistake (policy : Policy) (tag : Tag) : Rejection → Prop where
  | unknown : tag.privilege? = none → PrivilegeMistake policy tag (.unknownPrivilege tag)
  | notAllowed {privilege : Privilege} : tag = .word (.privilege privilege) →
      privilege ∉ policy.allowed → PrivilegeMistake policy tag (.privilegeNotAllowed privilege)

namespace Node

/-- The second child is no list of columns. -/
inductive ColumnsMistake (n : Node) : Rejection → Prop where
  | mk {list : Node} : n.children[1]? = some list → list.tag ≠ .word .columnList →
      ColumnsMistake n (.unexpectedNode .privilege list.tag)

/-- The tag stands for a privilege on whole rows, and there are columns. -/
inductive ScopeMistake (tag : Tag) (n : Node) : Rejection → Prop where
  | mk {privilege : Privilege} : tag = .word (.privilege privilege) →
      (privilege = .insert ∨ privilege = .all) → n.columns ≠ [] →
      ScopeMistake tag n (.columnsNotAllowed privilege)

/-- A mistake in a requested privilege. -/
inductive RequestMistake (policy : Policy) (n : Node) (r : Rejection) : Prop where
  | privilege {head : Node} : n.children[0]? = some head →
      head.tag.PrivilegeMistake policy r → RequestMistake policy n r
  | columns : n.children[0]?.isSome → n.ColumnsMistake r → RequestMistake policy n r
  | scope {head : Node} : n.children[0]? = some head → n.HasColumns →
      n.ScopeMistake head.tag r → RequestMistake policy n r

/-- A mistake in an object: a partition anywhere in its tree, or a target of no known kind, which is
looked at after the first child of the target. -/
inductive ObjectMistake (n : Node) : Rejection → Prop where
  | partition {m : Node} : m.Within n → m.tag = .word .partition →
      ObjectMistake n .partitionTarget
  | unknownTarget {target : Node} : n.children[0]? = some target →
      target.children[0]?.isSome → target.tag.objectKind? = none →
      ObjectMistake n (.unknownTarget target.tag)

/-- The node is out of place, or an object with a mistake. -/
inductive ClauseMistake (place : Place) (n : Node) : Rejection → Prop where
  | misplaced : (∀ kind ∈ place.takes, n.tag ≠ .word kind) →
      ClauseMistake place n (.unexpectedNode place n.tag)
  | object {r : Rejection} : n.tag = .word place.objectKind → n.ObjectMistake r →
      ClauseMistake place n r

/-- A mistake in a privilege of a grant or revocation, after complete ones, or in a clause, after
complete lists and clauses. -/
inductive GrantMistake (policy : Policy) (place : Place) (n : Node) (r : Rejection) : Prop where
  | request {list : Node} : n.children[0]? = some list →
      MeetsIn IsCompleteRequest (RequestMistake policy) list.children r →
      GrantMistake policy place n r
  | clause : n.HasCompleteLists →
      MeetsIn (IsCompleteClause place) (ClauseMistake place) n.clauses r →
      GrantMistake policy place n r

/-- The node is marked as a principal of another kind, or of none. -/
inductive KindMistake (required : PrincipalKind) (n : Node) : Rejection → Prop where
  | mk : n.tag.principalKind? ≠ some required →
      KindMistake required n (.principalNotSupported n.tag.principalKind? required)

/-- The principal that the statement is about has a name and is of the wrong kind. -/
def PrincipalMistake (required : PrincipalKind) (n : Node) (r : Rejection) : Prop :=
  ∃ principal ∈ n.children[0]?, principal.HasName ∧ principal.KindMistake required r

/-- A mistake in a question for grants: in the principal, or after it in the object. -/
inductive ShownMistake (n : Node) (r : Rejection) : Prop where
  | principal : n.PrincipalMistake .role r → ShownMistake n r
  | object {object : Node} : (∃ principal ∈ n.children[0]?, principal.HasName) →
      n.children[1]? = some object → object.ClauseMistake .showGrant r → ShownMistake n r

end Node

/-- A mistake in a statement of the kind, where everything before it is there. -/
def StatementKind.Mistake (policy : Policy) (n : Node) (r : Rejection) : StatementKind → Prop
  | .grant => n.GrantMistake policy .grant r
  | .revoke => n.GrantMistake policy .revoke r
  | .showGrant => n.ShownMistake r
  | _ => False

/-- A mistake in the tree, read as its root says, where everything before it is there. -/
def Node.Mistake (policy : Policy) (n : Node) (r : Rejection) : Prop :=
  ∃ kind ∈ n.tag.statement?, kind.Mistake policy n r

/-! ### Mistakes are for the author to mend -/

section Category

variable {policy : Policy} {place : Place} {required : PrincipalKind} {n : Node} {r : Rejection}

theorem Node.RequestMistake.isUserFacing (h : n.RequestMistake policy r) :
    r.category.isUserFacing := by
  rcases h with ⟨-, ⟨-⟩ | -⟩ | ⟨-, ⟨-, -⟩⟩ | ⟨-, -, ⟨-, -, -⟩⟩ <;> rfl

theorem Node.ClauseMistake.isUserFacing (h : n.ClauseMistake place r) :
    r.category.isUserFacing := by
  cases h with
  | misplaced => rfl
  | object _ h => cases h <;> rfl

theorem Node.GrantMistake.isUserFacing (h : n.GrantMistake policy place r) :
    r.category.isUserFacing := by
  cases h with
  | request _ h =>
      obtain ⟨_, -, h⟩ := h.exists_mem
      exact h.isUserFacing
  | clause _ h =>
      obtain ⟨_, -, h⟩ := h.exists_mem
      exact h.isUserFacing

theorem Node.PrincipalMistake.isUserFacing (h : n.PrincipalMistake required r) :
    r.category.isUserFacing := by
  obtain ⟨_, -, -, ⟨-⟩⟩ := h
  rfl

theorem Node.ShownMistake.isUserFacing (h : n.ShownMistake r) : r.category.isUserFacing := by
  cases h with
  | principal h => exact h.isUserFacing
  | object _ _ h => exact h.isUserFacing

theorem StatementKind.Mistake.isUserFacing {kind : StatementKind} (h : kind.Mistake policy n r) :
    r.category.isUserFacing := by
  cases kind with
  | grant | revoke => exact Node.GrantMistake.isUserFacing h
  | showGrant => exact Node.ShownMistake.isUserFacing h
  | _ => exact h.elim

end Category

end AccessControl
