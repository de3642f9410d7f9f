import AccessControl.Proofs.Reading.Likeness

/-!
# Reading — parts of two trees side by side

A tree is compiled with a catalog, and a tree that is alike with another catalog.  A
`Catalog.Pairing` says what two catalogs have to do with each other: how the journals of the two
compilations are related, and the owners that they find.

The readers of privileges, principals, objects and clauses go along side by side, with one lemma for
each.  **They differ only where they look at tags and texts, which are alike, and where they ask the
catalog** (`Target.ofNode_paired`).
-/

namespace AccessControl

open Attempt (Paired)
open Rejection (Retold)

/-! ### Catalogs -/

/-- Two catalogs, and how what is noted and found with the one is related to what is noted and found
with the other. -/
structure Catalog.Pairing where
  left : Option Catalog
  right : Option Catalog
  journal : List Entry → List Entry → Prop
  owner : ObjectKind → String → Option String → Option String → Prop
  additive : Additive journal
  /-- The compiler itself makes the same remarks. -/
  record : ∀ r : Record, r.source = .compiler → journal [.record r] [.record r]
  /-- Targets that have no owner are not asked about. -/
  ownerless : ∀ kind name, kind.isOwned = false → owner kind name none none
  lookup : ∀ kind name, Paired journal (Eq (α := Rejection)) (owner kind name)
    (lookupOwner left kind name) (lookupOwner right kind name)

/-- Two catalogs with which the same owners are found. -/
def Catalog.Pairing.ofEq (left right : Option Catalog) (J : List Entry → List Entry → Prop)
    (additive : Additive J)
    (record : ∀ r : Record, r.source = .compiler → J [.record r] [.record r])
    (lookup : ∀ kind name, Paired J (Eq (α := Rejection)) Eq (lookupOwner left kind name)
      (lookupOwner right kind name)) : Catalog.Pairing where
  left := left
  right := right
  journal := J
  owner _ _ := Eq
  additive := additive
  record := record
  ownerless _ _ _ := rfl
  lookup := lookup

/-! ### What is read -/

section Values

variable (O : ObjectKind → String → Option String → Option String → Prop)

/-- The targets are the same but for their owners, which are related. -/
inductive Target.UpToOwner : Target → Target → Prop where
  | mk {name : String} {kind : ObjectKind} {owner owner' : Option String} {columns : List String}
      {partition : Option PartitionSpec} : O kind name owner owner' →
      UpToOwner ⟨name, kind, owner, columns, partition⟩ ⟨name, kind, owner', columns, partition⟩

/-- The clauses are the same but for the owners of their targets. -/
inductive Clause.UpToOwner : Clause → Clause → Prop where
  | grantOption : UpToOwner .grantOption .grantOption
  | object {t t' : Target} : t.UpToOwner O t' → UpToOwner (.object t) (.object t')

/-- The operations are the same but for the owners of their targets. -/
inductive Operation.UpToOwner : Operation → Operation → Prop where
  | same (op : Operation) : UpToOwner op op
  | grant (g : PrivilegeGrant) {t t' : Target} : t.UpToOwner O t' →
      UpToOwner (.grant { g with target := t }) (.grant { g with target := t' })
  | revoke (r : PrivilegeRevocation) {t t' : Target} : t.UpToOwner O t' →
      UpToOwner (.revoke { r with target := some t }) (.revoke { r with target := some t' })
  | showGrant (resultFile : Option String) (principal : Principal) {t t' : Target} :
      t.UpToOwner O t' → UpToOwner (.showGrant resultFile principal (some t))
        (.showGrant resultFile principal (some t'))

variable {O}

theorem Clause.lastTarget?_rel {clauses clauses' : List Clause}
    (h : List.Forall₂ (Clause.UpToOwner O) clauses clauses') :
    Option.Rel (Target.UpToOwner O) (lastTarget? clauses) (lastTarget? clauses') := by
  refine forall₂_getLast? ?_
  induction h with
  | nil => exact .nil
  | cons hclause _ ih =>
      cases hclause with
      | grantOption => exact ih
      | object ht => exact .cons ht ih

theorem Clause.contains_grantOption_eq {clauses clauses' : List Clause}
    (h : List.Forall₂ (Clause.UpToOwner O) clauses clauses') :
    clauses.contains .grantOption = clauses'.contains .grantOption := by
  induction h with
  | nil => rfl
  | cons hclause _ ih =>
      rw [List.contains_cons, List.contains_cons, ih]
      cases hclause <;> rfl

end Values

/-- Operations whose targets have the same owners are the same. -/
theorem Operation.UpToOwner.eq {op op' : Operation} (h : op.UpToOwner (fun _ _ => Eq) op') :
    op = op' := by
  cases h with
  | same => rfl
  | grant _ ht | revoke _ ht | showGrant _ _ ht =>
      obtain ⟨rfl⟩ := ht
      rfl

variable {l : Likeness} {k : Catalog.Pairing} {policy : Policy} {n n' : Node}

/-! ### Privileges and principals -/

namespace PrivilegeRequest

theorem privilegeOfTag_endAlike {t t' : Tag} (h : l.tag t t') :
    EndAlike (Retold l.tag) Eq (privilegeOfTag policy t) (privilegeOfTag policy t') := by
  rw [privilegeOfTag, privilegeOfTag, (l.sameUse h).privilege?_eq]
  cases t'.privilege? with
  | none => exact .error (.unknownPrivilege h)
  | some privilege => exact .refl Retold.same (fun _ => rfl) _

theorem columnsOfNode_endAlike (h : n.Like l n') :
    EndAlike (Retold l.tag) Eq (columnsOfNode n) (columnsOfNode n') := by
  rw [columnsOfNode, columnsOfNode]
  have hlist := h.getElem? 1
  generalize n.children[1]? = list?, n'.children[1]? = list?' at hlist
  cases hlist with
  | none => exact .ok rfl
  | some hlist =>
      simp only [hlist.word_iff .columnList rfl]
      split
      · exact Node.names_endAlike hlist
      · exact .error (.unexpectedNode .privilege hlist.tag)

theorem ofNode_endAlike (h : n.Like l n') :
    EndAlike (Retold l.tag) Eq (ofNode policy n) (ofNode policy n') := by
  refine (Node.part_endAlike h 0).bind fun head head' hhead => ?_
  refine (privilegeOfTag_endAlike hhead.tag).bind_eq fun privilege => ?_
  refine (columnsOfNode_endAlike h).bind_eq fun columns => ?_
  exact .refl Retold.same (fun _ => rfl) _

theorem listOfNode_endAlike (h : n.Like l n') :
    EndAlike (Retold l.tag) Eq (listOfNode policy n) (listOfNode policy n') :=
  .mapM_eq h.children fun _ _ => ofNode_endAlike

end PrivilegeRequest

namespace Principal

theorem ofNode_paired (h : n.Like l n') :
    Paired k.journal (Retold l.tag) Eq (ofNode n) (ofNode n') := by
  refine .ofExcept_bind k.additive (Node.part_endAlike h 0) fun named named' hn => ?_
  refine .ofExcept_bind_eq k.additive (Node.name_endAlike hn) fun name => ?_
  rw [(l.sameUse h.tag).principalKind]
  refine .bind_eq k.additive ⟨k.record _ rfl, .ok rfl⟩ fun _ => ?_
  exact .pure k.additive rfl

theorem listOfNode_paired (h : n.Like l n') :
    Paired k.journal (Retold l.tag) Eq (listOfNode n) (listOfNode n') :=
  .mapM_eq k.additive h.children fun _ _ => ofNode_paired

theorem requireKind_endAlike (required : PrincipalKind) (principals : List Principal) :
    EndAlike (Retold l.tag) Eq (requireKind required principals)
      (requireKind required principals) :=
  .refl Retold.same (fun _ => rfl) _

theorem soleOfNode_paired {required : PrincipalKind} (h : n.Like l n') :
    Paired k.journal (Retold l.tag) Eq (soleOfNode required n) (soleOfNode required n') := by
  refine .ofExcept_bind k.additive (Node.part_endAlike h 0) fun child child' hc => ?_
  refine .bind_eq k.additive (ofNode_paired hc) fun principal => ?_
  refine .ofExcept_bind_eq k.additive (requireKind_endAlike required _) fun _ => ?_
  exact .pure k.additive rfl

end Principal

/-! ### Targets -/

theorem Node.tableName_endAlike (h : n.Like l n') :
    EndAlike (Retold l.tag) Eq n.tableName n'.tableName := by
  rw [tableName, tableName]
  simp only [h.word_iff .tableName rfl]
  split
  · have hlast := forall₂_getLast? h.children
    generalize n.children.getLast? = last?, n'.children.getLast? = last?' at hlast
    cases hlast with
    | none => exact .error (.same .emptyTableName)
    | some hlast => exact name_endAlike hlast
  · exact (token_endAlike h).map fun _ _ hs => hs.2

theorem ObjectKind.nameOfNode_endAlike (kind : ObjectKind) (h : n.Like l n') :
    EndAlike (Retold l.tag) Eq (kind.nameOfNode n) (kind.nameOfNode n') := by
  cases kind with
  | server | database => exact Node.name_endAlike h
  | table => exact Node.tableName_endAlike h
  | uri => exact (Node.name_endAlike h).map fun _ _ => congrArg _

namespace Target

theorem kindOfTag_endAlike {t t' : Tag} (h : l.tag t t') :
    EndAlike (Retold l.tag) Eq (kindOfTag t) (kindOfTag t') := by
  rw [kindOfTag, kindOfTag, (l.sameUse h).objectKind?_eq]
  cases t'.objectKind? with
  | none => exact .error (.unknownTarget h)
  | some kind => exact .ok rfl

theorem columnsOfNodes_endAlike {ms ms' : List Node} (h : List.Forall₂ (Node.Like l) ms ms') :
    EndAlike (Retold l.tag) Eq (columnsOfNodes ms) (columnsOfNodes ms') := by
  have hlists : List.Forall₂ (Node.Like l) (ms.filter fun m => m.tag = .word .columnList)
      (ms'.filter fun m => m.tag = .word .columnList) := by
    refine List.rel_filter (fun m m' hm => ?_) h
    simpa using hm.word_iff .columnList rfl
  refine (EndAlike.mapM_eq hlists fun _ _ => Node.names_endAlike).bind_eq fun lists => ?_
  exact .ok rfl

theorem ownerOf_paired (kind : ObjectKind) (name : String) :
    Paired k.journal (Retold l.tag) (k.owner kind name) (ownerOf k.left kind name)
      (ownerOf k.right kind name) := by
  rw [ownerOf, ownerOf]
  by_cases h : kind.isOwned
  · rw [if_pos h, if_pos h]
    refine (k.lookup kind name).imp (fun _ _ => id) ?_ fun _ _ => id
    rintro r _ rfl
    exact .same r
  · rw [if_neg h, if_neg h]
    exact .pure k.additive (k.ownerless kind name (by simpa using h))

theorem ofNode_paired (h : n.Like l n') :
    Paired k.journal (Retold l.tag) (UpToOwner k.owner) (ofNode k.left n) (ofNode k.right n') := by
  rw [ofNode, ofNode, Node.hasPartition_eq h]
  split
  · exact .fail k.additive (.same .partitionTarget)
  · refine .ofExcept_bind k.additive (Node.part_endAlike h 0) fun target target' ht => ?_
    refine .ofExcept_bind k.additive (Node.part_endAlike ht 0) fun named named' hn => ?_
    refine .ofExcept_bind_eq k.additive (kindOfTag_endAlike ht.tag) fun kind => ?_
    refine .ofExcept_bind_eq k.additive (kind.nameOfNode_endAlike hn) fun name => ?_
    refine .bind k.additive (ownerOf_paired kind name) fun owner owner' ho => ?_
    refine .ofExcept_bind_eq k.additive (columnsOfNodes_endAlike (ht.drop 1)) fun columns => ?_
    exact .pure k.additive (.mk ho)

theorem shownOfNode_paired (h : n.Like l n') :
    Paired k.journal (Retold l.tag) (Option.Rel (UpToOwner k.owner)) (shownOfNode k.left n)
      (shownOfNode k.right n') := by
  rw [shownOfNode, shownOfNode]
  have hobject := h.getElem? 1
  generalize n.children[1]? = object?, n'.children[1]? = object?' at hobject
  cases hobject with
  | none => exact .pure k.additive .none
  | some hobject =>
      simp only [hobject.word_iff .shownObject rfl]
      split
      · exact (ofNode_paired hobject).map fun _ _ => .some
      · exact .fail k.additive (.unexpectedNode .showGrant hobject.tag)

end Target

/-! ### Clauses -/

namespace Clause

theorem ofNode_paired (place : Place) (h : n.Like l n') :
    Paired k.journal (Retold l.tag) (UpToOwner k.owner) (ofNode k.left place n)
      (ofNode k.right place n') := by
  rw [ofNode, ofNode]
  simp only [h.word_iff .grantOption rfl, h.word_iff .object rfl]
  split
  · exact .pure k.additive .grantOption
  · split
    · refine .bind k.additive (Target.ofNode_paired h) fun t t' ht => ?_
      exact .pure k.additive (.object ht)
    · exact .fail k.additive (.unexpectedNode place h.tag)

theorem listOfNode_paired (place : Place) (h : n.Like l n') :
    Paired k.journal (Retold l.tag) (List.Forall₂ (UpToOwner k.owner)) (listOfNode k.left place n)
      (listOfNode k.right place n') :=
  .mapM k.additive (h.drop 2) fun _ _ => ofNode_paired place

end Clause

end AccessControl
