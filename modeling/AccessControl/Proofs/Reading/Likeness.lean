import AccessControl.Proofs.Reading.Paired
import AccessControl.Proofs.Reading.Targets
import AccessControl.Proofs.Reading.Statements

/-!
# Reading — trees that readers cannot tell apart

Readers take little from a node.  From its tag they take which word of the grammar it is, and which
kind of principal it stands for; from its text they take the name, and the last part of a qualified
name.  A `Likeness` relates tags and texts that are the same in this respect, and two trees are
alike (`Node.Like`) when they have the same shape and are alike node by node.

**From trees that are alike readers take the same parts and names** (`Node.part_endAlike`,
`Node.name_endAlike`), **and a partition is in both or in neither** (`Node.hasPartition_eq`).  A
rejection that shows a tag shows the tag of its own tree (`Rejection.Retold`).
-/

namespace AccessControl

/-! ### Likeness -/

/-- The word stands for a kind of principal. -/
def NodeKind.isPrincipal : NodeKind → Bool
  | .principal _ => true
  | _ => false

/-- Readers take the same from both tags. -/
structure Tag.SameUse (t t' : Tag) : Prop where
  /-- The words for principals are not looked for as words. -/
  word : ∀ kind : NodeKind, kind.isPrincipal = false → (t = .word kind ↔ t' = .word kind)
  principalKind : t.principalKind? = t'.principalKind?

/-- Readers take the same from both texts. -/
structure Text.SameName (x x' : Option String) : Prop where
  name : x.map unquote = x'.map unquote
  unqualified : x.map unqualified = x'.map unqualified

/-- Tags and texts that readers cannot tell apart. -/
structure Likeness where
  tag : Tag → Tag → Prop
  text : Option String → Option String → Prop
  sameUse : ∀ {t t'}, tag t t' → t.SameUse t'
  sameName : ∀ {x x'}, text x x' → Text.SameName x x'

theorem Tag.SameUse.of_eq {t t' : Tag} (h : t = t') : t.SameUse t' :=
  h ▸ ⟨fun _ _ => Iff.rfl, rfl⟩

theorem Text.SameName.of_eq {x x' : Option String} (h : x = x') : SameName x x' :=
  h ▸ ⟨rfl, rfl⟩

/-- Everything is like itself, and nothing else. -/
def Likeness.identity : Likeness where
  tag := Eq
  text := Eq
  sameUse := @Tag.SameUse.of_eq
  sameName := @Text.SameName.of_eq

/-- The trees have the same shape, and each node of the one is like the node of the other in the
same place. -/
inductive Node.Like (l : Likeness) : Node → Node → Prop where
  | mk {tag tag' : Tag} {text text' : Option String} {children children' : List Node} :
      l.tag tag tag' → l.text text text' → List.Forall₂ (Like l) children children' →
      Like l ⟨tag, text, children⟩ ⟨tag', text', children'⟩

/-- The rejections tell the same, each with the tags of its own tree. -/
inductive Rejection.Retold (T : Tag → Tag → Prop) : Rejection → Rejection → Prop where
  | same (r : Rejection) : Retold T r r
  | unknownPrivilege {t t' : Tag} : T t t' → Retold T (.unknownPrivilege t) (.unknownPrivilege t')
  | unknownStatement {t t' : Tag} : T t t' → Retold T (.unknownStatement t) (.unknownStatement t')
  | unknownTarget {t t' : Tag} : T t t' → Retold T (.unknownTarget t) (.unknownTarget t')
  | unexpectedNode (place : Place) {t t' : Tag} : T t t' →
      Retold T (.unexpectedNode place t) (.unexpectedNode place t')
  | missingText {t t' : Tag} : T t t' → Retold T (.missingText t) (.missingText t')
  | missingChild (count : Nat) (position : Int) {t t' : Tag} : T t t' →
      Retold T (.missingChild t count position) (.missingChild t' count position)
  | notOneRole {ts ts' : List Tag} : List.Forall₂ T ts ts' →
      Retold T (.notOneRole ts) (.notOneRole ts')

namespace Rejection.Retold

variable {T : Tag → Tag → Prop} {r r' : Rejection}

theorem category_eq (h : Retold T r r') : r.category = r'.category := by
  cases h <;> rfl

theorem principalKind_eq (h : Retold T r r') : r.principalKind = r'.principalKind := by
  cases h <;> rfl

/-- With the same tags the same is told. -/
theorem eq_of (hT : ∀ t t', T t t' → t = t') (h : Retold T r r') : r = r' := by
  cases h with
  | same => rfl
  | notOneRole hts => rw [eq_of_forall₂ (hts.imp hT)]
  | unknownPrivilege ht | unknownStatement ht | unknownTarget ht | unexpectedNode _ ht
  | missingText ht | missingChild _ _ ht => rw [hT _ _ ht]

end Rejection.Retold

/-! ### Tags -/

namespace Tag.SameUse

variable {t t' : Tag}

theorem statement?_eq (h : t.SameUse t') : t.statement? = t'.statement? := by
  ext kind
  rw [statement?_eq_some_iff, statement?_eq_some_iff, h.word (.statement kind) rfl]

theorem privilege?_eq (h : t.SameUse t') : t.privilege? = t'.privilege? := by
  ext privilege
  rw [privilege?_eq_some_iff, privilege?_eq_some_iff,
    h.word (.privilege privilege) rfl]

theorem objectKind?_eq (h : t.SameUse t') : t.objectKind? = t'.objectKind? := by
  ext kind
  rw [objectKind?_eq_some_iff, objectKind?_eq_some_iff, h.word (.target kind) rfl]

end Tag.SameUse

/-! ### Nodes -/

namespace Node

variable {l : Likeness} {n n' : Node}

namespace Like

theorem tag (h : n.Like l n') : l.tag n.tag n'.tag := by
  cases h with
  | mk htag _ _ => exact htag

theorem text (h : n.Like l n') : l.text n.text n'.text := by
  cases h with
  | mk _ htext _ => exact htext

theorem children (h : n.Like l n') : List.Forall₂ (Like l) n.children n'.children := by
  cases h with
  | mk _ _ hchildren => exact hchildren

theorem refl (htag : ∀ t, l.tag t t) (htext : ∀ x, l.text x x) (n : Node) : n.Like l n := by
  induction n with
  | node tag text children ih => exact .mk (htag tag) (htext text) (List.forall₂_same.mpr ih)

theorem identity (n : Node) : n.Like .identity n :=
  refl (fun _ => rfl) (fun _ => rfl) n

theorem word_iff (h : n.Like l n') (kind : NodeKind) (hkind : kind.isPrincipal = false) :
    n.tag = .word kind ↔ n'.tag = .word kind :=
  (l.sameUse h.tag).word kind hkind

theorem getElem? (h : n.Like l n') (i : Nat) :
    Option.Rel (Like l) n.children[i]? n'.children[i]? :=
  forall₂_getElem? h.children i

theorem drop (h : n.Like l n') (i : Nat) :
    List.Forall₂ (Like l) (n.children.drop i) (n'.children.drop i) :=
  List.forall₂_drop i h.children

end Like

theorem hasPartition_eq (h : n.Like l n') : n.hasPartition = n'.hasPartition := by
  induction n generalizing n' with
  | node tag text children ih =>
      obtain ⟨htag, -, hchildren⟩ := h
      rw [hasPartition_mk, hasPartition_mk]
      congr 1
      · exact decide_eq_decide.mpr ((l.sameUse htag).word .partition rfl)
      · -- along the children, each with its own counterpart
        induction hchildren with
        | nil => rfl
        | cons hchild _ ihs =>
            obtain ⟨ihHead, ihTail⟩ := List.forall_mem_cons.mp ih
            rw [List.any_cons, List.any_cons, ihHead hchild, ihs ihTail]

open Rejection (Retold)

theorem child?_rel (h : n.Like l n') (position : Int) :
    Option.Rel (Like l) (n.child? position) (n'.child? position) := by
  rw [child?, child?, ← h.children.length_eq]
  split
  · exact h.getElem? _
  · split
    · exact h.getElem? _
    · exact .none

theorem part_endAlike (h : n.Like l n') (position : Int) :
    EndAlike (Retold l.tag) (Like l) (n.part position) (n'.part position) := by
  rw [part, part]
  have hchild := child?_rel h position
  generalize n.child? position = child?, n'.child? position = child?' at hchild
  cases hchild with
  | some hchild => exact .ok hchild
  | none =>
      rw [← h.children.length_eq]
      exact .error (.missingChild _ _ h.tag)

theorem token_endAlike (h : n.Like l n') :
    EndAlike (Retold l.tag) (fun s s' => Text.unquote s = Text.unquote s' ∧
      Text.unqualified s = Text.unqualified s') n.token n'.token := by
  obtain ⟨hname, hunqualified⟩ := l.sameName h.text
  rw [token, token]
  cases htext : n.text with
  | none =>
      cases htext' : n'.text with
      | none => exact .error (.missingText h.tag)
      | some s' => simp [htext, htext'] at hname
  | some s =>
      cases htext' : n'.text with
      | none => simp [htext, htext'] at hname
      | some s' =>
          rw [htext, htext'] at hname hunqualified
          exact .ok ⟨Option.some.inj hname, Option.some.inj hunqualified⟩

theorem name_endAlike (h : n.Like l n') : EndAlike (Retold l.tag) Eq n.name n'.name :=
  (token_endAlike h).map fun _ _ hs => hs.1

theorem names_endAlike (h : n.Like l n') : EndAlike (Retold l.tag) Eq n.names n'.names :=
  .mapM_eq h.children fun _ _ => name_endAlike

end Node

end AccessControl
