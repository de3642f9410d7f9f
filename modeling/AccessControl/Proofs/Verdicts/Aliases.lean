import AccessControl.Proofs.Catalog.Owners
import AccessControl.Proofs.Reading.SideBySide

/-!
# Verdicts — numbers that stand for words

Each word for a kind of principal has a number that stands for it.

**Whichever of the two a tree uses, at any of its nodes, it is compiled in the same way**
(`Compiler.compile_alias`): to the same operation, or with a rejection of the same kind, and with
the same questions to the catalog.  Where principals are read the word and the number mean the
same, and nowhere else does either of them mean anything.  Other numbers mean nothing at all, so any
two of them can stand for each other as well.
-/

namespace AccessControl

/-- The number that stands for the word of a kind. -/
def PrincipalKind.number : PrincipalKind → Int
  | .user => 880
  | .group => 685
  | .role => 782

/-- One of the tags can stand for the other. -/
inductive Tag.Alias : Tag → Tag → Prop where
  | same (tag : Tag) : Alias tag tag
  | number (kind : PrincipalKind) : Alias (.word (.principal kind)) (.number kind.number)
  | word (kind : PrincipalKind) : Alias (.number kind.number) (.word (.principal kind))
  /-- Numbers that stand for no kind of principal. -/
  | idle {i j : Int} : (Tag.number i).principalKind? = none →
      (Tag.number j).principalKind? = none → Alias (.number i) (.number j)

namespace Tag

theorem principalKind?_number (kind : PrincipalKind) :
    (number kind.number).principalKind? = some kind := by
  cases kind <;> rfl

/-- Only the numbers of the kinds stand for a kind. -/
theorem principalKind?_number_eq_none {i : Int} (h : ∀ kind : PrincipalKind, i ≠ kind.number) :
    (number i).principalKind? = none := by
  unfold principalKind?
  split
  · cases ‹_›
  · exact absurd (number.inj ‹_›) (h .user)
  · exact absurd (number.inj ‹_›) (h .group)
  · exact absurd (number.inj ‹_›) (h .role)
  · rfl

theorem Alias.sameUse {t t' : Tag} (h : t.Alias t') : t.SameUse t' := by
  cases h with
  | same => exact .of_eq rfl
  | number kind =>
      refine ⟨fun w hw => ?_, (principalKind?_number kind).symm⟩
      -- the word is one for a principal, which is not looked for
      have hne : NodeKind.principal kind ≠ w := by
        rintro rfl
        cases hw
      simp [hne]
  | word kind =>
      refine ⟨fun w hw => ?_, principalKind?_number kind⟩
      have hne : NodeKind.principal kind ≠ w := by
        rintro rfl
        cases hw
      simp [hne]
  | idle hi hj => exact ⟨fun w _ => by simp, hi.trans hj.symm⟩

end Tag

/-- Tags that can stand for each other, and nothing else. -/
def Likeness.alias : Likeness where
  tag := Tag.Alias
  text := Eq
  sameUse := @Tag.Alias.sameUse
  sameName := @Text.SameName.of_eq

/-- A catalog beside itself, as far as it is asked. -/
def Catalog.Pairing.sameCalls (catalog : Option Catalog) : Catalog.Pairing :=
  .ofEq catalog catalog (fun j j' => calls j' = calls j)
    (additive_of_append rfl rfl calls_append calls_append) (fun _ _ => rfl)
    fun _ _ => ⟨rfl, .refl (fun _ => rfl) (fun _ => rfl) _⟩

/-- **Numbers and words for kinds of principals stand for each other.**  A tree and a tree that uses
the one for the other, at any nodes, are both accepted, with the same operation, or both rejected,
with the same kind of rejection and of principal, and the catalog is asked the same.  Other numbers
stand for nothing: a principal with such a number is read as one of no known kind, and no statement
begins with a number. -/
theorem Compiler.compile_alias (c : Compiler) (issue : Issue) :
    (∀ n n', n.Like .alias n' →
      EndAlike (fun r r' => r.category = r'.category ∧ r.principalKind = r'.principalKind) Eq
          (c.compile issue n).result (c.compile issue n').result ∧
        calls (c.compile issue n').journal = calls (c.compile issue n).journal) ∧
    (∀ i : Int, i ≠ 880 → i ≠ 685 → i ≠ 782 → ∀ text children p,
      (Principal.ofNode ⟨.number i, text, children⟩).result = .ok p ↔
        (∃ named, children[0]? = some named ∧ named.name = .ok p.name) ∧ p.kind = none) ∧
    ∀ (i : Int) text children, (c.compile issue ⟨.number i, text, children⟩).result =
        .error (.unknownStatement (.number i)) ∧
      (Rejection.unknownStatement (.number i)).category = .unrecognizedNode := by
  refine ⟨fun n n' h => ?alike, fun i huser hgroup hrole text children p => ?principal, ?root⟩
  case alike =>
    have hcompile : Attempt.Paired (fun j j' => calls j' = calls j) (Rejection.Retold Tag.Alias)
        (Operation.UpToOwner fun _ _ => Eq) (c.compile issue n) (c.compile issue n') :=
      compile_paired (k := .sameCalls c.catalog) h (fun _ _ _ => rfl) fun _ _ _ _ _ _ => rfl
    refine ⟨hcompile.result.imp (fun r r' hr => ?_) fun _ _ => Operation.UpToOwner.eq,
      hcompile.journal⟩
    exact ⟨hr.category_eq, hr.principalKind_eq⟩
  case principal =>
    have hnone : (Tag.number i).principalKind? = none :=
      Tag.principalKind?_number_eq_none fun kind => by cases kind <;> assumption
    rw [Principal.ofNode_result_ok_iff, hnone]
  case root =>
    exact fun i text children => ⟨by rw [compile_result]; rfl, rfl⟩

/-- A grant on the table `t` where the principal and the name of the table are marked alike. -/
def Node.grantMarked (mark : Tag) : Node where
  tag := .word (.statement .grant)
  children :=
    [{ tag := .word .privilegeList
       children := [{ tag := .word .privilegeItem
                      children := [{ tag := .word (.privilege .all) }] }] },
     { tag := .word .principalList
       children := [{ tag := mark, children := [.identifier "r"] }] },
     { tag := .word .object
       children := [{ tag := .word (.target .table)
                      children := [{ tag := mark, text := some "t" }] }] }]

/-- A mark can be put where a mark stands that stands for it. -/
theorem Node.like_grantMarked {mark mark' : Tag} (h : mark.Alias mark') :
    (grantMarked mark).Like .alias (grantMarked mark') := by
  have same : ∀ n : Node, n.Like .alias n := .refl Tag.Alias.same fun _ => rfl
  have hprincipal : (Node.mk mark none [.identifier "r"]).Like .alias
      ⟨mark', none, [.identifier "r"]⟩ := .mk h rfl (.cons (same _) .nil)
  have hname : (Node.mk mark (some "t") []).Like .alias ⟨mark', some "t", []⟩ := .mk h rfl .nil
  refine .mk (.same _) rfl (.cons (same _) (.cons ?_ (.cons ?_ .nil)))
  · exact .mk (.same _) rfl (.cons hprincipal .nil)
  · exact .mk (.same _) rfl (.cons (.mk (.same _) rfl (.cons hname .nil)) .nil)

/-- The number of a role in the place of its word, and the number of the word itself. -/
theorem Compiler.compile_alias_grantMarked :
    (compile ⟨{}, some ownedTable⟩ {} (.grantMarked (.word (.principal .role)))).result =
        .ok (grantOfTable (some "ann")) ∧
      EndAlike (fun r r' => r.category = r'.category ∧ r.principalKind = r'.principalKind) Eq
        (compile ⟨{}, some ownedTable⟩ {} (.grantMarked (.word (.principal .role)))).result
        (compile ⟨{}, some ownedTable⟩ {} (.grantMarked (.number 782))).result ∧
      (Principal.ofNode ⟨.number 26, none, [.identifier "r"]⟩).result = .ok ⟨"r", none⟩ := by
  obtain ⟨halike, hprincipal, -⟩ := compile_alias ⟨{}, some ownedTable⟩ {}
  have hlike := Node.like_grantMarked (.number .role)
  refine ⟨rfl, (halike _ _ hlike).1, ?_⟩
  exact (hprincipal 26 (by decide) (by decide) (by decide) none [.identifier "r"] ⟨"r", none⟩).mpr
    ⟨⟨.identifier "r", rfl, rfl⟩, rfl⟩

end AccessControl
