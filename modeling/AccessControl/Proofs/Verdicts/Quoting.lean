import AccessControl.Proofs.Policy.Canonical
import AccessControl.Proofs.Reading.SideBySide
import AccessControl.Proofs.Targets.TableNames

/-!
# Verdicts — a name between ticks is the same name

A plain name can be written as it is or between ticks.  Readers take a name off a text in two ways:
without its ticks, and as the last part of a qualified name.  Neither tells a plain name from the
same name between ticks (`Text.Quoting.sameName`), so the two are alike wherever they stand in a
tree.

**Putting plain texts of a tree between ticks, at any of its nodes, changes nothing**
(`Compiler.compile_quoting`): neither the end of the compilation nor any entry of its journal.  A
text with a dot is not plain: between ticks the dot no longer divides the name.
-/

namespace AccessControl

/-! ### Texts -/

namespace Text

/-- The texts are the same, or the second is the first between ticks.  A text that is put between
ticks has neither ticks nor dots of its own. -/
inductive Quoting : Option String → Option String → Prop where
  | same (text : Option String) : Quoting text text
  | quoted {text : String} : tick ∉ text.toList → '.' ∉ text.toList →
      Quoting (some text) (some (quote text))

/-- A plain name and the same name between ticks are read as the same name, qualified or not. -/
theorem Quoting.sameName {x x' : Option String} (h : Quoting x x') : SameName x x' := by
  cases h with
  | same => exact .of_eq rfl
  | @quoted text htick hdot =>
      have hname : unquote text = unquote (quote text) := by
        rw [unquote_quote, unquote_of_tick_not_mem htick]
      refine ⟨congrArg some hname, congrArg some ?_⟩
      rw [unqualified_of_dot_not_mem hdot, unqualified_of_dot_not_mem (dot_not_mem_quote hdot),
        hname]

end Text

/-! ### Trees -/

/-- Plain texts that are perhaps put between ticks, under the same tags. -/
def Likeness.quoting : Likeness where
  tag := Eq
  text := Text.Quoting
  sameUse := @Tag.SameUse.of_eq
  sameName := @Text.Quoting.sameName

/-- A catalog beside itself, with the same journal. -/
def Catalog.Pairing.twin (catalog : Option Catalog) : Catalog.Pairing :=
  .ofEq catalog catalog Eq ⟨rfl, fun h h' => h ▸ h' ▸ rfl⟩ (fun _ _ => rfl)
    fun _ _ => ⟨rfl, .refl (fun _ => rfl) (fun _ => rfl) _⟩

/-- **Putting plain texts of a tree between ticks, at any of its nodes, changes nothing.**  With any
policy, any catalog and in any circumstances both trees come to the same operation or are turned
down for the same cause, with the same remarks and the same questions to the catalog on the way. -/
theorem Compiler.compile_quoting (c : Compiler) (issue : Issue) {n n' : Node}
    (h : n.Like .quoting n') : c.compile issue n = c.compile issue n' := by
  have hpaired : Attempt.Paired Eq (Rejection.Retold Eq) (Operation.UpToOwner fun _ _ => Eq)
      (c.compile issue n) (c.compile issue n') := by
    refine compile_paired (k := .twin c.catalog) h ?compiling ?refused
    case compiling =>
      rintro t _ rfl
      rfl
    case refused =>
      rintro t _ r r' rfl hr
      rw [hr.eq_of fun _ _ => id]
      rfl
  have hresult : (c.compile issue n).result = (c.compile issue n').result :=
    (hpaired.result.imp (fun _ _ => Rejection.Retold.eq_of fun _ _ => id)
      fun _ _ => Operation.UpToOwner.eq).eq
  exact Attempt.ext hresult hpaired.journal

/-- A grant of reading two columns of a table, one of them without a name, where each name is
written in some way. -/
def Node.grantWritten (write : String → String) : Node where
  tag := .word (.statement .grant)
  children :=
    [{ tag := .word .privilegeList
       children := [{ tag := .word .privilegeItem
                      children := [{ tag := .word (.privilege .select) },
                        { tag := .word .columnList
                          children := [.identifier (write "c"), .identifier (write "")] }] }] },
     { tag := .word .principalList
       children := [{ tag := .word (.principal .role), children := [.identifier (write "r")] }] },
     { tag := .word .object
       children := [{ tag := .word (.target .table), children := [.identifier (write "t")] }] }]

/-- A tree of plain names and the same tree with its names between ticks. -/
theorem Node.like_grantWritten : (grantWritten id).Like .quoting (grantWritten Text.quote) := by
  have same : ∀ n : Node, n.Like .quoting n := .refl (fun _ => rfl) Text.Quoting.same
  have hname (text : String) (htick : Text.tick ∉ text.toList) (hdot : '.' ∉ text.toList) :
      (identifier text).Like .quoting (identifier (Text.quote text)) :=
    .mk rfl (.quoted htick hdot) .nil
  have hparent (tag : Tag) {children children' : List Node}
      (h : List.Forall₂ (Like .quoting) children children') :
      Like .quoting ⟨tag, none, children⟩ ⟨tag, none, children'⟩ := .mk rfl (.same none) h
  have hc := hname "c" (by decide) (by decide)
  have hempty := hname "" (by decide) (by decide)
  have hr := hname "r" (by decide) (by decide)
  have ht := hname "t" (by decide) (by decide)
  have hcolumns := hparent (.word .columnList) (.cons hc (.cons hempty .nil))
  have hprivilege := hparent (.word .privilegeItem)
    (.cons (same { tag := .word (.privilege .select) }) (.cons hcolumns .nil))
  have hprincipal := hparent (.word (.principal .role)) (.cons hr .nil)
  have htarget := hparent (.word (.target .table)) (.cons ht .nil)
  exact hparent _ (.cons (hparent _ (.cons hprivilege .nil))
    (.cons (hparent _ (.cons hprincipal .nil)) (.cons (hparent _ (.cons htarget .nil)) .nil)))

/-- The names of the role, of the columns and of the table, which the catalog is asked about. -/
theorem Compiler.compile_quoting_grantWritten :
    (Node.grantWritten id).Like .quoting (.grantWritten Text.quote) ∧
      compile ⟨{}, some ownedTable⟩ {} (.grantWritten id) =
        compile ⟨{}, some ownedTable⟩ {} (.grantWritten Text.quote) ∧
      (compile ⟨{}, some ownedTable⟩ {} (.grantWritten Text.quote)).result =
        .ok (.grant ⟨[⟨.select, ["c", ""]⟩], [⟨"r", some .role⟩],
          ⟨"t", .table, some "ann", [], none⟩, none, .user, false⟩) :=
  ⟨Node.like_grantWritten, compile_quoting ⟨{}, some ownedTable⟩ {} Node.like_grantWritten, rfl⟩

/-- Between ticks a dot no longer divides a name. -/
example : Text.unqualified "a.b" = "b" ∧ Text.unqualified (Text.quote "a.b") = "a.b" := by
  decide +kernel

end AccessControl
