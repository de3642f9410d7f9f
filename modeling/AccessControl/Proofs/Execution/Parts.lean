import AccessControl.Compiler.Principals
import AccessControl.Compiler.Privileges
import AccessControl.Compiler.Targets
import AccessControl.Execution.Lists
import AccessControl.Proofs.Reading.Renaming

/-!
# Execution — an access is made only where it succeeds

What is run takes parts of a tree from their places, and an access to a place that is not there is a
failure of its own.  The readers of the same parts know no such failure.

**What is run does what the reader tells** (`part_eq`, `name_eq`, `tableName_eq`, `principal_eq`,
`privilege_eq`): it ends with the same value, and where the reader turns the tree down, with what is
raised for the rejection (`Rejection.raised`).  So each access is either made where there is
something, or its failure is caught on the spot.
-/

namespace AccessControl.Execution

/-! ### Children -/

theorem child_eq_ok {n m : Node} {position : Int} (hword : Node.IsWord position)
    (h : n.child? position = some m) : child n position = .ok m := by
  rw [child, Node.childAt_ok_iff.mpr ⟨hword, h⟩]
  rfl

/-- The failure of an access to a promised child is caught, and turns the tree down. -/
theorem part_of_childAt_error {n : Node} {position : Int} {fault : Node.PositionFault}
    (h : n.childAt position = .error fault) :
    part n position =
      .error (Rejection.missingChild n.tag n.children.length position).raised := by
  rw [part, child, h]
  rfl

theorem part_eq (n : Node) {position : Int} (hword : Node.IsWord position) :
    part n position = (n.part position).mapError Rejection.raised := by
  cases h : n.child? position with
  | some m =>
      rw [part, child_eq_ok hword h, Node.part_ok_iff.mpr h]
      rfl
  | none =>
      have hfault : n.childAt position = .error .outOfRange := by
        rw [Node.childAt, if_pos hword, h]
      rw [part_of_childAt_error hfault, Node.part, h]
      rfl

theorem part_zero (n : Node) : part n 0 = (n.part 0).mapError Rejection.raised :=
  part_eq n (by decide)

theorem part_one (n : Node) : part n 1 = (n.part 1).mapError Rejection.raised :=
  part_eq n (by decide)

/-- The second child is taken where there are more than one. -/
theorem child_one {n m : Node} (h : n.children[1]? = some m) : child n 1 = .ok m :=
  child_eq_ok (by decide) ((n.child?_ofNat 1).trans h)

/-! ### Names -/

theorem unquote_eq (cs : List Char) : unquote cs = .ok (String.ofList (Text.stripTicks cs)) := by
  cases cs with
  | nil => rfl
  | cons c rest =>
      cases hlast : rest.getLast? with
      | none =>
          obtain rfl := List.getLast?_eq_none_iff.mp hlast
          simp [unquote, Text.stripTicks]
      | some d =>
          -- a character after the first: both ends are there
          have hrest : rest ≠ [] := fun e => by simp [e] at hlast
          have hlength : 1 < (c :: rest).length := by
            rw [List.length_cons]
            have := List.length_pos_iff.mpr hrest
            omega
          have hend : (c :: rest).getLast? = some d := by
            rw [List.getLast?_cons, hlast]
            rfl
          rw [unquote, if_pos hlength, first, last, List.head?_cons, hend, Text.stripTicks, hlast]
          simp only [Option.some_inj]
          change (if c = Text.tick ∧ d = Text.tick then _ else _) = _
          split <;> rfl

theorem splitQualified_eq (text : String) :
    splitQualified text = .ok (Text.splitQualified text) := by
  rw [splitQualified, funext unquote_eq, mapM_ok]
  rfl

/-- A qualified name has a last part. -/
theorem lastName_splitQualified (text : String) :
    lastName (Text.splitQualified text) = .ok (Text.unqualified text) := by
  rw [lastName, List.getLast?_eq_some_getLast (Text.splitQualified_ne_nil text)]
  rfl

theorem name_eq (n : Node) : name n = n.name.mapError Rejection.raised := by
  cases h : n.text with
  | none => rw [name, Node.name, Node.token, h]; rfl
  | some text => rw [name, Node.name, Node.token, h]; exact unquote_eq text.toList

theorem names_eq (n : Node) : names n = n.names.mapError Rejection.raised := by
  rw [names, Node.names, mapError_mapM, funext name_eq]

/-- The last part of a table name is taken where there are parts. -/
theorem tableName_eq (n : Node) : tableName n = n.tableName.mapError Rejection.raised := by
  rw [tableName, Node.tableName]
  by_cases htag : n.tag = .word .tableName
  · rw [if_pos htag, if_pos htag]
    cases hlast : n.children.getLast? with
    | none =>
        rw [List.getLast?_eq_none_iff.mp hlast]
        rfl
    | some m =>
        have hne : n.children.isEmpty = false := by
          cases hc : n.children with
          | nil => simp [hc] at hlast
          | cons => rfl
        rw [hne, child_eq_ok (by decide) (n.child?_neg_one.trans hlast)]
        exact name_eq m
  · rw [if_neg htag, if_neg htag]
    cases htext : n.text with
    | none => rw [Node.token, htext]; rfl
    | some text =>
        rw [Node.token, htext]
        dsimp only
        rw [splitQualified_eq]
        exact lastName_splitQualified text

/-! ### Principals -/

theorem principal_eq (n : Node) :
    principal n = (Principal.ofNode n).mapError Rejection.raised := by
  rw [principal, Principal.ofNode]
  simp only [part_zero, name_eq, Attempt.liftM_eq, Attempt.mapError_bind,
    Attempt.mapError_ofExcept, Attempt.mapError_note, Attempt.mapError_pure]

theorem principals_eq (n : Node) :
    principals n = (Principal.listOfNode n).mapError Rejection.raised := by
  rw [principals, Principal.listOfNode, Attempt.mapError_mapM, funext principal_eq]

/-- The first principal of the wrong kind is found by going through them. -/
theorem requireKind_eq (required : PrincipalKind) (ps : List Principal) :
    requireKind required ps = (Principal.requireKind required ps).mapError Rejection.raised := by
  induction ps with
  | nil => rfl
  | cons p ps ih =>
      rw [requireKind, Principal.requireKind, List.find?_cons]
      by_cases h : p.kind ≠ some required
      · rw [if_pos h, decide_eq_true h]
        rfl
      · rw [if_neg h, decide_eq_false h]
        exact ih

/-! ### Privileges -/

theorem privilegeOfTag_eq (policy : Policy) (tag : Tag) :
    privilegeOfTag policy tag =
      (PrivilegeRequest.privilegeOfTag policy tag).mapError Rejection.raised := by
  rw [privilegeOfTag, PrivilegeRequest.privilegeOfTag]
  cases tag.privilege? with
  | none => rfl
  | some privilege =>
      dsimp only
      split <;> rfl

/-- A list of columns is taken where there is more than the privilege. -/
theorem columns_eq (n : Node) :
    columns n = (PrivilegeRequest.columnsOfNode n).mapError Rejection.raised := by
  rw [columns, PrivilegeRequest.columnsOfNode]
  cases h : n.children[1]? with
  | none =>
      rw [if_neg (Nat.not_lt.mpr (List.getElem?_eq_none_iff.mp h))]
      rfl
  | some list =>
      rw [if_pos (List.getElem?_eq_some_iff.mp h).1, child_one h]
      change (if _ then names list else _) = _
      dsimp only
      split
      · exact names_eq list
      · rfl

theorem privilege_eq (policy : Policy) (n : Node) :
    privilege policy n = (PrivilegeRequest.ofNode policy n).mapError Rejection.raised := by
  have hscope (privilege : Privilege) (columns : List String) :
      (if columns ≠ [] ∧ privilege.isWholeRow then reject (.columnsNotAllowed privilege)
        else pure ⟨privilege, columns⟩) =
        (PrivilegeRequest.scope privilege columns).mapError Rejection.raised := by
    rw [PrivilegeRequest.scope]
    split <;> rfl
  rw [privilege, PrivilegeRequest.ofNode]
  simp only [part_zero, privilegeOfTag_eq, columns_eq, hscope, mapError_bind]

theorem privileges_eq (policy : Policy) (n : Node) :
    privileges policy n = (PrivilegeRequest.listOfNode policy n).mapError Rejection.raised := by
  rw [privileges, PrivilegeRequest.listOfNode, mapError_mapM, funext (privilege_eq policy)]

end AccessControl.Execution
