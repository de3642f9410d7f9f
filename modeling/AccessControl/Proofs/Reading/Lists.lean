import AccessControl.Proofs.Reading.Journals
import AccessControl.Proofs.Reading.Parts

/-!
# Reading — lists are read entry by entry

The privileges and the principals of a statement stand in lists.  `Compositional` says what a reader
makes of the entries of a list, without looking at how an entry is read.  Each entry has the value
that it has alone, whatever its neighbours are, so entries that are moved, inserted or repeated take
their values along.  A list that is not read fails with the error of the first entry that is not,
and what is noted ends there.

**Lists are read entry by entry** (`Node.compositional_listOfNode`), and so is every list whose
entries are read one after the other (`compositional_mapM`).
-/

namespace AccessControl

variable {α : Type}

/-- A list is read entry by entry. -/
structure Compositional (read : Node → Attempt Rejection (List α)) : Prop where
  /-- There is one value for each entry, the one that the entry has alone. -/
  entries {list : Node} {as : List α} :
    (read list).result = .ok as ↔
      List.Forall₂ (fun m a => ∀ alone : Node, alone.children = [m] →
        (read alone).result = .ok [a]) list.children as
  /-- The error is that of the first entry that is not read. -/
  firstFault {list : Node} {r : Rejection} :
    (read list).result = .error r ↔
      ∃ (before alone after : Node) (m : Node) (as : List α),
        list.children = before.children ++ m :: after.children ∧ alone.children = [m] ∧
          (read before).result = .ok as ∧ (read alone).result = .error r
  /-- Two lists that are both read have the values of both. -/
  append {list before after : Node} {as bs : List α}
    (h : list.children = before.children ++ after.children)
    (has : (read before).result = .ok as) (hbs : (read after).result = .ok bs) :
    (read list).result = .ok (as ++ bs)
  /-- A list that is not read is not read with others behind it. -/
  failsBefore {list before after : Node} {r : Rejection}
    (h : list.children = before.children ++ after.children)
    (hr : (read before).result = .error r) : (read list).result = .error r
  /-- A list that is not read is not read behind one that is. -/
  failsAfter {list before after : Node} {as : List α} {r : Rejection}
    (h : list.children = before.children ++ after.children)
    (has : (read before).result = .ok as) (hr : (read after).result = .error r) :
    (read list).result = .error r
  /-- What is noted of the first list is noted, and what is noted of the second one if the first is
  read. -/
  journal {list before after : Node} (h : list.children = before.children ++ after.children) :
    (read list).journal = (read before).journal ++
      match (read before).result with
      | .ok _ => (read after).journal
      | .error _ => []
  /-- Entries that are picked, in any order and any number of times, have the values that are. -/
  pick {list picked : Node} {as : List α} (places : List ℕ)
    (h : picked.children = places.filterMap fun i => list.children[i]?)
    (has : (read list).result = .ok as) :
    (read picked).result = .ok (places.filterMap fun i => as[i]?)
  /-- Entries that are inserted have their values inserted. -/
  insert {list inserted longer : Node} {as bs : List α} (i : ℕ)
    (h : longer.children = list.children.take i ++ inserted.children ++ list.children.drop i)
    (has : (read list).result = .ok as) (hbs : (read inserted).result = .ok bs) :
    (read longer).result = .ok (as.take i ++ bs ++ as.drop i)

/-! ### Rows -/

namespace Attempt

variable {ε β : Type} {f : α → Attempt ε β} {xs ys : List α}

theorem mapM_append_of_ok {bs : List β} (h : (xs.mapM f).result = .ok bs) :
    (xs ++ ys).mapM f = ((bs ++ ·) <$> ys.mapM f).after (xs.mapM f).journal := by
  rw [List.mapM_append, bind_of_ok h, bind_pure_comp]

theorem mapM_append_of_error {e : ε} (h : (xs.mapM f).result = .error e) :
    (xs ++ ys).mapM f = ⟨.error e, (xs.mapM f).journal⟩ := by
  rw [List.mapM_append, bind_of_error h]

/-- A row of results without a history has none. -/
theorem ofExcept_mapM (g : α → Except ε β) (xs : List α) :
    ofExcept (xs.mapM g) = xs.mapM fun x => ofExcept (g x) := by
  refine Attempt.ext ?_ ?_
  · rw [result_mapM]
    rfl
  · rw [journal_mapM]
    exact (List.flatMap_eq_nil_iff.mpr fun _ _ => rfl).symm

/-- A row of attempts fails with the error of the first that fails. -/
theorem mapM_result_error_iff {e : ε} :
    (xs.mapM f).result = .error e ↔
      ∃ before x after bs, xs = before ++ x :: after ∧ (before.mapM f).result = .ok bs ∧
        (f x).result = .error e := by
  simp only [result_mapM, mapM_error_iff]

theorem mapM_singleton_ok_iff {x : α} {b : β} :
    ([x].mapM f).result = .ok [b] ↔ (f x).result = .ok b := by
  rw [mapM_result_ok_iff, List.forall₂_cons, and_iff_left .nil]

theorem mapM_singleton_error_iff {x : α} {e : ε} :
    ([x].mapM f).result = .error e ↔ (f x).result = .error e := by
  rw [List.mapM_cons, result_bind]
  cases (f x).result with
  | ok b => exact ⟨nofun, nofun⟩
  | error e' =>
      refine ⟨?_, ?_⟩
      · rintro ⟨⟩
        rfl
      · rintro ⟨⟩
        rfl

end Attempt

/-! ### Lists -/

open Attempt (mapM_append_of_ok mapM_append_of_error mapM_result_ok_iff mapM_result_error_iff
  mapM_singleton_ok_iff mapM_singleton_error_iff)

/-- **A list whose entries are read one after the other is read entry by entry.** -/
theorem compositional_mapM (f : Node → Attempt Rejection α) :
    Compositional fun list => list.children.mapM f where
  entries {list as} := by
    rw [mapM_result_ok_iff]
    refine ⟨fun h => h.imp ?_, fun h => h.imp ?_⟩
    · intro m a hm alone halone
      rw [halone]
      exact mapM_singleton_ok_iff.mpr hm
    · intro m a hm
      exact mapM_singleton_ok_iff.mp (hm { list with children := [m] } rfl)
  firstFault {list r} := by
    rw [mapM_result_error_iff]
    refine ⟨?_, ?_⟩
    · rintro ⟨before, m, after, as, hlist, has, hr⟩
      exact ⟨{ list with children := before }, { list with children := [m] },
        { list with children := after }, m, as, hlist, rfl, has,
        mapM_singleton_error_iff.mpr hr⟩
    · rintro ⟨before, alone, after, m, as, hlist, halone, has, hr⟩
      rw [halone, mapM_singleton_error_iff] at hr
      exact ⟨before.children, m, after.children, as, hlist, has, hr⟩
  append h has hbs := by
    rw [h, mapM_append_of_ok has, Attempt.result_after, Attempt.result_map, hbs]
    rfl
  failsBefore h hr := by
    rw [h, mapM_append_of_error hr]
  failsAfter h has hr := by
    rw [h, mapM_append_of_ok has, Attempt.result_after, Attempt.result_map, hr]
    rfl
  journal {list before after} h := by
    rw [h]
    cases hbefore : (before.children.mapM f).result with
    | ok as => rw [mapM_append_of_ok hbefore, Attempt.journal_after, Attempt.journal_map]
    | error r => rw [mapM_append_of_error hbefore, List.append_nil]
  pick places h has := by
    rw [mapM_result_ok_iff] at has ⊢
    rw [h]
    refine List.rel_filterMap ?_ (List.forall₂_same.mpr fun _ _ => rfl)
    rintro i _ rfl
    exact forall₂_getElem? has i
  insert i h has hbs := by
    rw [mapM_result_ok_iff] at has hbs ⊢
    rw [h]
    exact List.rel_append (List.rel_append (List.forall₂_take i has) hbs) (List.forall₂_drop i has)

namespace Node

/-- **The privileges and the principals of a statement are read entry by entry**, whatever the
policy. -/
theorem compositional_listOfNode (policy : Policy) :
    Compositional (fun list => Attempt.ofExcept (PrivilegeRequest.listOfNode policy list)) ∧
      Compositional Principal.listOfNode := by
  refine ⟨?_, compositional_mapM Principal.ofNode⟩
  have h := compositional_mapM fun m => Attempt.ofExcept (PrivilegeRequest.ofNode policy m)
  simp only [← Attempt.ofExcept_mapM] at h
  exact h

/-- A privilege that is limited to a column, and one that cannot be. -/
def limitedAndWhole : Node where
  tag := .word .privilegeList
  children :=
    [{ tag := .word .privilegeItem
       children := [{ tag := .word (.privilege .select) },
         { tag := .word .columnList, children := [.identifier "a"] }] },
     { tag := .word .privilegeItem
       children := [{ tag := .word (.privilege .insert) }] }]

/-- The same privileges in another order, one of them twice. -/
def wholeTwice : Node :=
  { limitedAndWhole with
    children := [1, 0, 1].filterMap fun i => limitedAndWhole.children[i]? }

/-- A list of a user and of a group that has no name. -/
def userAndNameless : Node where
  tag := .word .principalList
  children :=
    [{ tag := .word (.principal .user), children := [.identifier "u"] },
     { tag := .word (.principal .group) }]

/-- The same list twice. -/
def namelessTwice : Node :=
  { userAndNameless with children := userAndNameless.children ++ userAndNameless.children }

/-- The privileges keep their columns to themselves when they change places.  Behind the group that
has no name the list is not read any further. -/
theorem compositional_listOfNode_twice :
    PrivilegeRequest.listOfNode {} limitedAndWhole = .ok [⟨.select, ["a"]⟩, ⟨.insert, []⟩] ∧
      PrivilegeRequest.listOfNode {} wholeTwice =
        .ok [⟨.insert, []⟩, ⟨.select, ["a"]⟩, ⟨.insert, []⟩] ∧
      (Principal.listOfNode namelessTwice).journal =
        [.record (.principal ⟨"u", some .user⟩)] := by
  obtain ⟨hprivileges, hprincipals⟩ := compositional_listOfNode {}
  have hread : (Attempt.ofExcept (PrivilegeRequest.listOfNode {} limitedAndWhole)).result =
      .ok [⟨.select, ["a"]⟩, ⟨.insert, []⟩] := rfl
  have hpicked : wholeTwice.children =
      [1, 0, 1].filterMap fun i => limitedAndWhole.children[i]? := rfl
  have hrepeated : namelessTwice.children =
      userAndNameless.children ++ userAndNameless.children := rfl
  have hmoved := hprivileges.pick [1, 0, 1] hpicked hread
  have hnoted := hprincipals.journal hrepeated
  exact ⟨hread, hmoved, hnoted⟩

end Node

end AccessControl
