import AccessControl.Catalog.Entries
import AccessControl.Proofs.Execution.Statements
import AccessControl.Proofs.Verdicts.Blame
import AccessControl.Request
import Mathlib.Data.Nat.Digits.Lemmas

/-!
# Verdicts — how a compilation ends

A request for the verdict on a statement is put for any tree, with any catalog.  The builders of
operations can be asked directly, and then a rejection is the end of the request
(`Compiler.direct`); the verdict holds the same operation or the same rejection
(`Compiler.Settles`).

**A request for a verdict is answered with one, unless the cause of a rejection cannot be put into
words** (`Compiler.answer_compile`): the message has a number with too many digits in it, such as
the one of a tag.  No access to a missing part of the tree and no failure of the catalog ends the
request, and none ends a builder.  A number as long as that is enough to leave a statement without a
verdict (`Compiler.answer_compile_longTag`).
-/

namespace AccessControl

/-! ### Verdicts -/

/-- The cause of a rejection. -/
def Verdict.rejection? : Verdict → Option Rejection
  | .accepted _ => none
  | .rejected r => some r

/-- Nothing was found against the statement. -/
def Verdict.isOk (v : Verdict) : Bool :=
  v.rejection?.isNone

theorem Verdict.operation?_eq_some_iff {v : Verdict} {op : Operation} :
    v.operation? = some op ↔ v = .accepted op := by
  cases v <;> simp [operation?]

theorem Verdict.rejection?_eq_some_iff {v : Verdict} {r : Rejection} :
    v.rejection? = some r ↔ v = .rejected r := by
  cases v <;> simp [rejection?]

/-! ### Numbers in messages -/

/-- A number can be written when it has at most so many digits. -/
theorem Text.isWritable_iff {n : Int} :
    IsWritable n ↔ (Nat.digits 10 n.natAbs).length ≤ maxDigits := by
  have hdigits (k : ℕ) : n.natAbs < Nat.pow 10 k ↔ (Nat.digits 10 n.natAbs).length ≤ k :=
    (Nat.digits_length_le_iff (by decide) n.natAbs).symm
  delta IsWritable digitBound
  exact hdigits maxDigits

/-- The numbers that a message tells of the node can be written: the one of its tag, if there is
one, and how many children it has. -/
def Node.IsWritable (m : Node) : Prop :=
  (∀ i ∈ m.tag.numbers, Text.IsWritable i) ∧ Text.IsWritable m.children.length

/-- The tag of the node is a number with too many digits, or the node has so many children that
their number has. -/
def Node.HasLongNumber (m : Node) : Prop :=
  (∃ i, m.tag = .number i ∧ Text.maxDigits < (Nat.digits 10 i.natAbs).length) ∨
    Text.maxDigits < (Nat.digits 10 m.children.length).length

theorem Node.not_isWritable_iff {m : Node} : ¬ m.IsWritable ↔ m.HasLongNumber := by
  have htag : (∀ i ∈ m.tag.numbers, Text.IsWritable i) ↔
      ∀ i, m.tag = .number i → Text.IsWritable i := by
    cases m.tag <;> simp [Tag.numbers]
  rw [IsWritable, htag, HasLongNumber, not_and_or, not_forall, Text.isWritable_iff, not_le]
  simp only [Classical.not_imp, Text.isWritable_iff, not_le]
  rfl

/-- A number in a message is told of a node of the tree. -/
theorem Rejection.Blames.isWritable {policy : Policy} {n : Node} {r : Rejection}
    (h : r.Blames policy n) (hn : ∀ m : Node, m.Within n → m.IsWritable) : r.IsWritable := by
  obtain ⟨m, hm, hflaw⟩ := h
  obtain ⟨htag, hcount⟩ := hn m hm
  cases r with
  | unknownPrivilege | unknownStatement | unknownTarget | unexpectedNode | missingText =>
      obtain ⟨rfl, -⟩ := hflaw
      exact htag
  | missingChild tag count position =>
      obtain ⟨rfl, rfl, hposition, -⟩ := hflaw
      have hnext : Text.IsWritable (position + 1) := by
        rcases hposition with rfl | rfl <;> decide +kernel
      intro i hi
      rcases List.mem_append.mp hi with hi | hi
      · exact htag i hi
      · rcases List.mem_pair.mp hi with rfl | rfl
        · exact hcount
        · exact hnext
  | notOneRole tags =>
      obtain ⟨rfl, -⟩ := hflaw
      intro i hi
      obtain ⟨tag, htag, hi⟩ := List.mem_flatMap.mp hi
      obtain ⟨child, hchild, rfl⟩ := List.mem_map.mp htag
      exact (hn child (hm.trans_child hchild)).1 i hi
  | _ => exact fun i hi => nomatch hi

/-! ### Builders -/

/-- The request for the operation of a tree that is read as a statement of some kind.  A role that
is taken on is read off the tree first; a question for the role taken on reads nothing off it. -/
def StatementKind.request (issue : Issue) (n : Node) : StatementKind → Except Failure Request
  | .setRole => (Execution.part n 0 >>= Execution.name).map .setRole
  | .showCurrentRole => .ok (.showCurrentRole issue.resultFile)
  | kind => .ok (.build kind issue n)

namespace Compiler

variable {c : Compiler} {issue : Issue} {n : Node}

/-- What the builder of a kind answers when it is asked directly. -/
def direct (c : Compiler) (issue : Issue) (n : Node) (kind : StatementKind) :
    Except Failure Value := do
  let request ← kind.request issue n
  (c.answer request).result

/-- Every builder can be asked directly for the operation of the tree. -/
theorem direct_eq_build (c : Compiler) (issue : Issue) (n : Node) (kind : StatementKind) :
    c.direct issue n kind = (Execution.build c issue n kind).result.map .operation := by
  have build_request : (c.answer (.build kind issue n)).result =
      (Execution.build c issue n kind).result.map .operation := by
    rw [answer, Attempt.result_map]
    rfl
  cases kind with
  | setRole =>
      rw [direct, StatementKind.request, Execution.build, Attempt.result_map,
        Attempt.result_ofExcept]
      cases Execution.part n 0 >>= Execution.name <;> rfl
  | showCurrentRole => rfl
  | _ => exact build_request

theorem direct_ok_iff {kind : StatementKind} {op : Operation} :
    c.direct issue n kind = .ok (.operation op) ↔ (c.build issue n kind).result = .ok op := by
  rw [direct_eq_build, Execution.build_eq, Attempt.result_mapError]
  cases (c.build issue n kind).result <;> simp [Except.map, Except.mapError]

/-- A builder fails with what is raised for a rejection, and with nothing else. -/
theorem direct_error_iff {kind : StatementKind} {failure : Failure} :
    c.direct issue n kind = .error failure ↔
      ∃ r, (c.build issue n kind).result = .error r ∧ r.raised = failure := by
  rw [direct_eq_build, Execution.build_eq, map_error_iff, Attempt.mapError_result_error_iff]

theorem direct_rejection_iff {kind : StatementKind} {r : Rejection} :
    c.direct issue n kind = .error (.rejection r) ↔
      (c.build issue n kind).result = .error r ∧ r.IsWritable := by
  rw [direct_error_iff]
  refine ⟨?_, fun ⟨h, hr⟩ => ⟨r, h, if_pos hr⟩⟩
  rintro ⟨r', h, hraised⟩
  rw [Rejection.raised] at hraised
  split at hraised
  · rename_i hr
    cases hraised
    exact ⟨h, hr⟩
  · cases hraised

/-- **A statement is turned down when its root is no statement, or the reader for the kind of its
root turns it down.** -/
theorem compile_result_error_iff {r : Rejection} :
    (c.compile issue n).result = .error r ↔
      (∃ kind, n.tag = .word (.statement kind) ∧ (c.build issue n kind).result = .error r) ∨
        (∀ kind, n.tag ≠ .word (.statement kind)) ∧ r = .unknownStatement n.tag := by
  simp only [compile_result, ← Tag.statement?_eq_some_iff, ne_eq]
  cases n.tag.statement? with
  | none => simp [eq_comm]
  | some kind => simp

theorem compile_blames :
    FailsOnly (Rejection.Blames c.policy n) (c.compile issue n).result := by
  rw [compile_result]
  cases h : n.tag.statement? with
  | none => exact .error (.of_root ⟨rfl, h⟩)
  | some kind => exact build_blames

/-! ### Verdicts on statements -/

/-- The verdict is the one on the statement.  It holds either an operation or a rejection, and
tells which.  It holds what the builder for the root answers, and a root without a builder is turned
down.  An accepted operation is of the kind of the root, and a rejection tells of a flaw of the
tree. -/
structure Settles (c : Compiler) (issue : Issue) (n : Node) (v : Verdict) : Prop where
  exclusive : v.isOk = true ∧ v.operation?.isSome ∧ v.rejection? = none ∨
    v.isOk = false ∧ v.operation? = none ∧ v.rejection?.isSome
  accepts : ∀ kind op, n.tag = .word (.statement kind) →
    (v.operation? = some op ↔ c.direct issue n kind = .ok (.operation op))
  kind : ∀ op, v.operation? = some op → n.tag = .word (.statement op.statementKind)
  rejects : ∀ kind r, n.tag = .word (.statement kind) →
    (v.rejection? = some r ↔ c.direct issue n kind = .error (.rejection r))
  unrecognized : (∀ kind, n.tag ≠ .word (.statement kind)) →
    ∃ r, v.rejection? = some r ∧ r.category = .unrecognizedNode ∧ r.principalKind = none ∧
      r.message = "Unrecognized statement: " ++ n.tag.text
  blames : ∀ r, v.rejection? = some r → r.Blames c.policy n

theorem verdict_exclusive (v : Verdict) :
    v.isOk = true ∧ v.operation?.isSome ∧ v.rejection? = none ∨
      v.isOk = false ∧ v.operation? = none ∧ v.rejection?.isSome := by
  cases v with
  | accepted op => exact .inl ⟨rfl, rfl, rfl⟩
  | rejected r => exact .inr ⟨rfl, rfl, rfl⟩

/-- The verdict of a compilation is the one on the statement. -/
theorem settles_of_compile {v : Verdict} (h : (Execution.compile c issue n).result = .ok v) :
    c.Settles issue n v := by
  have haccepts {op : Operation} :
      v.operation? = some op ↔ (c.compile issue n).result = .ok op := by
    rw [Verdict.operation?_eq_some_iff, ← Execution.compile_accepted_iff, h, Except.ok.injEq]
  have hrejects {r : Rejection} : v.rejection? = some r ↔
      (c.compile issue n).result = .error r ∧ r.IsWritable := by
    rw [Verdict.rejection?_eq_some_iff, ← Execution.compile_rejected_iff, h, Except.ok.injEq]
  refine ⟨verdict_exclusive v, fun kind op hkind => ?accepts, fun op hop => ?kind,
    fun kind r hkind => ?rejects, fun hroot => ?unrecognized, fun r hr => ?blames⟩
  case accepts =>
    rw [haccepts, compile_result_ok_iff, direct_ok_iff]
    refine ⟨?_, fun hbuild => ⟨kind, hkind, hbuild⟩⟩
    rintro ⟨kind', htag, hbuild⟩
    cases hkind.symm.trans htag
    exact hbuild
  case kind =>
    obtain ⟨kind, htag, hbuild⟩ := compile_result_ok_iff.mp (haccepts.mp hop)
    rw [statementKind_of_build hbuild]
    exact htag
  case rejects =>
    rw [hrejects, compile_result_error_iff, direct_rejection_iff]
    refine and_congr_left fun _ => ⟨?_, fun hbuild => .inl ⟨kind, hkind, hbuild⟩⟩
    rintro (⟨kind', htag, hbuild⟩ | ⟨hroot, -⟩)
    · cases hkind.symm.trans htag
      exact hbuild
    · exact absurd hkind (hroot kind)
  case unrecognized =>
    cases v with
    | accepted op =>
        obtain ⟨kind, htag, -⟩ := compile_result_ok_iff.mp (haccepts.mp rfl)
        exact absurd htag (hroot kind)
    | rejected r =>
        rcases compile_result_error_iff.mp (hrejects.mp rfl).1 with ⟨kind, htag, -⟩ | ⟨-, rfl⟩
        · exact absurd htag (hroot kind)
        · exact ⟨_, rfl, rfl, rfl, rfl⟩
  case blames => exact compile_blames r (hrejects.mp hr).1

/-- The cause of a rejection cannot be put into words: the builder for the root fails at a number
that is too long, or the root is such a number itself. -/
def IsBeyondWords (c : Compiler) (issue : Issue) (n : Node) : Prop :=
  (∃ kind, n.tag = .word (.statement kind) ∧ c.direct issue n kind = .error .longNumber) ∨
    ∃ i, n.tag = .number i ∧ ¬ Text.IsWritable i

theorem isBeyondWords_iff : c.IsBeyondWords issue n ↔
    ∃ r, (c.compile issue n).result = .error r ∧ ¬ r.IsWritable := by
  refine ⟨?_, ?_⟩
  · rintro (⟨kind, hkind, h⟩ | ⟨i, htag, hi⟩)
    · obtain ⟨r, hr, hraised⟩ := direct_error_iff.mp h
      refine ⟨r, compile_result_error_iff.mpr (.inl ⟨kind, hkind, hr⟩), fun hw => ?_⟩
      rw [Rejection.raised, if_pos hw] at hraised
      cases hraised
    · refine ⟨.unknownStatement n.tag, compile_result_error_iff.mpr (.inr ⟨?_, rfl⟩),
        fun hw => hi ?_⟩
      · intro kind hkind
        cases hkind.symm.trans htag
      · exact hw i (by rw [Rejection.numbers, htag]; exact List.mem_singleton_self i)
  · rintro ⟨r, hr, hw⟩
    rcases compile_result_error_iff.mp hr with ⟨kind, hkind, hbuild⟩ | ⟨-, rfl⟩
    · exact .inl ⟨kind, hkind, direct_error_iff.mpr ⟨r, hbuild, if_neg hw⟩⟩
    · cases htag : n.tag with
      | word =>
          refine absurd (fun i hi => ?_) hw
          rw [htag] at hi
          exact absurd hi List.not_mem_nil
      | number i =>
          refine .inr ⟨i, htag, fun hi => hw fun j hj => ?_⟩
          rw [htag] at hj
          exact List.mem_singleton.mp hj ▸ hi

/-- What cannot be put into words is a number of a node in the tree. -/
theorem exists_long_of_isBeyondWords (h : c.IsBeyondWords issue n) :
    ∃ m : Node, m.Within n ∧ m.HasLongNumber := by
  obtain ⟨r, hr, hw⟩ := isBeyondWords_iff.mp h
  by_contra hnone
  refine hw ((compile_blames r hr).isWritable fun m hm => ?_)
  by_contra hlong
  exact hnone ⟨m, hm, Node.not_isWritable_iff.mp hlong⟩

/-- **A request for a verdict is answered with the one on the statement, unless the cause of a
rejection cannot be put into words**, and then it fails at the number that is too long.  Nothing
else ends it without a verdict, and nothing but a rejection or such a number ends a builder that is
asked directly.  The number is that of a tag in the tree, or how many children a node of the tree
has. -/
theorem answer_compile (c : Compiler) (issue : Issue) (n : Node) :
    (¬ c.IsBeyondWords issue n →
      ∃ v, (c.answer (.compile issue n)).result = .ok (.verdict v) ∧ c.Settles issue n v) ∧
    (∀ failure, (c.answer (.compile issue n)).result = .error failure ↔
      failure = .longNumber ∧ c.IsBeyondWords issue n) ∧
    (∀ kind failure, c.direct issue n kind = .error failure →
      failure = .longNumber ∨ ∃ r, failure = .rejection r) ∧
    (c.IsBeyondWords issue n → ∃ m : Node, m.Within n ∧ m.HasLongNumber) := by
  have hresult : (c.answer (.compile issue n)).result =
      (Execution.compile c issue n).result.map .verdict := by
    rw [answer, Attempt.result_map]
    rfl
  have herror {failure : Failure} : (Execution.compile c issue n).result = .error failure ↔
      failure = .longNumber ∧ c.IsBeyondWords issue n := by
    rw [Execution.compile_error_iff, isBeyondWords_iff]
  refine ⟨fun hwords => ?_, fun failure => ?_, fun kind failure h => ?_,
    exists_long_of_isBeyondWords⟩
  · have hwritable : ∀ r, (c.compile issue n).result = .error r → r.IsWritable := by
      simpa only [isBeyondWords_iff, not_exists, not_and, not_not] using hwords
    have hverdict : (Execution.compile c issue n).result =
        .ok (.ofResult (c.compile issue n).result) := by
      rw [Execution.compile_of_isWritable hwritable]
    exact ⟨_, by rw [hresult, hverdict]; rfl, settles_of_compile hverdict⟩
  · rw [hresult, map_error_iff, herror]
  · obtain ⟨r, -, rfl⟩ := direct_error_iff.mp h
    rw [Rejection.raised]
    split
    · exact .inr ⟨r, rfl⟩
    · exact .inl rfl

/-- A grant without children. -/
def emptyGrant : Node where
  tag := .word (.statement .grant)

/-- A root whose number has a digit more than can be written. -/
def longTag : Node where
  tag := .number Text.digitBound

theorem answer_compile_emptyGrant :
    (∃ v, (answer ⟨{}, some (Catalog.broken "down")⟩ (.compile {} emptyGrant)).result =
        .ok (.verdict v) ∧ Settles ⟨{}, some (Catalog.broken "down")⟩ {} emptyGrant v) ∧
      ∃ m : Node, m.Within longTag ∧ m.HasLongNumber := by
  have hwords : ¬ IsBeyondWords ⟨{}, some (Catalog.broken "down")⟩ {} emptyGrant := by
    rw [isBeyondWords_iff]
    rintro ⟨r, hr, hw⟩
    cases hr
    exact hw (by decide +kernel)
  have hlong : IsBeyondWords {} {} longTag := .inr ⟨_, rfl, Text.not_isWritable_digitBound⟩
  exact ⟨(answer_compile ⟨{}, some (Catalog.broken "down")⟩ {} emptyGrant).1 hwords,
    (answer_compile {} {} longTag).2.2.2 hlong⟩

/-- **A number that is too long leaves a statement without a verdict.**  In the same way a request
for a child fails before it turns the tree down, where the number of the position is too long. -/
theorem answer_compile_longTag :
    (answer {} (.compile {} longTag)).result = .error .longNumber ∧
      (¬ ∃ v, (answer {} (.compile {} longTag)).result = .ok (.verdict v)) ∧
      Execution.part emptyGrant (Text.digitBound - 1) = .error .longNumber := by
  have hcompile : (Execution.compile {} {} longTag).result = .error .longNumber := by
    refine Execution.compile_error_iff.mpr ⟨rfl, .unknownStatement longTag.tag, rfl, fun h => ?_⟩
    exact Text.not_isWritable_digitBound (h _ (List.mem_singleton_self _))
  have hanswer : (answer {} (.compile {} longTag)).result = .error .longNumber := by
    rw [answer, Attempt.result_map, hcompile]
    rfl
  refine ⟨hanswer, ?_, ?_⟩
  · rintro ⟨v, hv⟩
    exact nomatch hanswer.symm.trans hv
  · have hposition : ¬ Node.IsWord (Text.digitBound - 1) := by decide +kernel
    have hnumber : ¬ (Rejection.missingChild emptyGrant.tag emptyGrant.children.length
        (Text.digitBound - 1)).IsWritable := by
      refine fun h => Text.not_isWritable_digitBound ?_
      rw [← Int.sub_add_cancel (Text.digitBound : ℤ) 1]
      exact h _ (.tail _ (.head _))
    rw [Execution.part_of_childAt_error (if_neg hposition), Rejection.raised, if_neg hnumber]

end Compiler

end AccessControl
