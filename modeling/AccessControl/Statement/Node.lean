import AccessControl.Statement.Tag

/-!
# Statements — trees

A statement arrives as a tree.  A node has a tag, possibly the text of a token, and children in
order.  A tree can be of any depth: a walk through it has all the room that it needs (`preorder`),
and what becomes of one that runs out of room is not told here.

**A partition is found wherever it hides** (`hasPartition_iff`): a tree has a partition exactly
when one of its nodes is tagged as one.

**A child is found at a position exactly when it is there and the position is a machine word**
(`childAt_ok_iff`).
-/

namespace AccessControl

/-- A node of a statement tree, with everything below it. -/
structure Node where
  tag : Tag
  text : Option String := none
  children : List Node := []

namespace Node

/-- The node of a name. -/
def identifier (text : String) : Node where
  tag := .word .identifier
  text := some text

/-- Induction over trees: a property holds of a node when it holds of its children. -/
@[elab_as_elim, induction_eliminator]
theorem induction {motive : Node → Prop}
    (node : ∀ tag text children, (∀ child ∈ children, motive child) →
      motive ⟨tag, text, children⟩) (n : Node) : motive n :=
  Node.rec (motive_1 := motive) (motive_2 := fun ns => ∀ child ∈ ns, motive child)
    (fun tag text children ih => node tag text children ih)
    (fun _ h => nomatch h)
    (fun _ _ ihHead ihTail child h => by
      rcases List.mem_cons.mp h with rfl | h
      · exact ihHead
      · exact ihTail child h)
    n

/-! ### Equality -/

mutual

/-- Trees are equal when their roots agree and their children are equal in order. -/
def decEq : (a b : Node) → Decidable (a = b)
  | ⟨tag, text, children⟩, ⟨tag', text', children'⟩ =>
      if h : tag = tag' ∧ text = text' then
        match decEqList children children' with
        | isTrue h' => isTrue (by rw [h.1, h.2, h'])
        | isFalse h' => isFalse fun e => h' (by injection e)
      else isFalse fun e => h (by injection e with h₁ h₂; exact ⟨h₁, h₂⟩)

/-- Rows of trees are compared tree by tree. -/
def decEqList : (as bs : List Node) → Decidable (as = bs)
  | [], [] => isTrue rfl
  | [], _ :: _ => isFalse (by simp)
  | _ :: _, [] => isFalse (by simp)
  | a :: as, b :: bs =>
      match decEq a b, decEqList as bs with
      | isTrue h, isTrue h' => isTrue (by rw [h, h'])
      | isFalse h, _ => isFalse fun e => h (List.cons.inj e).1
      | _, isFalse h' => isFalse fun e => h' (List.cons.inj e).2

end

instance : DecidableEq Node := decEq

/-! ### The nodes of a tree -/

mutual

/-- The nodes of a tree, each before the nodes below it, and those in the order of the
children. -/
def preorder : Node → List Node
  | ⟨tag, text, children⟩ => ⟨tag, text, children⟩ :: preorderList children

/-- The nodes of a row of trees. -/
def preorderList : List Node → List Node
  | [] => []
  | n :: ns => preorder n ++ preorderList ns

end

theorem preorderList_eq_flatMap (ns : List Node) : preorderList ns = ns.flatMap preorder := by
  induction ns with
  | nil => rfl
  | cons n ns ih => rw [preorderList, ih, List.flatMap_cons]

theorem preorder_eq (n : Node) : n.preorder = n :: n.children.flatMap preorder := by
  cases n
  rw [preorder, preorderList_eq_flatMap]

/-- Some node of the tree is a partition. -/
def hasPartition (n : Node) : Bool :=
  n.preorder.any fun m => m.tag = .word .partition

/-- **A partition is found wherever it hides.** -/
theorem hasPartition_iff (n : Node) :
    n.hasPartition ↔ ∃ m ∈ n.preorder, m.tag = .word .partition := by
  simp [hasPartition]

/-! ### One child -/

/-- The child at a position; a negative position counts from the end. -/
def child? (n : Node) (position : Int) : Option Node :=
  if 0 ≤ position then n.children[position.toNat]?
  else if -position ≤ n.children.length then
    n.children[(n.children.length + position).toNat]?
  else none

@[simp] theorem child?_ofNat (n : Node) (i : Nat) : n.child? (i : Int) = n.children[i]? := by
  simp [child?]

/-- The last child is at position −1. -/
theorem child?_neg_one (n : Node) : n.child? (-1) = n.children.getLast? := by
  cases h : n.children with
  | nil => simp [child?, h]
  | cons m ms =>
      have : ((m :: ms).length + (-1 : Int)).toNat = ms.length := by
        simp only [List.length_cons]; omega
      have hle : -(-1 : Int) ≤ (m :: ms).length := by simp only [List.length_cons]; omega
      rw [child?, h, if_neg (by decide), if_pos hle, this, List.getLast?_eq_getElem?,
        List.length_cons, Nat.add_sub_cancel]

/-- Why a request for the child at a position fails. -/
inductive PositionFault where
  /-- The position is no signed number of 64 bits. -/
  | notAWord
  /-- There is no child at the position. -/
  | outOfRange
deriving DecidableEq

/-- What the requester is told. -/
def PositionFault.message : PositionFault → String
  | .notAWord => "cannot fit 'int' into an index-sized integer"
  | .outOfRange => "tuple index out of range"

/-- The number is a signed one of 64 bits. -/
def IsWord (position : Int) : Prop :=
  Int64.minValue.toInt ≤ position ∧ position ≤ Int64.maxValue.toInt

instance (position : Int) : Decidable (IsWord position) :=
  inferInstanceAs (Decidable (_ ∧ _))

/-- The child at a position, or why there is none.  The position is looked at before the
children. -/
def childAt (n : Node) (position : Int) : Except PositionFault Node :=
  if IsWord position then
    match n.child? position with
    | some child => .ok child
    | none => .error .outOfRange
  else .error .notAWord

/-- **A child is found at a position exactly when it is there and the position is a word.** -/
theorem childAt_ok_iff {n child : Node} {position : Int} :
    n.childAt position = .ok child ↔ IsWord position ∧ n.child? position = some child := by
  rw [childAt]
  by_cases h : IsWord position
  · rw [if_pos h]
    cases hc : n.child? position with
    | none => exact ⟨fun e => (nomatch e), fun e => (nomatch e.2)⟩
    | some m =>
        refine ⟨fun e => ⟨h, ?_⟩, fun e => ?_⟩
        · injection e with e
          rw [e]
        · rw [Option.some.inj e.2]
  · rw [if_neg h]
    exact ⟨fun e => (nomatch e), fun e => absurd e.1 h⟩

end Node

end AccessControl
