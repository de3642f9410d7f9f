/-!
# Text — numerals

A number in a sentence is written in decimal digits, after its sign.  Only so many digits are
written: a sentence with a longer number in it cannot be put together.
-/

namespace AccessControl.Text

/-- The number of digits that are written at most. -/
def maxDigits : Nat := 4300

/-- The least number with a digit more than that. -/
def digitBound : Nat :=
  Nat.pow 10 maxDigits

/-- The number can be written; the sign does not count. -/
def IsWritable (n : Int) : Prop :=
  n.natAbs < digitBound

instance (n : Int) : Decidable (IsWritable n) :=
  inferInstanceAs (Decidable (_ < _))

theorem not_isWritable_digitBound : ¬ IsWritable digitBound := by
  rw [IsWritable, Int.natAbs_natCast]
  exact Nat.lt_irrefl digitBound

end AccessControl.Text
