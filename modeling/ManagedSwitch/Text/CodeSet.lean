/-!
# Sets of characters given by their boundaries

A property of characters is stored as the increasing list of code points at which membership
changes: the first entry is the first member, the second the first non-member after it, and so
on.  A character belongs to the set exactly when an odd number of boundaries lie at or below it,
so one binary search answers a membership question.
-/

namespace ManagedSwitch
namespace Text

/-- A set of characters, as the increasing code points at which membership changes. -/
structure CodeSet where
  bounds : Array Nat

namespace CodeSet

/-- The number of leading entries of an increasing array that are at most `n`, searched between
the positions `lo` and `hi`. -/
def rank
    (bounds : Array Nat)
    (n lo hi : Nat) :
    Nat :=
  if h : lo < hi ∧ hi ≤ bounds.size then
    let mid := (lo + hi) / 2
    have : mid < bounds.size := by omega
    if bounds[mid] ≤ n then rank bounds n (mid + 1) hi else rank bounds n lo mid
  else
    lo
termination_by hi - lo

/-- Membership: an odd number of boundaries lie at or below the character. -/
def contains
    (set : CodeSet)
    (c : Char) :
    Bool :=
  rank set.bounds c.toNat 0 set.bounds.size % 2 == 1

end CodeSet

end Text
end ManagedSwitch
