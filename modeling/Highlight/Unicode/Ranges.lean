/-! Sets of code points, written as ranges. -/
namespace Highlight.Unicode

/-- Inclusive ranges in ascending order, none touching the next. -/
abbrev Ranges := List (Nat × Nat)

/-- Stops at the first range that starts after `n`. -/
def Ranges.contains : Ranges → Nat → Bool
  | [], _ => false
  | (first, last) :: rest, n => if n < first then false else n ≤ last || contains rest n

end Highlight.Unicode
