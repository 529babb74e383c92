/-!
Classes of characters are written as ranges of code points, in ascending order.
Looking a code point up stops at the first range that ends at it or behind it.
-/
namespace LicenseNotices.Text

/-- Whether a code point lies in one of the ascending ranges. -/
def covers : List (Nat × Nat) → Nat → Bool
  | [], _ => false
  | (first, last) :: rest, n => if n ≤ last then first ≤ n else covers rest n

end LicenseNotices.Text
