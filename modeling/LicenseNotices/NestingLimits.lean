import LicenseNotices.Text.Basic

/-!
How deep things may stand inside one another. Patterns and documents are read, and values are
shown, by functions that call themselves for what stands inside, and the number of calls that may
be open at a time is limited. How many of them are left depends on what has called the program.
-/
namespace LicenseNotices

class NestingLimits where
  /-- The number of groups of a pattern that may be open inside one another. -/
  groups : Nat
  /-- The number of levels that a pattern may have. -/
  levels : Nat
  /-- The number of values of a document in JSON that may be opened inside one another. -/
  json : Nat
  /-- The number of calls that may be open while a value in TOML is read. -/
  toml : Nat
  /-- The number of calls that it takes to read a value without others at the front of a text. -/
  scalarCalls : Text → Nat
  /-- The number of values in which a value may stand that is shown. -/
  shown : Nat

/-- The limits that nothing of the given length reaches. -/
@[reducible] def NestingLimits.ofLength (n : Nat) : NestingLimits where
  groups := n
  levels := 3 * n + 2
  json := n
  toml := 3 * n + 1
  scalarCalls _ := 1
  shown := n

end LicenseNotices
