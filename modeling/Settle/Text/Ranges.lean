/-
Ranges of characters.

A property of characters is kept as the closed ranges of the code points that
have it, ascending and apart, so that a table can be read against the charts.
-/
set_option autoImplicit false

namespace Settle.Text

/-- Closed ranges of code points. -/
abbrev Ranges := List (Nat × Nat)

/-- Whether a character lies in one of the ranges. -/
def Ranges.covers (ranges : Ranges) (c : Char) : Bool :=
  ranges.any fun r => r.1 ≤ c.toNat && c.toNat ≤ r.2

end Settle.Text
