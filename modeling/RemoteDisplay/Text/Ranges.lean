/-
**Sets of characters as lists of ranges.**

A property of the Unicode character database is written down as the list of the ranges of code
points that have it.

Main definitions:

* `RemoteDisplay.Text.Ranges` — a list of closed ranges of code points;
* `RemoteDisplay.Text.Ranges.has` — a character lies in one of them.
-/

set_option relaxedAutoImplicit false
set_option autoImplicit false

namespace RemoteDisplay.Text

/-- Closed ranges of code points. -/
abbrev Ranges := List (Nat × Nat)

/-- The character lies in one of the ranges. -/
def Ranges.has (rs : Ranges) (c : Char) : Bool :=
  rs.any fun r => r.1 ≤ c.toNat && c.toNat ≤ r.2

end RemoteDisplay.Text
