/-!
# Tables of code points

A property of characters is given by closed ranges of code points in increasing order, `Ranges`,
and `Ranges.contains` reads it. The modules that hold the data of one property (`Blank`,
`Printable`, `GraphemeExtend`, `Casing`) name the property and keep only what is read off it.
-/

set_option autoImplicit false
set_option relaxedAutoImplicit false

namespace Heartbeat.Text

/-- Closed ranges of code points, in increasing order. -/
abbrev Ranges := List (Nat × Nat)

/-- A character belongs to a table when one of its ranges holds the code point. -/
def Ranges.contains (table : Ranges) (c : Char) : Bool :=
  table.any fun range ↦ range.1 ≤ c.toNat && c.toNat ≤ range.2

end Heartbeat.Text
