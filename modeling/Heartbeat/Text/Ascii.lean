/-!
# Equality up to ASCII case

`sameIgnoringCase` compares two texts character by character and takes no notice of the case of the
letters A to Z. All other characters have to be the same.
-/

set_option autoImplicit false
set_option relaxedAutoImplicit false

namespace Heartbeat.Text

/-- The letters A to Z become a to z and every other character stays. -/
def asciiLower (c : Char) : Char :=
  if 'A' ≤ c ∧ c ≤ 'Z' then Char.ofNat (c.toNat + 32) else c

/-- Two strings that differ at most in the case of the letters A to Z. -/
def sameIgnoringCase (left right : String) : Bool :=
  left.toList.map asciiLower == right.toList.map asciiLower

end Heartbeat.Text
