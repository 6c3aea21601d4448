set_option autoImplicit false

/-!
# Hexadecimal digits

The value of a digit, of either case, and of a row of digits.
-/

namespace CallAtlas.Text

def hexValue? (c : Char) : Option Nat :=
  if '0' ≤ c && c ≤ '9' then some (c.toNat - 48)
  else if 'a' ≤ c && c ≤ 'f' then some (c.toNat - 87)
  else if 'A' ≤ c && c ≤ 'F' then some (c.toNat - 55)
  else none

def isHexDigit (c : Char) : Bool := (hexValue? c).isSome

/-- The number that digits spell. A character that is no digit counts as zero. -/
def hexNumber (cs : List Char) : Nat := cs.foldl (fun n c => n * 16 + (hexValue? c).getD 0) 0

end CallAtlas.Text
