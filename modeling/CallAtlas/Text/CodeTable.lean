import CallAtlas.Text.Hexadecimal
import CallAtlas.Text.Split
set_option autoImplicit false

/-!
# Tables of code points

What is known of many characters, written as text. An entry `41-5a:61` speaks of the code points
from 41 to 5a, and `460~480:461` of every other one; behind the colon stand the values of the entry,
with points between them. All numbers are hexadecimal.
-/

namespace CallAtlas.Text

/-- Code points in a row, at equal distances, and the values they have in a table. -/
structure CodeEntry where
  first : Nat
  last : Nat
  step : Nat := 1
  values : List Nat := []
  deriving DecidableEq, Repr

namespace CodeEntry

def covers (e : CodeEntry) (code : Nat) : Bool :=
  e.first ≤ code && code ≤ e.last && (code - e.first) % e.step = 0

/-- The values of an entry for one of its code points, where the first value grows with the code. -/
def shifted (e : CodeEntry) (code : Nat) : List Nat :=
  match e.values with
  | [] => []
  | v :: vs => (v + (code - e.first)) :: vs

def readValues (cs : List Char) : List Nat :=
  if cs.isEmpty then [] else (splitChars '.' cs).map hexNumber

def read (cs : List Char) : CodeEntry :=
  let codes := cs.takeWhile (· ≠ ':')
  let first := codes.takeWhile isHexDigit
  let last := codes.drop (first.length + 1)
  { first := hexNumber first
    last := hexNumber (if last.isEmpty then first else last)
    step := if '~' ∈ codes then 2 else 1
    values := readValues (cs.drop (codes.length + 1)) }

end CodeEntry

abbrev CodeTable := List CodeEntry

namespace CodeTable

def ofLines (lines : List String) : CodeTable :=
  lines.flatMap fun line => (splitChars ' ' line.toList).map CodeEntry.read

def find? (t : CodeTable) (c : Char) : Option CodeEntry := List.find? (·.covers c.toNat) t

def has (t : CodeTable) (c : Char) : Bool := t.any (·.covers c.toNat)

end CodeTable

end CallAtlas.Text
