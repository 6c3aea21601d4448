import CallAtlas.Settings
import CallAtlas.Text.Utf8
set_option autoImplicit false

/-!
# Query strings

The values of a request as they stand in its address: names and values joined by `=` and parted by
`&`, a plus sign for a blank and two hexadecimal digits behind a percent sign for a byte.
-/

namespace CallAtlas.Http

def hexDigit? (b : UInt8) : Option Nat :=
  let n := b.toNat
  if 48 ≤ n && n ≤ 57 then some (n - 48)
  else if 65 ≤ n && n ≤ 70 then some (n - 55)
  else if 97 ≤ n && n ≤ 102 then some (n - 87)
  else none

def unescape : Text.Bytes → Text.Bytes
  | [] => []
  | b :: bs =>
    if b = 37 then
      match bs with
      | h :: l :: rest =>
        match hexDigit? h, hexDigit? l with
        | some high, some low => UInt8.ofNat (high * 16 + low) :: unescape rest
        | _, _ => b :: unescape (h :: l :: rest)
      | rest => b :: unescape rest
    else b :: unescape bs

def hexDigit (n : Nat) : Char := Char.ofNat (if n < 10 then n + 48 else n + 55)

def escape (bytes : Text.Bytes) : List Char :=
  bytes.flatMap fun b => ['%', hexDigit (b.toNat / 16), hexDigit (b.toNat % 16)]

/-- The text that a name or a value stands for. Bytes that are no UTF-8 stay escapes. -/
def decode (cs : List Char) : String :=
  let blanks := cs.map fun c => if c = '+' then ' ' else c
  String.ofList
    (Text.Utf8.decodeWith escape (unescape (Text.Utf8.encode (String.ofList blanks))))

/-- A pair of name and value; without a mark between them the value is empty. -/
def pair (cs : List Char) : String × Option String :=
  (decode (cs.takeWhile (· ≠ '=')), some (decode ((cs.dropWhile (· ≠ '=')).drop 1)))

def form (query : String) : Form :=
  ⟨((Text.splitChars '&' query.toList).filter fun cs => !cs.isEmpty).map pair⟩

end CallAtlas.Http
