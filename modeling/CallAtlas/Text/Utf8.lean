set_option autoImplicit false

/-!
# UTF-8

Decoding bytes. Bytes that are no UTF-8 are grouped into invalid parts: a part is the longest start
of a character that the bytes hold, or else a single byte. What an invalid part stands for is up to
the reader.
-/

namespace CallAtlas.Text

abbrev Bytes := List UInt8

namespace Utf8

inductive Part where
  | char (c : Char)
  | invalid (bytes : Bytes)
  deriving Repr

/-- What a leading byte asks for: how many bytes follow, and the range of the first of them. -/
structure Lead where
  bits : Nat
  tails : Nat
  low : Nat := 0x80
  high : Nat := 0xbf

def lead? (b : UInt8) : Option Lead :=
  let n := b.toNat
  if n < 0x80 then some { bits := n, tails := 0 }
  else if n < 0xc2 then none
  else if n < 0xe0 then some { bits := n - 0xc0, tails := 1 }
  else if n = 0xe0 then some { bits := 0, tails := 2, low := 0xa0 }
  else if n = 0xed then some { bits := 0xd, tails := 2, high := 0x9f }
  else if n < 0xf0 then some { bits := n - 0xe0, tails := 2 }
  else if n = 0xf0 then some { bits := 0, tails := 3, low := 0x90 }
  else if n < 0xf4 then some { bits := n - 0xf0, tails := 3 }
  else if n = 0xf4 then some { bits := 4, tails := 3, high := 0x8f }
  else none

/-- At most `n` bytes that go on with a character, the first of them in a range of its own. -/
def takeTails : Nat → Nat → Nat → Bytes → Bytes
  | 0, _, _, _ => []
  | _ + 1, _, _, [] => []
  | n + 1, low, high, b :: bs =>
    if low ≤ b.toNat && b.toNat ≤ high then b :: takeTails n 0x80 0xbf bs else []

def codePoint (bits : Nat) (tails : Bytes) : Nat :=
  tails.foldl (fun n b => n * 64 + b.toNat % 64) bits

def parts : Bytes → List Part
  | [] => []
  | b :: bs =>
    match lead? b with
    | none => .invalid [b] :: parts bs
    | some lead =>
      let tails := takeTails lead.tails lead.low lead.high bs
      (if tails.length = lead.tails then .char (Char.ofNat (codePoint lead.bits tails))
        else .invalid (b :: tails)) :: parts (bs.drop tails.length)
termination_by bs => bs.length
decreasing_by all_goals (simp only [List.length_cons, List.length_drop]; omega)

def decodeWith (replace : Bytes → List Char) (bytes : Bytes) : List Char :=
  (parts bytes).flatMap fun
    | .char c => [c]
    | .invalid bs => replace bs

def decodeLossy (bytes : Bytes) : String := String.ofList (decodeWith (fun _ => ['\ufffd']) bytes)

def decode? (bytes : Bytes) : Option (List Char) :=
  (parts bytes).mapM fun
    | .char c => some c
    | .invalid _ => none

def encode (s : String) : Bytes := s.toUTF8.toList

end Utf8

def unixLines : List Char → List Char
  | [] => []
  | '\r' :: '\n' :: cs => '\n' :: unixLines cs
  | '\r' :: cs => '\n' :: unixLines cs
  | c :: cs => c :: unixLines cs

end CallAtlas.Text
