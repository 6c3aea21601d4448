import CallAtlas.Json.Atom
import CallAtlas.Text.Hidden
set_option autoImplicit false

/-!
# Spelling values inside a sentence

How a value of a document is written when it becomes part of a message. A text stands as it is; all
other values, and texts inside them, are spelled so that their kind can be told.
-/

namespace CallAtlas

namespace Decimal

/-- From the first exponent on a number is written with an exponent, and below the second. -/
def positionalBelow : Int := 16
def positionalFrom : Int := -4

/-- Digits with a point behind the first `whole` of them, filled up with zeros. -/
def positional (digits : List Char) (whole : Int) : String :=
  if whole ≤ 0 then "0." ++ String.ofList (List.replicate whole.natAbs '0' ++ digits)
  else
    let filled := digits ++ List.replicate (whole.toNat - digits.length) '0'
    let fraction := filled.drop whole.toNat
    String.ofList (filled.take whole.toNat) ++ "." ++
      (if fraction.isEmpty then "0" else String.ofList fraction)

/-- Digits with a point behind the first and an exponent of at least two digits. -/
def scientific (digits : List Char) (exponent : Int) : String :=
  let fraction := digits.drop 1
  let size := toString exponent.natAbs
  String.ofList (digits.take 1) ++ (if fraction.isEmpty then "" else "." ++ String.ofList fraction) ++
    "e" ++ (if exponent < 0 then "-" else "+") ++ (if size.length < 2 then "0" ++ size else size)

def spelled (d : Decimal) : String :=
  let f := d.toFloat
  let sign := if f.toBits.toNat / Shortest.signBit = 1 then "-" else ""
  if f != f then "nan"
  else if f.isInf then sign ++ "inf"
  else if f == 0.0 then sign ++ "0.0"
  else
    let (m, q) := Shortest.parts f
    let (n, last) := Shortest.digits m q
    let all := Nat.toDigits 10 n
    let digits := (all.reverse.dropWhile (· = '0')).reverse
    let exponent := last + all.length - 1
    sign ++
      (if positionalFrom ≤ exponent && exponent < positionalBelow then
        positional digits (exponent + 1)
      else scientific digits exponent)

end Decimal

namespace Json

def hexDigits (width n : Nat) : List Char :=
  let ds := Nat.toDigits 16 n
  List.replicate (width - ds.length) '0' ++ ds

def quotedChar (mark c : Char) : List Char :=
  if c = mark || c = '\\' then ['\\', c]
  else if c = '\n' then ['\\', 'n']
  else if c = '\r' then ['\\', 'r']
  else if c = '\t' then ['\\', 't']
  else if Text.isHidden c then
    if c.toNat < 0x100 then '\\' :: 'x' :: hexDigits 2 c.toNat
    else if c.toNat < 0x10000 then '\\' :: 'u' :: hexDigits 4 c.toNat
    else '\\' :: 'U' :: hexDigits 8 c.toNat
  else [c]

/-- A text in single quotes, or in double quotes if it holds single quotes only. -/
def quoted (s : String) : String :=
  let mark := if s.toList.contains '\'' && !s.toList.contains '"' then '"' else '\''
  String.ofList (mark :: s.toList.flatMap (quotedChar mark) ++ [mark])

mutual

def spelled : Json → String
  | .null => "None"
  | .bool true => "True"
  | .bool false => "False"
  | .int n => toString n
  | .decimal d => d.spelled
  | .text s => quoted s
  | .array items => "[" ++ ", ".intercalate (spelledItems items) ++ "]"
  | .object fields => "\x7b" ++ ", ".intercalate (spelledFields fields) ++ "\x7d"

def spelledItems : List Json → List String
  | [] => []
  | v :: vs => v.spelled :: spelledItems vs

def spelledFields : List (String × Json) → List String
  | [] => []
  | (name, v) :: fields => (quoted name ++ ": " ++ v.spelled) :: spelledFields fields

end

def inSentence : Json → String
  | .text s => s
  | v => v.spelled

/-- A value as it fills a column, where a flag is a number. Lists and objects fill none. -/
def inColumn? : Json → Option String
  | .bool b => some (if b then "1" else "0")
  | .null | .array _ | .object _ => none
  | v => some v.inSentence

end Json

namespace Atom

def inSentence (a : Atom) : String := a.toJson.inSentence

@[simp] theorem inSentence_text (s : String) : (Atom.text s).inSentence = s := rfl

end Atom

end CallAtlas
