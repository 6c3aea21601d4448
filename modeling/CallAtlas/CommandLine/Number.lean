import CallAtlas.Text.Blank
import CallAtlas.Text.Split
set_option autoImplicit false

/-!
# Numbers in arguments

A whole number may be written with blanks around it, a sign, zeros in front, a fraction of zeros and
single underscores between its digits. All of this is taken away before the digits are read, a minus
sign first and put back at the end.
-/

namespace CallAtlas.CommandLine.Number

def longest : Nat := 4300

/-- A number as it is written plainly: digits that do not start with a zero unless they are one, with
a minus sign if it is negative. -/
def plain? (cs : List Char) : Option Int :=
  let negative := cs.head? = some '-'
  let digits := if negative then cs.drop 1 else cs
  let n : Int := digits.foldl (fun n c => n * 10 + (c.toNat - 48 : Nat)) 0
  if digits.isEmpty || !digits.all Char.isDigit || (digits.head? = some '0' && 1 < digits.length) ||
      longest < digits.length then none
  else some (if negative then -n else n)

/-- The separators that divide records do not count as blanks around a number. -/
def isBlank (c : Char) : Bool := Text.isBlank c && !(0x1c ≤ c.toNat && c.toNat ≤ 0x1f)

def trim (cs : List Char) : List Char :=
  ((cs.dropWhile isBlank).reverse.dropWhile isBlank).reverse

def isStart (c : Char) : Bool := ('1' ≤ c && c ≤ '9') || c = '-'

/-- What follows zeros and underscores, the last of which is given; a point keeps it. -/
def afterZeros (last : Char) : List Char → Option (List Char)
  | [] => some [last]
  | c :: cs =>
    if c = '0' || c = '_' then afterZeros c cs
    else if isStart c then some (c :: cs)
    else if c = '.' then some (last :: c :: cs)
    else none

/-- A number without the zeros in front of it, of which one stays if there is nothing else. -/
def withoutZeros : List Char → Option (List Char)
  | [] => none
  | c :: cs => if c = '0' then afterZeros c cs else if isStart c then some (c :: cs) else none

def withoutFraction (cs : List Char) : List Char :=
  let fraction := (cs.dropWhile (· ≠ '.')).drop 1
  if !fraction.isEmpty && fraction.all (· = '0') then cs.takeWhile (· ≠ '.') else cs

def withoutUnderscores (cs : List Char) : Option (List Char) :=
  let groups := Text.splitChars '_' cs
  if groups.any List.isEmpty then none else some groups.flatten

def withoutPlus : List Char → List Char
  | '+' :: c :: cs => if c.isDigit then c :: cs else '+' :: c :: cs
  | cs => cs

/-- A number without anything that is not written plainly. Zeros, fraction and underscores are taken
away behind a minus sign, if there is one. -/
def tidied (cs : List Char) : Option (List Char) :=
  let sign := (cs.take 1).filter (· = '-')
  (withoutZeros (cs.drop sign.length)).bind fun digits =>
    (withoutUnderscores (withoutFraction digits)).map (sign ++ ·)

def read? (s : String) : Option Int := (tidied (withoutPlus (trim s.toList))).bind plain?

end CallAtlas.CommandLine.Number
