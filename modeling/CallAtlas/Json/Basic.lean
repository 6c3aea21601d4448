import CallAtlas.Roster
set_option autoImplicit false

/-!
# JSON values

The values a document can hold. An object keeps its fields in the order of the document; integers
have any size, and the other numbers are kept as the digits they were written with.
-/

namespace CallAtlas

inductive Decimal where
  /-- The number `± digits · 10 ^ exponent`. -/
  | finite (negative : Bool) (digits : Nat) (exponent : Int)
  | infinite (negative : Bool)
  | notANumber
  deriving DecidableEq, Repr, Inhabited

inductive Json where
  | null
  | bool (value : Bool)
  | int (value : Int)
  | decimal (value : Decimal)
  | text (value : String)
  | array (items : List Json)
  | object (fields : List (String × Json))
  deriving Repr, Inhabited

namespace Decimal

/-- Decimal exponents beyond this are out of the range of the numbers a document can tell apart. -/
def exponentBound : Int := 400

def toFloat : Decimal → Float
  | .finite negative digits exponent =>
    let size : Int := (Nat.toDigits 10 digits).length
    let magnitude : Float :=
      if digits = 0 || exponent + size < -exponentBound then 0.0
      else if exponentBound < exponent + size then 1.0 / 0.0
      else if 0 ≤ exponent then
        Float.ofScientific (digits * Nat.pow 10 exponent.toNat) false 0
      else Float.ofScientific digits true exponent.natAbs
    if negative then -magnitude else magnitude
  | .infinite negative => if negative then -1.0 / 0.0 else 1.0 / 0.0
  | .notANumber => 0.0 / 0.0

def isZero (d : Decimal) : Bool := d.toFloat == 0.0

end Decimal

namespace Json

/-- The fields of an object with `name` set to `value`. A name that comes again keeps its place and
gets the new value. -/
def setField (name : String) (value : Json) (fields : List (String × Json)) :
    List (String × Json) :=
  Roster.put Prod.fst (name, value) fields

def fieldOf? (name : String) (fields : List (String × Json)) : Option Json :=
  (Roster.find? Prod.fst name fields).map (·.2)

/-- The value of a field, where a missing field and `null` are the same. -/
def fieldOf (name : String) (fields : List (String × Json)) : Json :=
  (fieldOf? name fields).getD .null

/-- A value says something unless it is `null`, `false`, a zero or empty. -/
def isGiven : Json → Bool
  | .null => false
  | .bool b => b
  | .int n => n ≠ 0
  | .decimal d => !d.isZero
  | .text s => s ≠ ""
  | .array items => !items.isEmpty
  | .object fields => !fields.isEmpty

def text? : Json → Option String
  | .text s => some s
  | _ => none

def isText (v : Json) : Bool := v.text?.isSome

theorem isText_iff {v : Json} : v.isText ↔ ∃ s, v = .text s := by
  cases v <;> simp [isText, text?]

def isNull : Json → Bool
  | .null => true
  | _ => false

def given? (v : Json) : Option Json := if v.isGiven then some v else none

theorem text?_eq_some {v : Json} {s : String} : v.text? = some s ↔ v = .text s := by
  cases v <;> simp [text?]

end Json

end CallAtlas
