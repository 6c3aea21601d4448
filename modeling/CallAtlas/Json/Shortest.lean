import CallAtlas.Json.Basic
set_option autoImplicit false

/-!
# The fewest digits that read back

A double is a number `m · 2 ^ q`, and the reals that are read as it form an interval around it. Of
the decimals with `1, 2, …` digits that are next to the double, the first that lies in the interval
is its shortest form; of two, the nearer.
-/

namespace CallAtlas

structure Quotient where
  num : Nat
  den : Nat

namespace Shortest

def signBit : Nat := Nat.pow 2 63

/-- The weight of the leading bit of a significand, which is left out of the bits of a double. -/
def leadingBit : Nat := Nat.pow 2 52

def parts (f : Float) : Nat × Int :=
  let bits := f.toBits.toNat % signBit
  let field := bits / leadingBit
  let fraction := bits % leadingBit
  if field = 0 then (fraction, -1074) else (fraction + leadingBit, (field : Int) - 1075)

def scaled (n : Nat) (q : Int) : Quotient :=
  if 0 ≤ q then ⟨n * Nat.pow 2 q.toNat, 1⟩ else ⟨n, Nat.pow 2 q.natAbs⟩

def leadingExponent (v : Quotient) : Int :=
  let guess : Int := (Nat.toDigits 10 v.num).length - (Nat.toDigits 10 v.den).length
  let reaches : Bool :=
    if 0 ≤ guess then v.den * Nat.pow 10 guess.toNat ≤ v.num
    else v.den ≤ v.num * Nat.pow 10 guess.natAbs
  if reaches then guess else guess - 1

/-- The doubles' quarter steps: four times the significand, and how far the interval of the reals
that are read as the double goes below it. Above it goes two of them. -/
def quarters (m : Nat) (q : Int) : Nat × Nat :=
  (4 * m, if m = leadingBit && -1074 < q then 1 else 2)

/-- The decimal with `n` digits next to `m · 2 ^ q` that is read as it, as its digits and the
exponent of the last one. -/
def withDigits? (m : Nat) (q : Int) (n : Nat) : Option (Nat × Int) :=
  let (v, below) := quarters m q
  let last := leadingExponent (scaled v (q - 2)) - n + 1
  -- Both sides are brought to whole numbers: quarter steps times `step`, decimals times `unit`.
  let step := Nat.pow 2 (q - 2).toNat * Nat.pow 10 (-last).toNat
  let unit := Nat.pow 10 last.toNat * Nat.pow 2 (2 - q).toNat
  let value := v * step
  let low := (v - below) * step
  let high := (v + 2) * step
  let fits (c : Nat) : Bool :=
    if m % 2 = 0 then low ≤ c * unit && c * unit ≤ high else low < c * unit && c * unit < high
  let c := value / unit
  let down := value - c * unit
  let up := (c + 1) * unit - value
  if fits c && (!fits (c + 1) || down < up || (down = up && c % 2 = 0)) then some (c, last)
  else if fits (c + 1) then some (c + 1, last)
  else none

/-- The shortest decimal that is read as `m · 2 ^ q`; seventeen digits are always enough. -/
def digits (m : Nat) (q : Int) : Nat × Int :=
  (((List.range 17).findSome? fun n => withDigits? m q (n + 1))).getD (m, q)

end Shortest

end CallAtlas
