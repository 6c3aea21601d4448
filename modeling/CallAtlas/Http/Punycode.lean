set_option autoImplicit false

/-!
# Punycode

Writing any characters with the first 128, which are called basic. The basic characters of a text
stay in front. Behind them stands, for every other one from the least code on, how many places are
passed over until it is put in; all places of the text count once for each code. The numbers are
written from the lowest digit on, and the last digit of each is told by being below a threshold,
which follows the size of the numbers before. Reading does the same steps again and fails if a
number does not end or leads past the last code.
-/

namespace CallAtlas.Http.Punycode

def isBasic (c : Char) : Bool := c.toNat < 128

def digit (n : Nat) : Char := Char.ofNat (if n < 26 then n + 97 else n + 22)

/-- The least value of a digit at a position that another one follows. -/
def threshold (bias position : Nat) : Nat := max 1 (min 26 (position - bias))

theorem threshold_pos (bias position : Nat) : 1 ≤ threshold bias position := by
  unfold threshold
  omega

def digits (bias position n : Nat) : List Char :=
  let t := threshold bias position
  if n < t then [digit n]
  else digit (t + (n - t) % (36 - t)) :: digits bias (position + 36) ((n - t) / (36 - t))
termination_by n
decreasing_by
  have := threshold_pos bias position
  have := Nat.div_le_self (n - threshold bias position) (36 - threshold bias position)
  omega

/-- How often a number is divided until it is small, counted in steps of positions, and what is left
of it. -/
def scaled (n : Nat) : Nat × Nat :=
  if 455 < n then
    let (positions, rest) := scaled (n / 35)
    (positions + 36, rest)
  else (0, n)
termination_by n
decreasing_by omega

/-- The bias for the next number, from the last one and the count of characters so far. -/
def adapted (number count : Nat) (isFirst : Bool) : Nat :=
  let half := if isFirst then number / 700 else number / 2
  let (positions, rest) := scaled (half + half / count)
  positions + 36 * rest / (rest + 38)

structure Progress where
  /-- The least code that was not put in yet. -/
  code : Nat := 128
  /-- The places passed over since the last character was put in. -/
  passed : Nat := 0
  bias : Nat := 72
  count : Nat
  numbers : List Char := []

namespace Progress

/-- Goes past one character of the text, or puts it in if it has the code of this round. -/
def step (basics code : Nat) (p : Progress) (c : Char) : Progress :=
  if c.toNat < code then { p with passed := p.passed + 1 }
  else if c.toNat = code then
    { p with
      passed := 0
      bias := adapted p.passed (p.count + 1) (p.count = basics)
      count := p.count + 1
      numbers := p.numbers ++ digits p.bias 36 p.passed }
  else p

def round (cs : List Char) (basics : Nat) (p : Progress) (code : Nat) : Progress :=
  let p := cs.foldl (step basics code)
    { p with passed := p.passed + (code - p.code) * (p.count + 1) }
  { p with passed := p.passed + 1, code := code + 1 }

end Progress

def encode (cs : List Char) : List Char :=
  let basics := cs.filter isBasic
  let codes := (((cs.filter (!isBasic ·)).map Char.toNat).mergeSort (· ≤ ·)).eraseDups
  let p := codes.foldl (Progress.round cs basics.length) { count := basics.length }
  basics ++ (if basics.isEmpty then [] else ['-']) ++ p.numbers

def value? (c : Char) : Option Nat :=
  if c.isAlpha then some (c.toLower.toNat - 97)
  else if c.isDigit then some (c.toNat - 22)
  else none

def number? (bias position : Nat) : List Char → Option (Nat × List Char)
  | [] => none
  | c :: cs => do
    let t := threshold bias position
    let n ← value? c
    if n < t then return (n, cs)
    let (rest, cs) ← number? bias (position + 36) cs
    return (n + (36 - t) * rest, cs)

theorem length_of_number? {bias position n : Nat} {cs rest : List Char}
    (h : number? bias position cs = some (n, rest)) : rest.length < cs.length := by
  induction cs generalizing position n with
  | nil => cases h
  | cons c cs ih =>
    rw [number?] at h
    cases hv : value? c with
    | none => simp [hv] at h
    | some k =>
      simp only [hv, Option.bind_eq_bind, Option.bind_some] at h
      split at h
      · simp only [Option.pure_def, Option.some.injEq, Prod.mk.injEq] at h
        simp [h.2]
      · cases hn : number? bias (position + 36) cs with
        | none => simp [hn] at h
        | some p =>
          obtain ⟨m, behind⟩ := p
          simp only [hn, Option.bind_some, Option.pure_def, Option.some.injEq, Prod.mk.injEq] at h
          have := ih (h.2 ▸ hn)
          rw [List.length_cons]
          omega

/-- A text with the characters put in that numbers stand for, from a place on. -/
def fill? (code bias place : Nat) (isFirst : Bool) (text numbers : List Char) :
    Option (List Char) :=
  if numbers.isEmpty then some text
  else match _h : number? bias 36 numbers with
    | none => none
    | some (passed, rest) =>
      let count := text.length + 1
      let code := code + (place + passed) / count
      let place := (place + passed) % count
      if code.isValidChar then
        fill? code (adapted passed count isFirst) (place + 1) false
          (text.take place ++ Char.ofNat code :: text.drop place) rest
      else none
termination_by numbers.length
decreasing_by exact length_of_number? _h

/-- Reads what is written; the basic characters stand before the last hyphen. -/
def decode? (cs : List Char) : Option (List Char) :=
  let numbers := (cs.reverse.takeWhile (· ≠ '-')).reverse
  fill? 128 72 0 true (cs.take (cs.length - numbers.length - 1)) numbers

end CallAtlas.Http.Punycode
