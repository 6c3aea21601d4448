set_option autoImplicit false

/-!
# Syllables

The syllables of the Korean script have characters of their own, numbered by the letters they are
made of: a lead, a vowel and maybe a tail. A syllable is taken apart into its letters, and letters
are joined again.
-/

namespace CallAtlas.Text.Syllable

def first : Nat := 0xac00
def firstLead : Nat := 0x1100
def firstVowel : Nat := 0x1161

/-- The code before the first tail; the number zero stands for no tail. -/
def noTail : Nat := 0x11a7

def leadCount : Nat := 19
def vowelCount : Nat := 21
def tailCount : Nat := 28
def count : Nat := leadCount * vowelCount * tailCount

def lead (n : Nat) : Nat := firstLead + n / tailCount / vowelCount
def vowel (n : Nat) : Nat := firstVowel + n / tailCount % vowelCount
def tail (n : Nat) : Nat := noTail + n % tailCount

def letters? (code : Nat) : Option (List Nat) :=
  let n := code - first
  if first ≤ code && n < count then
    some ([lead n, vowel n] ++ if n % tailCount = 0 then [] else [tail n])
  else none

/-- The syllable of a lead and a vowel, or of a syllable without a tail and a tail. -/
def join? (front back : Nat) : Option Nat :=
  let l := front - firstLead
  let v := back - firstVowel
  let n := front - first
  let t := back - noTail
  if firstLead ≤ front && l < leadCount && firstVowel ≤ back && v < vowelCount then
    some (first + (l * vowelCount + v) * tailCount)
  else if first ≤ front && n < count && n % tailCount = 0 && noTail < back && t < tailCount then
    some (front + t)
  else none

end CallAtlas.Text.Syllable
