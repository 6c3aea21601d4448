set_option autoImplicit false

/-!
# Cutting and joining text

Splitting at every occurrence of a character, cutting at the last occurrence, prefixes, and the
order of texts by code point.
-/

namespace CallAtlas.Text

/-- The stretches of `cs` between the occurrences of `sep`, of which there is always one. -/
def splitChars (sep : Char) : List Char → List (List Char)
  | [] => [[]]
  | c :: cs =>
    if c = sep then [] :: splitChars sep cs
    else match splitChars sep cs with
      | [] => [[c]]
      | piece :: pieces => (c :: piece) :: pieces

def split (sep : Char) (s : String) : List String := (splitChars sep s.toList).map String.ofList

/-- What stands after the last occurrence of `sep`, or everything if there is none. -/
def afterLast (sep : Char) (s : String) : String :=
  String.ofList (s.toList.reverse.takeWhile (· ≠ sep)).reverse

/-- What stands before the last occurrence of `sep`, or nothing if there is none. -/
def beforeLast (sep : Char) (s : String) : String :=
  String.ofList ((s.toList.reverse.dropWhile (· ≠ sep)).drop 1).reverse

def dropLeading (c : Char) (s : String) : String := String.ofList (s.toList.dropWhile (· = c))

def dropTrailing (c : Char) (s : String) : String :=
  String.ofList (s.toList.reverse.dropWhile (· = c)).reverse

def startsWith (s p : String) : Bool := p.toList.isPrefixOf s.toList

def startsWithAny (s : String) (prefixes : List String) : Bool := prefixes.any (startsWith s)

def sorted (xs : List String) : List String := xs.mergeSort fun a b => decide (a ≤ b)

theorem sorted_perm (xs : List String) : (sorted xs).Perm xs := List.mergeSort_perm _ _

@[simp] theorem mem_sorted {xs : List String} {x : String} : x ∈ sorted xs ↔ x ∈ xs :=
  (sorted_perm xs).mem_iff

theorem pairwise_sorted (xs : List String) : (sorted xs).Pairwise fun a b => a ≤ b := by
  have trans (a b c : String) (hab : decide (a ≤ b)) (hbc : decide (b ≤ c)) : decide (a ≤ c) := by
    simpa using String.le_trans (by simpa using hab) (by simpa using hbc)
  have total (a b : String) : decide (a ≤ b) || decide (b ≤ a) := by
    simpa using String.le_total a b
  simpa [sorted] using List.pairwise_mergeSort trans total xs

theorem splitChars_ne_nil (sep : Char) (cs : List Char) : splitChars sep cs ≠ [] := by
  cases cs with
  | nil => simp [splitChars]
  | cons c cs =>
    unfold splitChars
    split
    · simp
    · split <;> simp

@[simp] theorem splitChars_sep (sep : Char) (cs : List Char) :
    splitChars sep (sep :: cs) = [] :: splitChars sep cs := by
  simp [splitChars]

end CallAtlas.Text
