set_option autoImplicit false

/-!
# Styling sequences

A terminal changes the look of what follows when it meets an escape character, an opening bracket,
some parameters and a letter. Text that is printed plainly leaves such sequences out; anything else
behind an escape character stays.
-/

namespace CallAtlas.Text

def isStyleParameter (c : Char) : Bool := c = ';' || c = '?' || c.isDigit

/-- What follows a styling sequence, from behind its opening bracket. -/
def afterStyle? (cs : List Char) : Option (List Char) :=
  match cs.dropWhile isStyleParameter with
  | c :: rest => if c.isAlpha then some rest else none
  | [] => none

theorem length_of_afterStyle? {cs rest : List Char} (h : afterStyle? cs = some rest) :
    rest.length < cs.length := by
  have := (List.dropWhile_sublist isStyleParameter (l := cs)).length_le
  unfold afterStyle? at h
  split at h
  · rename_i c rest' hc
    split at h
    · simp only [Option.some.injEq] at h
      subst h
      rw [hc, List.length_cons] at this
      omega
    · cases h
  · cases h

def unstyledChars : List Char → List Char
  | [] => []
  | c :: cs =>
    if c = '\x1b' then
      match cs with
      | '[' :: rest =>
        match _h : afterStyle? rest with
        | some rest => unstyledChars rest
        | none => c :: unstyledChars ('[' :: rest)
      | cs => c :: unstyledChars cs
    else c :: unstyledChars cs
termination_by cs => cs.length
decreasing_by
  · have := length_of_afterStyle? _h
    simp only [List.length_cons]
    omega
  all_goals simp only [List.length_cons]; omega

def unstyled (s : String) : String := String.ofList (unstyledChars s.toList)

end CallAtlas.Text
