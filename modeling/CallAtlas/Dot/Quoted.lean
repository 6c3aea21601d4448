set_option autoImplicit false

/-!
# Quoted texts

A text between double quotes, in which a backslash, a double quote and a line feed are written as a
backslash and one more character. `scan_encode` says that a reader knows where a quoted text ends
and gets the text back, whatever follows; `linefeed_not_mem_encode` says that it stays on its line.
-/

namespace CallAtlas.Dot.Quoted

def escape (c : Char) : List Char :=
  if c = '\\' then ['\\', '\\']
  else if c = '"' then ['\\', '"']
  else if c = '\n' then ['\\', 'n']
  else [c]

def escapeAll (cs : List Char) : List Char := cs.flatMap escape

def encode (cs : List Char) : List Char := '"' :: escapeAll cs ++ ['"']

def unescape? : Char → Option Char
  | '\\' => some '\\'
  | '"' => some '"'
  | 'n' => some '\n'
  | _ => none

def scanBody : List Char → Option (List Char × List Char)
  | [] => none
  | '"' :: cs => some ([], cs)
  | ['\\'] => none
  | '\\' :: d :: ds =>
    match unescape? d, scanBody ds with
    | some x, some (body, rest) => some (x :: body, rest)
    | _, _ => none
  | c :: cs => (scanBody cs).map fun r => (c :: r.1, r.2)

def scan : List Char → Option (List Char × List Char)
  | '"' :: cs => scanBody cs
  | _ => none

theorem length_of_scanBody {cs body rest : List Char}
    (h : scanBody cs = some (body, rest)) : rest.length < cs.length := by
  fun_induction scanBody cs generalizing body rest with
  | case1 | case3 | case5 => cases h
  | case2 cs =>
    cases h
    exact Nat.lt_succ_self _
  | case4 d ds x body' rest' hs hx ih =>
    cases h
    have shorter := ih hs
    simp only [List.length_cons]
    omega
  | case6 c cs _ _ _ ih =>
    obtain ⟨r, hr, he⟩ := Option.map_eq_some_iff.1 h
    cases he
    exact Nat.lt_succ_of_lt (ih hr)

theorem length_of_scan {cs body rest : List Char} (h : scan cs = some (body, rest)) :
    rest.length < cs.length := by
  unfold scan at h
  split at h
  · have := length_of_scanBody h
    simp only [List.length_cons]
    omega
  · cases h

theorem scanBody_escapeAll (cs rest : List Char) :
    scanBody (escapeAll cs ++ '"' :: rest) = some (cs, rest) := by
  induction cs with
  | nil => simp [escapeAll, scanBody]
  | cons c cs ih =>
    rw [escapeAll, List.flatMap_cons, List.append_assoc]
    change scanBody (escape c ++ (escapeAll cs ++ '"' :: rest)) = _
    unfold escape
    split
    · rename_i h
      simp [scanBody, unescape?, ih, h]
    · split
      · rename_i h
        simp [scanBody, unescape?, ih, h]
      · split
        · rename_i h
          simp [scanBody, unescape?, ih, h]
        · rename_i h1 h2 h3
          rw [List.singleton_append, scanBody, ih]
          · rfl
          all_goals simp_all

theorem scan_encode (cs rest : List Char) : scan (encode cs ++ rest) = some (cs, rest) := by
  simpa [encode, scan] using scanBody_escapeAll cs rest

theorem linefeed_not_mem_encode (cs : List Char) : '\n' ∉ encode cs := by
  have h : ∀ c, '\n' ∉ escape c := by
    intro c
    unfold escape
    repeat' split
    all_goals simp_all
    rename_i h
    exact fun e => h e.symm
  simp [encode, escapeAll, h]

end CallAtlas.Dot.Quoted

namespace CallAtlas.Dot

def quoted (s : String) : String := String.ofList (Quoted.encode s.toList)

end CallAtlas.Dot
