import CallAtlas.Dot.Quoted
import Mathlib.Data.List.Basic

set_option autoImplicit false

/-!
# Escapes

A text is escaped character by character. That comes to the same as replacing the backslashes, then
the quotes and then the line feeds in all of it, since no step touches what an earlier one has put
in. A reader that knows nothing of either looks for the end of a quoted text first and undoes the
escapes afterwards. It gets back what was quoted, and all that follows.
-/

namespace CallAtlas

def Text.replaced (c : Char) (new s : String) : String :=
  String.ofList (s.toList.flatMap fun d => if d = c then new.toList else [d])

namespace Dot

namespace Quoted

/-- Cuts at the first quote that no backslash escapes. Escapes stay as they are written. -/
def cut? : List Char → Option (List Char × List Char)
  | [] => none
  | '"' :: cs => some ([], cs)
  | '\\' :: c :: cs => (cut? cs).map fun (body, rest) => ('\\' :: c :: body, rest)
  | c :: cs => (cut? cs).map fun (body, rest) => (c :: body, rest)

def undo : List Char → List Char
  | [] => []
  | '\\' :: c :: cs =>
    match unescape? c with
    | some d => d :: undo cs
    | none => '\\' :: c :: undo cs
  | c :: cs => c :: undo cs

/-- What is read in one pass is read in two. -/
theorem cut?_of_scanBody {cs value rest : List Char} (h : scanBody cs = some (value, rest)) :
    ∃ body, cut? cs = some (body, rest) ∧ undo body = value := by
  fun_induction scanBody cs generalizing value rest with
  | case1 | case3 | case5 => cases h
  | case2 cs =>
    cases h
    exact ⟨[], rfl, rfl⟩
  | case4 d ds x value' rest' read known ih =>
    cases h
    obtain ⟨body, cut, undone⟩ := ih read
    refine ⟨'\\' :: d :: body, ?_, ?_⟩
    · simp [cut?, cut]
    · simp [undo, known, undone]
  | case6 c cs quote single escaped ih =>
    obtain ⟨⟨value', rest'⟩, read, same⟩ := Option.map_eq_some_iff.1 h
    cases same
    obtain ⟨body, cut, undone⟩ := ih read
    have plain : c ≠ '\\' := by
      rintro rfl
      cases cs with
      | nil => exact single rfl rfl
      | cons d ds => exact escaped d ds rfl rfl
    refine ⟨c :: body, ?_, ?_⟩
    · simp [cut?, cut]
    · simp [undo, undone, plain]

theorem escape_eq_replaced (c : Char) :
    escape c = ((if c = '\\' then ['\\', '\\'] else [c]).flatMap fun d =>
      if d = '"' then ['\\', '"'] else [d]).flatMap fun d =>
        if d = '\n' then ['\\', 'n'] else [d] := by
  by_cases backslash : c = '\\'
  · simp [escape, backslash]
  · by_cases quote : c = '"'
    · simp [escape, quote]
    · simp [escape, backslash, quote]

end Quoted

/-- One pass over a text does what three replacements in all of it do. -/
theorem quoted_eq_replaced (s : String) :
    quoted s = "\"" ++ Text.replaced '\n' "\\n"
      (Text.replaced '"' "\\\"" (Text.replaced '\\' "\\\\" s)) ++ "\"" := by
  apply String.toList_injective
  simp only [quoted, Quoted.encode, Quoted.escapeAll, Text.replaced, String.toList_ofList,
    String.toList_append, List.flatMap_assoc]
  have body : s.toList.flatMap Quoted.escape = s.toList.flatMap fun c =>
      (if c = '\\' then "\\\\".toList else [c]).flatMap fun d =>
        (if d = '"' then "\\\"".toList else [d]).flatMap fun e =>
          if e = '\n' then "\\n".toList else [e] := by
    refine List.flatMap_congr fun c _ => ?_
    rw [Quoted.escape_eq_replaced, List.flatMap_assoc]
    rfl
  rw [body]
  rfl

def readQuoted? (text : String) : Option (String × String) :=
  match text.toList with
  | '"' :: cs => (Quoted.cut? cs).map fun (body, rest) =>
    (String.ofList (Quoted.undo body), String.ofList rest)
  | _ => none

theorem readQuoted?_append (v t : String) : readQuoted? (quoted v ++ t) = some (v, t) := by
  have text : (quoted v ++ t).toList = '"' :: (Quoted.escapeAll v.toList ++ '"' :: t.toList) := by
    simp [quoted, Quoted.encode]
  obtain ⟨body, cut, undone⟩ :=
    Quoted.cut?_of_scanBody (Quoted.scanBody_escapeAll v.toList t.toList)
  rw [readQuoted?, text]
  simp [cut, undone]

/-- A quoted text tells where it ends and what it stands for, whatever follows it, and it stays on its
line. -/
theorem quoted_invertible (v t : String) :
    quoted v = "\"" ++ Text.replaced '\n' "\\n"
        (Text.replaced '"' "\\\"" (Text.replaced '\\' "\\\\" v)) ++ "\"" ∧
      readQuoted? (quoted v ++ t) = some (v, t) ∧ '\n' ∉ (quoted v).toList := by
  refine ⟨quoted_eq_replaced v, readQuoted?_append v t, ?_⟩
  rw [quoted, String.toList_ofList]
  exact Quoted.linefeed_not_mem_encode v.toList

/-- A backslash at the end does not escape the quote behind it. -/
example : readQuoted? "\"\\n\\\\\"\\\"" = some ("\n\\", "\\\"") := by decide

end Dot

end CallAtlas
