import CallAtlas.Settings
import Mathlib.Data.List.DropRight

set_option autoImplicit false

/-!
# Lists in texts

Prefixes and grouping keys are given as texts with commas in them. A comma divides such a list in two,
so it is known from its stretches without commas: each of them is a part without the blanks around it,
unless nothing else is in it. Parts that are written tidily are read as they are.
-/

namespace CallAtlas

namespace Text

/-! ## Blanks around a text -/

def Trimmed (s : String) : Prop :=
  (∀ c ∈ s.toList.head?, isBlank c = false) ∧ ∀ c ∈ s.toList.getLast?, isBlank c = false

theorem trimEnd_eq_rdropWhile (cs : List Char) : trimEnd cs = cs.rdropWhile isBlank := rfl

theorem trimmed_trim (s : String) : Trimmed (trim s) := by
  have start := List.head?_dropWhile_not isBlank s.toList
  rw [Trimmed, toList_trim, trimChars, trimStart, trimEnd_eq_rdropWhile]
  generalize s.toList.dropWhile isBlank = cs at start
  constructor
  · intro c hc
    obtain ⟨rest, whole⟩ := List.rdropWhile_prefix isBlank cs
    have first : cs.head? = some c := by
      rw [← whole, List.head?_append, Option.mem_def.1 hc]
      rfl
    rw [first] at start
    exact start
  · intro c hc
    obtain ⟨given, rfl⟩ := List.mem_getLast?_eq_getLast hc
    simpa using List.rdropWhile_last_not isBlank cs given

theorem trim_of_trimmed {s : String} (h : Trimmed s) : trim s = s := by
  obtain ⟨first, last⟩ := h
  have start : s.toList.dropWhile isBlank = s.toList := by
    cases hs : s.toList with
    | nil => rfl
    | cons c cs =>
      have given : isBlank c = false := first c (by simp [hs])
      simp [given]
  apply String.toList_injective
  rw [toList_trim, trimChars, trimStart, trimEnd_eq_rdropWhile, start, List.rdropWhile_eq_self_iff]
  intro given
  simpa using last _ (List.getLast?_eq_getLast_of_ne_nil given)

instance (s : String) : Decidable (Trimmed s) :=
  decidable_of_iff (trim s = s) ⟨fun tidy => tidy ▸ trimmed_trim s, trim_of_trimmed⟩

theorem trim_sublist (s : String) : (trim s).toList.Sublist s.toList := by
  rw [toList_trim]
  exact (List.rdropWhile_prefix isBlank _).sublist.trans (List.dropWhile_sublist isBlank)

/-! ## Stretches between separators -/

section

variable {sep : Char} {cs ds piece : List Char}

theorem splitChars_append_sep (sep : Char) (cs ds : List Char) :
    splitChars sep (cs ++ sep :: ds) = splitChars sep cs ++ splitChars sep ds := by
  induction cs with
  | nil => exact splitChars_sep sep ds
  | cons c cs ih =>
    obtain ⟨first, rest, split⟩ := List.exists_cons_of_ne_nil (splitChars_ne_nil sep cs)
    rw [List.cons_append, splitChars, splitChars, ih, split]
    by_cases same : c = sep
    · rw [if_pos same, if_pos same]
      rfl
    · rw [if_neg same, if_neg same]
      rfl

theorem splitChars_of_not_mem (h : sep ∉ cs) : splitChars sep cs = [cs] := by
  induction cs with
  | nil => rfl
  | cons c cs ih =>
    rw [List.mem_cons, not_or] at h
    rw [splitChars, if_neg (Ne.symm h.1), ih h.2]

theorem sep_not_mem_splitChars (h : piece ∈ splitChars sep cs) : sep ∉ piece := by
  induction cs generalizing piece with
  | nil =>
    rw [splitChars, List.mem_singleton] at h
    simp [h]
  | cons c cs ih =>
    obtain ⟨first, rest, split⟩ := List.exists_cons_of_ne_nil (splitChars_ne_nil sep cs)
    rw [splitChars, split] at h
    split at h
    · rcases List.mem_cons.1 h with rfl | h
      · simp
      · exact ih (split ▸ h)
    · rename_i other
      rcases List.mem_cons.1 h with rfl | h
      · have front := ih (split ▸ List.mem_cons_self)
        simp [front, Ne.symm other]
      · exact ih (split ▸ List.mem_cons_of_mem first h)

end

theorem split_append_sep (sep : Char) (s t : String) :
    split sep (s ++ String.singleton sep ++ t) = split sep s ++ split sep t := by
  have chars : (s ++ String.singleton sep ++ t).toList = s.toList ++ sep :: t.toList := by simp
  rw [split, chars, splitChars_append_sep, List.map_append]
  rfl

theorem split_of_not_mem {sep : Char} {s : String} (h : sep ∉ s.toList) : split sep s = [s] := by
  rw [split, splitChars_of_not_mem h, List.map_singleton, String.ofList_toList]

end Text

/-! ## The parts of a list -/

theorem mem_commaList {s part : String} :
    part ∈ commaList s ↔ part ≠ "" ∧ ∃ piece ∈ Text.split ',' s, Text.trim piece = part := by
  rw [commaList, List.mem_filter, List.mem_map, decide_eq_true_iff, and_comm]

theorem commaList_append (a b : String) :
    commaList (a ++ "," ++ b) = commaList a ++ commaList b := by
  have pieces : Text.split ',' (a ++ "," ++ b) = Text.split ',' a ++ Text.split ',' b :=
    Text.split_append_sep ',' a b
  rw [commaList, pieces, List.map_append, List.filter_append]
  rfl

/-- Without commas there is one part, or none if all is blank. -/
theorem commaList_of_not_mem {s : String} (h : ',' ∉ s.toList) :
    commaList s = if Text.trim s = "" then [] else [Text.trim s] := by
  rw [commaList, Text.split_of_not_mem h, List.map_singleton]
  by_cases blank : Text.trim s = "" <;> simp [blank]

/-- A part of a list that is written as it is read. -/
structure IsListPart (part : String) : Prop where
  given : part ≠ ""
  trimmed : Text.trim part = part
  clean : ',' ∉ part.toList

theorem IsListPart.commaList_eq {part : String} (h : IsListPart part) : commaList part = [part] := by
  rw [commaList_of_not_mem h.clean, h.trimmed, if_neg h.given]

theorem isListPart_of_mem {s part : String} (h : part ∈ commaList s) : IsListPart part := by
  obtain ⟨given, piece, hp, rfl⟩ := mem_commaList.1 h
  obtain ⟨chars, hc, rfl⟩ := List.mem_map.1 hp
  refine ⟨given, Text.trim_of_trimmed (Text.trimmed_trim _), fun comma => ?_⟩
  have inside := (Text.trim_sublist _).subset comma
  rw [String.toList_ofList] at inside
  exact Text.sep_not_mem_splitChars hc inside

theorem commaList_intercalate {parts : List String} (h : ∀ part ∈ parts, IsListPart part) :
    commaList (",".intercalate parts) = parts := by
  induction parts with
  | nil => decide
  | cons part rest ih =>
    obtain ⟨tidy, others⟩ := List.forall_mem_cons.1 h
    cases rest with
    | nil => exact tidy.commaList_eq
    | cons next rest =>
      rw [String.intercalate_cons_cons, commaList_append, tidy.commaList_eq, ih others]
      rfl

/-- A comma divides a list in two, what stands between commas is one part or blank, and tidy parts that
are joined by commas are read again. -/
theorem commaList_piecewise :
    (∀ a b : String, commaList (a ++ "," ++ b) = commaList a ++ commaList b) ∧
    (∀ s : String, ',' ∉ s.toList →
      commaList s = if Text.trim s = "" then [] else [Text.trim s]) ∧
    ∀ parts : List String,
      (∀ part ∈ parts, part ≠ "" ∧ ',' ∉ part.toList ∧ Text.Trimmed part) →
        commaList (",".intercalate parts) = parts := by
  refine ⟨commaList_append, fun s => commaList_of_not_mem, fun parts tidy => ?_⟩
  refine commaList_intercalate fun part hp => ?_
  obtain ⟨given, clean, trimmed⟩ := tidy part hp
  exact ⟨given, Text.trim_of_trimmed trimmed, clean⟩

/-- Blanks of several kinds, an empty side and a blank part are read away; the blank inside a part
stays. -/
theorem commaList_piecewise_scrawled :
    (commaList ("" ++ "," ++ "x\ty, ") = commaList "" ++ commaList "x\ty, " ∧
      commaList "" = [] ∧ commaList "x\ty, " = ["x\ty"]) ∧
    (',' ∉ "\u2003 lib/\t".toList ∧ commaList "\u2003 lib/\t" = ["lib/"]) ∧
    (∀ part ∈ ["x\ty", "lib/"], part ≠ "" ∧ ',' ∉ part.toList ∧ Text.Trimmed part) ∧
      commaList "x\ty,lib/" = ["x\ty", "lib/"] := by
  obtain ⟨divided, single, joined⟩ := commaList_piecewise
  have clean : ',' ∉ "\u2003 lib/\t".toList := by decide
  have tidy : ∀ part ∈ ["x\ty", "lib/"], part ≠ "" ∧ ',' ∉ part.toList ∧ Text.Trimmed part := by
    decide
  exact ⟨⟨divided "" "x\ty, ", by decide, by decide⟩, ⟨clean, single _ clean⟩, tidy, joined _ tidy⟩

end CallAtlas
