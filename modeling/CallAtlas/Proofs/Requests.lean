import CallAtlas.Analysis.Lookup
import CallAtlas.Proofs.CommaLists
import CallAtlas.Proofs.Loading
import CallAtlas.Proofs.Sorting

set_option autoImplicit false

/-!
# Valid settings and foci

When settings are refused, and which package a focus stands for, without the functions that find it
out.
-/

namespace CallAtlas

theorem GroupKey.exists_ofText?_iff {part : String} :
    (∃ k, ofText? part = some k) ↔ part ∈ ["pkg", "type"] := by
  rw [List.mem_pair]
  constructor
  · rintro ⟨k, hk⟩
    rw [ofText?_eq_some_iff.1 hk]
    cases k
    · exact .inl rfl
    · exact .inr rfl
  · rintro (rfl | rfl)
    · exact ⟨.package, rfl⟩
    · exact ⟨.receiver, rfl⟩

theorem exists_groupKeys_iff {found : List GroupKey} {parts : List String} :
    (∃ keys, groupKeys found parts = .ok keys) ↔ ∀ part ∈ parts, part ∈ ["pkg", "type"] := by
  induction parts generalizing found with
  | nil => simp [groupKeys]
  | cons part parts ih =>
    rw [List.forall_mem_cons, ← GroupKey.exists_ofText?_iff, groupKeys]
    cases GroupKey.ofText? part with
    | none => simp
    | some k => simp [ih]

namespace Settings

/-- A part of the grouping that is not blank is no key, or no level is shown. -/
def Invalid (o : Settings) : Prop :=
  (∃ piece ∈ Text.split ',' o.group, Text.trim piece ∉ ["", "pkg", "type"]) ∨ o.limitDepth < 1

variable {o : Settings} {s : Selection}

theorem exists_groupKeysOf_iff :
    (∃ keys, groupKeysOf o.group = .ok keys) ↔
      ¬ ∃ piece ∈ Text.split ',' o.group, Text.trim piece ∉ ["", "pkg", "type"] := by
  rw [groupKeysOf, exists_groupKeys_iff]
  simp only [mem_commaList, List.mem_cons, List.not_mem_nil, or_false, not_exists, not_and, not_not]
  constructor
  · intro keys piece hp
    by_cases blank : Text.trim piece = ""
    · exact .inl blank
    · exact .inr (keys _ ⟨blank, piece, hp, rfl⟩)
  · rintro keys part ⟨given, piece, hp, rfl⟩
    exact (keys piece hp).resolve_left given

theorem exists_select_iff : (∃ s, o.select = .ok s) ↔ ¬ o.Invalid := by
  rw [Invalid, not_or, ← exists_groupKeysOf_iff, select]
  cases groupKeysOf o.group with
  | error e => simp
  | ok keys => by_cases low : o.limitDepth < 1 <;> simp [low]

theorem focus_of_select (h : o.select = .ok s) : s.focus = Text.trim o.focus := by
  unfold select at h
  split at h
  · cases h
  · split at h
    · cases h
    · cases h
      rfl

end Settings

namespace Analysis

/-- A token determines a package: it is the path of the package or, where it is neither the path of
any other nor has a slash in it, the name of this package alone. -/
def Determines (a : Analysis) (token : String) (p : Package) : Prop :=
  p ∈ a.packages ∧
    (p.path = .text token ∨
      (∀ q ∈ a.packages, q.path ≠ .text token) ∧ '/' ∉ token.toList ∧
        p.isCalled token = true ∧ ∀ q ∈ a.packages, q.isCalled token = true → q = p)

/-- The focus that a token asks for: none if it is empty, or else the package that it determines. -/
def Focuses (a : Analysis) (token : String) : Option Package → Prop
  | none => token = ""
  | some p => token ≠ "" ∧ a.Determines token p

def Confuses (a : Analysis) (token : String) : Prop :=
  (∀ q ∈ a.packages, q.path ≠ .text token) ∧ '/' ∉ token.toList ∧
    ∃ p ∈ a.packages, ∃ q ∈ a.packages, p ≠ q ∧ p.isCalled token = true ∧ q.isCalled token = true

/-- What a token is answered with, and when. -/
inductive Finds (a : Analysis) (token : String) : Except TokenError (Option Package) → Prop where
  | nothing : token = "" → Finds a token (.ok none)
  | package {p : Package} : token ≠ "" → a.Determines token p → Finds a token (.ok (some p))
  | several : token ≠ "" → a.Confuses token → Finds a token (.error (.ambiguous token
      (Atom.sorted (Atom.sorted ((a.packagesCalled token).map Package.path)))))
  | lost : token ≠ "" → (∀ p, ¬ a.Determines token p) → ¬ a.Confuses token → Finds a token
      (.error (if '/' ∈ token.toList then .unknownPath token else .unknownName token))

variable {a : Analysis} {token : String} {p q : Package}

theorem mem_packagesCalled :
    p ∈ a.packagesCalled token ↔ p ∈ a.packages ∧ p.isCalled token = true := List.mem_filter

theorem Confuses.not_determines (h : a.Confuses token) : ¬ a.Determines token p := by
  obtain ⟨others, -, q, hq, r, hr, apart, calledq, calledr⟩ := h
  rintro ⟨hp, path | ⟨-, -, -, only⟩⟩
  · exact others p hp path
  · exact apart ((only q hq calledq).trans (only r hr calledr).symm)

theorem lost_of_others (others : ∀ q ∈ a.packages, q.path ≠ .text token)
    (unnamed : '/' ∈ token.toList ∨ ∀ q ∈ a.packages, q.isCalled token = false) :
    (∀ p, ¬ a.Determines token p) ∧ ¬ a.Confuses token := by
  constructor
  · rintro p ⟨hp, path | ⟨-, plain, called, -⟩⟩
    · exact others p hp path
    · exact unnamed.elim plain fun none => Bool.eq_false_iff.1 (none p hp) called
  · rintro ⟨-, plain, p, hp, -, -, -, called, -⟩
    exact unnamed.elim plain fun none => Bool.eq_false_iff.1 (none p hp) called

variable (hc : a.Catalogued)

include hc

theorem isText_packagesCalled : ∀ path ∈ (a.packagesCalled token).map Package.path, path.isText := by
  intro path mem
  obtain ⟨p, hp, rfl⟩ := List.mem_map.1 mem
  exact hc.paths p (mem_packagesCalled.1 hp).1

theorem package?_text :
    a.package? (.text token) = some p ↔ p ∈ a.packages ∧ p.path = .text token := by
  rw [package?, Roster.find?_eq_some_iff hc.nodup_paths]
  exact and_congr_right fun _ => Atom.key_eq_text

theorem package?_text_eq_none :
    a.package? (.text token) = none ↔ ∀ q ∈ a.packages, q.path ≠ .text token := by
  rw [Option.eq_none_iff_forall_ne_some]
  constructor
  · exact fun none q hq path => none q ((package?_text hc).2 ⟨hq, path⟩)
  · exact fun others q hq => others q ((package?_text hc).1 hq).1 ((package?_text hc).1 hq).2

theorem Determines.unique (hp : a.Determines token p) (hq : a.Determines token q) : p = q := by
  obtain ⟨hp, path | ⟨others, -, called, only⟩⟩ := hp
  · obtain ⟨hq, path' | ⟨others, -⟩⟩ := hq
    · exact Option.some.inj (((package?_text hc).2 ⟨hp, path⟩).symm.trans
        ((package?_text hc).2 ⟨hq, path'⟩))
    · exact absurd path (others p hp)
  · obtain ⟨hq, path' | ⟨-, -, -, only'⟩⟩ := hq
    · exact absurd path' (others q hq)
    · exact only' p hp called

/-- Paths that are texts can be put into order, so a name of several packages is answered with their
paths. -/
theorem finds_focus? (token : String) : a.Finds token (a.focus? token) := by
  unfold focus?
  by_cases empty : token = ""
  · rw [if_pos empty]
    exact .nothing empty
  rw [if_neg empty]
  cases path : a.package? (.text token) with
  | some p =>
    have here := (package?_text hc).1 path
    exact .package empty ⟨here.1, .inl here.2⟩
  | none =>
    have others := (package?_text_eq_none hc).1 path
    by_cases slash : '/' ∈ token.toList
    · have lost := lost_of_others others (.inl slash)
      simpa [slash] using Finds.lost empty lost.1 lost.2
    have called {p : Package} :
        p ∈ a.packagesCalled token ↔ p ∈ a.packages ∧ p.isCalled token = true := mem_packagesCalled
    simp only [List.contains_eq_mem, slash, decide_false, Bool.false_eq_true, if_false]
    cases names : a.packagesCalled token with
    | nil =>
      have lost := lost_of_others others (.inr fun q hq => Bool.eq_false_iff.2 fun same =>
        List.not_mem_nil (names ▸ called.2 ⟨hq, same⟩))
      simpa [slash] using Finds.lost empty lost.1 lost.2
    | cons p ps =>
      have hp := called.1 (names ▸ List.mem_cons_self (a := p))
      cases ps with
      | nil =>
        refine .package empty ⟨hp.1, .inr ⟨others, slash, hp.2, fun q hq same => ?_⟩⟩
        exact List.mem_singleton.1 (names ▸ called.2 ⟨hq, same⟩)
      | cons q qs =>
        have hq := called.1 (names ▸ List.mem_cons_of_mem p (List.mem_cons_self (a := q)))
        have texts : ∀ path ∈ (a.packagesCalled token).map Package.path, path.isText :=
          isText_packagesCalled hc
        have nodup : (a.packagesCalled token).Nodup :=
          (List.Nodup.of_map _ hc.nodup_paths).filter _
        have apart : p ≠ q := fun same => by simp [names, same] at nodup
        have several := Finds.several empty ⟨others, slash, p, hp.1, q, hq.1, apart, hp.2, hq.2⟩
        rw [names] at texts several
        simpa only [Atom.ofOneKind_of_texts texts, Atom.sortedBy_id_of_texts texts, if_true,
          Atom.sortedBy_id_of_texts fun path hp => texts path (Atom.mem_sorted.1 hp)] using several

theorem focus?_eq_ok_iff {focus : Option Package} :
    a.focus? token = .ok focus ↔ a.Focuses token focus := by
  have finds := finds_focus? hc token
  generalize a.focus? token = answer at finds
  cases finds with
  | nothing empty => cases focus <;> simp [Focuses, empty]
  | package given found =>
    cases focus with
    | none => simp [Focuses, given]
    | some q =>
      simp only [Except.ok.injEq, Option.some.injEq, Focuses]
      exact ⟨fun same => same ▸ ⟨given, found⟩, fun h => found.unique hc h.2⟩
  | several given h => cases focus <;> simp [Focuses, given, h.not_determines]
  | lost given none _ => cases focus <;> simp [Focuses, given, none]

theorem focus?_ne_unordered : a.focus? token ≠ .error .unordered := by
  have finds := finds_focus? hc token
  generalize a.focus? token = answer at finds
  cases finds with
  | lost => split <;> nofun
  | _ => nofun

end Analysis

end CallAtlas
