import CallAtlas.Proofs.Answers
import CallAtlas.Proofs.EntryPoints

set_option autoImplicit false

/-!
# Tokens

A token stands for the package of its path or, if it can be no path, for the only package of its name.
The candidates of an ambiguous token can be asked for again: all of them are paths of packages, and
none is empty, since a package without a path has no name that a token could be. It takes the loader
to say so, which invents packages for functions that are in none.
-/

namespace CallAtlas

namespace World

variable {w : World}

/-- Packages are told apart by their paths, and one without a path has no name. -/
structure Indexed (w : World) : Prop where
  nodup : (w.packages.map Package.key).Nodup
  nameless : ∀ p ∈ w.packages, p.path = .text "" → p.name = .text ""

theorem Indexed.withPackage (h : w.Indexed) (path : Atom) : (w.withPackage path).Indexed where
  nodup := nodup_packages_withPackage h.nodup
  nameless p hp silent := by
    rcases mem_packages_withPackage.1 hp with hp | rfl
    · exact h.nameless p hp silent
    · unfold packageAt at silent ⊢
      cases found : Roster.find? Package.key path.key w.packages with
      | some p =>
        rw [found] at silent
        exact h.nameless p (Roster.mem_of_find? found) silent
      | none =>
        rw [found] at silent
        change path = .text "" at silent
        rw [silent]
        rfl

end World

namespace Document

open Json

variable {fields : List (String × Json)}

theorem path_packageTable (fits : (ofFields fields).packages.misfit = none) :
    ∀ p ∈ packageTable (ofFields fields).packages.entries, p.path ≠ .text "" := by
  have given : ∀ e ∈ (ofFields fields).packages.entries, e.path ≠ .text "" := by
    intro e he
    change e ∈ (Section.ofObjects readPackage (fieldOf? "packages" fields)).entries at he
    rw [Section.entries_ofObjects fits] at he
    obtain ⟨o, ho, read⟩ := List.mem_filterMap.1 he
    obtain ⟨-, none⟩ | ⟨given, e', read', path, -⟩ := readPackage_cases (readPackage_fits fits ho)
    · cases none.symm.trans read
    · cases read.symm.trans read'
      intro silent
      rw [← path, silent] at given
      cases given
  refine List.foldlRecOn (motive := fun ps : List Package => ∀ p ∈ ps, p.path ≠ .text "") _ _
    (fun _ hp => nomatch hp) ?_
  intro ps hps e he p hp
  rcases Roster.mem_putWith hp with hp | rfl | ⟨known, -, -, rfl⟩
  · exact hps p hp
  · exact given e he
  · exact given e he

theorem indexed_world (fits : (ofFields fields).packages.misfit = none) :
    (ofFields fields).world.Indexed := by
  have packaged : (ofFields fields).packaged.Indexed :=
    ⟨WellTyped.distinct_packaged.packages, fun p hp silent =>
      absurd silent (path_packageTable fits p hp)⟩
  have world : World.Indexed ⟨(ofFields fields).world.packages, []⟩ := by
    refine packages_world (P := fun ps => World.Indexed ⟨ps, []⟩) ⟨packaged.nodup, packaged.nameless⟩
      fun w path h => ?_
    have kept := World.Indexed.withPackage (w := w) ⟨h.nodup, h.nameless⟩ path
    exact ⟨kept.nodup, kept.nameless⟩
  exact ⟨world.nodup, world.nameless⟩

end Document

namespace Analysis

variable {a : Analysis} {token : String}

theorem focus?_ambiguous_iff (hc : a.Catalogued) :
    (∃ known paths, a.focus? token = .error (.ambiguous known paths)) ↔
      token ≠ "" ∧ a.Confuses token := by
  have finds := finds_focus? hc token
  generalize a.focus? token = answer at finds
  cases finds with
  | nothing empty => simp [empty]
  | package _ found => simpa using fun _ h => h.not_determines found
  | several given h => simp [given, h]
  | lost _ _ clear => split <;> simp [clear]

theorem focus?_lost (hc : a.Catalogued) (given : token ≠ "")
    (lost : ∀ p, ¬ a.Determines token p) (clear : ¬ a.Confuses token) :
    a.focus? token =
      .error (if '/' ∈ token.toList then .unknownPath token else .unknownName token) := by
  have finds := finds_focus? hc token
  generalize a.focus? token = answer at finds
  cases finds with
  | nothing empty => exact absurd empty given
  | package _ found => exact absurd found (lost _)
  | several _ h => exact absurd h clear
  | lost => rfl

/-- The paths of the packages of a name, in order. Each of them stands for its package. -/
structure Offers (a : Analysis) (token : String) (paths : List String) : Prop where
  ordered : paths.Pairwise (· < ·)
  mem_iff : ∀ path, path ∈ paths ↔ ∃ p ∈ a.packages, p.path = .text path ∧ p.isCalled token = true
  retried : ∀ path ∈ paths, ∀ p ∈ a.packages, p.path = .text path → a.focus? path = .ok (some p)

theorem offers_of_focus? (hc : a.Catalogued) (named : ∀ p ∈ a.packages, p.path = .text "" →
    p.name = .text "") (given : token ≠ "") {known : String} {paths : List Atom}
    (h : a.focus? token = .error (.ambiguous known paths)) :
    known = token ∧ ∃ names : List String, paths = names.map .text ∧ a.Offers token names := by
  obtain ⟨-, -, called⟩ := candidates_of_focus? hc h
  obtain ⟨names, rfl⟩ := Atom.exists_map_text fun path mem =>
    isText_packagesCalled hc path (called.mem_iff.1 mem)
  obtain ⟨rfl, ordered, offered⟩ := paths_of_focus? hc h
  have mem_iff (path : String) : path ∈ names ↔
      ∃ p ∈ a.packages, p.path = .text path ∧ p.isCalled known = true := by
    simpa only [Package.isCalled, decide_eq_true_iff, Json.text?_eq_some] using offered path
  refine ⟨rfl, names, rfl, ordered, mem_iff, fun path mem p hp here => ?_⟩
  have asked : path ≠ "" → a.Focuses path (some p) := fun given => ⟨given, hp, .inl here⟩
  refine (focus?_eq_ok_iff hc).2 (asked ?_)
  -- A package without a path would have no name either.
  rintro rfl
  obtain ⟨q, hq, silent, nameless⟩ := (offered "").1 mem
  rw [named q hq silent] at nameless
  exact given (Json.text.inj nameless).symm

/-- A token that is not empty is answered with the package that it determines. If it is the name of
several packages, it is answered with their paths, and otherwise there is no package for it. -/
structure Resolves (a : Analysis) (token : String) : Prop where
  found : ∀ p, a.focus? token = .ok (some p) ↔ a.Determines token p
  ambiguous : (∃ known paths, a.focus? token = .error (.ambiguous known paths)) ↔ a.Confuses token
  candidates : ∀ known paths, a.focus? token = .error (.ambiguous known paths) →
    known = token ∧ ∃ names : List String, paths = names.map .text ∧ a.Offers token names
  lost : (∀ p, ¬ a.Determines token p) → ¬ a.Confuses token → a.focus? token =
    .error (if '/' ∈ token.toList then .unknownPath token else .unknownName token)

end Analysis

namespace Document

variable {fields : List (String × Json)}

/-- What the tokens of a loaded document stand for. The paths of its packages have to be texts, as
they are in a well typed document. -/
theorem resolves_of_load {a : Analysis} (h : (ofFields fields).load = .ok a)
    (texts : ∀ p ∈ a.packages, p.path.isText) {token : String} (given : token ≠ "") :
    a.Resolves token := by
  obtain ⟨fits, -, -, starts, -, rfl⟩ := load_eq_ok_iff.1 h
  have indexed := indexed_world fits
  have hc : Analysis.Catalogued _ := ⟨indexed.nodup, texts⟩
  exact {
    found := fun p => (Analysis.focus?_eq_ok_iff hc).trans (and_iff_right given)
    ambiguous := (Analysis.focus?_ambiguous_iff hc).trans (and_iff_right given)
    candidates := fun known paths => Analysis.offers_of_focus? hc indexed.nameless given
    lost := Analysis.focus?_lost hc given }

theorem resolves_of_load_lookalikes :
    ∃ a, (ofFields lookalikes).load = .ok a ∧ (∀ p ∈ a.packages, p.path.isText) ∧
      (∃ p, p.name = .text "lib" ∧ a.focus? "util" = .ok (some p)) ∧
      a.focus? "log" = .error (.ambiguous "log" [.text "a/log", .text "b/log"]) ∧
      (∃ p, p.path = .text "b/log" ∧ a.focus? "b/log" = .ok (some p)) ∧
      a.focus? "lost/util" = .error (.unknownPath "lost/util") := by
  have parts : (ofFields lookalikes).load.toOption.map (fun a =>
      (a.packages.map fun p => (p.path, p.name), a.focus? "log")) =
      some ([(.text "util", .text "lib"), (.text "b/log", .text "log"),
        (.text "a/log", .text "log"), (.text "c", .text "util"), (.text "app", .text "main"),
        (.text "", .text "")], .error (.ambiguous "log" [.text "a/log", .text "b/log"])) := by cbv
  obtain ⟨a, ha, parts⟩ := exists_ok_of_map parts
  obtain ⟨packages, log⟩ := Prod.mk.inj parts
  have paths : ∀ x ∈ a.packages.map fun p => (p.path, p.name),
      x.1.isText ∧ x.1 ≠ .text "lost/util" := by
    rw [packages]
    decide
  have known {p : Package} (hp : p ∈ a.packages) := paths _ (List.mem_map_of_mem hp)
  have resolves {token : String} (given : token ≠ "") : a.Resolves token :=
    resolves_of_load ha (fun p hp => (known hp).1) given
  refine ⟨a, ha, fun p hp => (known hp).1, ?_, log, ?_, ?_⟩
  · have lib : (Atom.text "util", Json.text "lib") ∈ a.packages.map fun p => (p.path, p.name) := by
      rw [packages]
      exact List.mem_cons_self
    obtain ⟨p, hp, same⟩ := List.mem_map.1 lib
    obtain ⟨path, name⟩ := Prod.mk.inj same
    exact ⟨p, name, ((resolves (by decide)).found p).2 ⟨hp, .inl path⟩⟩
  · obtain ⟨-, names, candidates, offers⟩ := (resolves (by decide)).candidates _ _ log
    have offered : "b/log" ∈ names := by
      have mem : Atom.text "b/log" ∈ names.map Atom.text := candidates ▸ by decide
      simpa using mem
    obtain ⟨p, hp, path, -⟩ := (offers.mem_iff "b/log").1 offered
    exact ⟨p, path, offers.retried "b/log" offered p hp path⟩
  · refine (resolves (by decide)).lost (fun p found => ?_) fun h => h.2.1 (by decide)
    exact found.2.elim (known found.1).2 fun name => name.2.1 (by decide)

end Document

end CallAtlas
