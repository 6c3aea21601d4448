import CallAtlas.Proofs.Loading
import CallAtlas.Proofs.Sorting
import Mathlib.Data.List.Perm.Basic

set_option autoImplicit false

/-!
# Documents in another order

The entries of a document may come in any order: if they are about different packages and functions,
the same packages, functions, calls and entry points are loaded, in another order.
-/

namespace CallAtlas

theorem Atom.sortedBy_eq_of_perm {xs ys : List Atom} (texts : ∀ x ∈ xs, x.isText)
    (h : xs.Perm ys) : sortedBy id xs = sortedBy id ys := by
  have left : ∀ x ∈ xs, (id x : Atom).isText := texts
  have right : ∀ y ∈ ys, (id y : Atom).isText := fun y hy => texts y (h.mem_iff.2 hy)
  rw [sortedBy_of_texts left, sortedBy_of_texts right]
  refine mergeSort_eq_of_perm (fun _ _ _ => le_trans) le_total ?_ h
  exact fun _ _ _ _ => le_antisymm

theorem Analysis.mains_eq_of_perm {ps qs : List Package} {fs gs : List Function}
    (nodup : (ps.map Package.key).Nodup) (hp : ps.Perm qs) (hf : fs.Perm gs)
    (texts : ∀ f ∈ fs, f.id.isText) : mains ps fs = mains qs gs := by
  have isMain : isMain ps = isMain qs := by
    funext f
    rw [Analysis.isMain, Roster.find?_perm nodup hp]
    rfl
  unfold mains
  rw [isMain]
  refine Atom.sortedBy_eq_of_perm ?_ ((hf.filter _).map _)
  intro x hx
  obtain ⟨f, hm, rfl⟩ := List.mem_map.1 hx
  have text := texts f (List.mem_filter.1 hm).1
  rwa [Function.idAsMet, Atom.shownAs_of_isText text]

structure Analysis.Reordered (a b : Analysis) : Prop where
  packages : a.packages.Perm b.packages
  functions : a.functions.Perm b.functions
  calls : a.calls.Perm b.calls
  entryPoints : a.entryPoints.Perm b.entryPoints
  program : a.program = b.program

namespace Document

variable {d e : Document}

structure Reordered (d e : Document) : Prop where
  packages : d.packages.entries.Perm e.packages.entries
  functions : d.functions.entries.Perm e.functions.entries
  calls : d.calls.entries.Perm e.calls.entries
  entryPoints : d.entryPoints.entries.Perm e.entryPoints.entries
  misfits : d.packages.misfit = e.packages.misfit ∧ d.functions.misfit = e.functions.misfit ∧
    d.calls.misfit = e.calls.misfit ∧ d.entryPoints.misfit = e.entryPoints.misfit
  program : d.program = e.program

/-- No two entries are about one package, and no two describe one function. -/
structure Distinct (d : Document) : Prop where
  paths : (d.packages.entries.map PackageEntry.path).Nodup
  ids : d.ids.Nodup

theorem WellTyped.reordered (hd : d.WellTyped) (h : d.Reordered e) : e.WellTyped where
  packages := h.misfits.1 ▸ hd.packages
  paths c hc := hd.paths c (h.packages.mem_iff.2 hc)
  functions := h.misfits.2.1 ▸ hd.functions
  names c hc := hd.names c (h.functions.mem_iff.2 hc)
  calls := h.misfits.2.2.1 ▸ hd.calls
  ends c hc := hd.ends c (h.calls.mem_iff.2 hc)
  entryPoints := h.misfits.2.2.2 ▸ hd.entryPoints
  starts v hv := hd.starts v (h.entryPoints.mem_iff.2 hv)
  program := h.program ▸ hd.program

theorem Distinct.reordered (hd : d.Distinct) (h : d.Reordered e) : e.Distinct where
  paths := (h.packages.map PackageEntry.path).nodup_iff.1 hd.paths
  ids := (h.functions.filterMap FunctionEntry.id?).nodup_iff.1 hd.ids

theorem packageTable_eq_map {es : List PackageEntry} (texts : ∀ e ∈ es, e.path.isText)
    (nodup : (es.map PackageEntry.path).Nodup) : packageTable es = es.map PackageEntry.package := by
  suffices h : ∀ ps : List Package, (∀ p ∈ ps, ∀ e ∈ es, p.key ≠ e.path) →
      es.foldl (fun packages e => Roster.putWith Package.key Package.renewed e.package packages) ps =
        ps ++ es.map PackageEntry.package from h [] fun _ hp => nomatch hp
  induction es with
  | nil => simp
  | cons e es ih =>
    intro ps other
    rw [List.map_cons, List.nodup_cons] at nodup
    have key : e.package.key = e.path := Atom.key_of_isText (texts e List.mem_cons_self)
    have fresh : e.package.key ∉ ps.map Package.key := by
      intro hm
      obtain ⟨p, hp, he⟩ := List.mem_map.1 hm
      exact other p hp e List.mem_cons_self (he.trans key)
    rw [List.foldl_cons, Roster.putWith_of_not_mem fresh,
      ih (fun c hc => texts c (List.mem_cons_of_mem e hc)) nodup.2, List.append_assoc]
    · rfl
    · intro p hp c hc
      rcases List.mem_append.1 hp with hp | hp
      · exact other p hp c (List.mem_cons_of_mem e hc)
      · rw [List.mem_singleton.1 hp, key]
        exact fun he => nodup.1 (List.mem_map.2 ⟨c, hc, he.symm⟩)

namespace WellTyped

variable (hd : d.WellTyped)

include hd

theorem misfit?_eq_none : d.misfit? = none := by
  have functions : d.functions.misfitBy d.packaged.misfitOf = none := by
    rw [Section.misfitBy, hd.functions, Option.or_none, List.findSome?_eq_none_iff]
    intro c hc
    unfold World.misfitOf
    cases describes : c.describes with
    | false => rfl
    | true =>
      obtain ⟨hid, hpackage⟩ := (hd.keyed c hc).isText_of_describes describes
      obtain ⟨path, hp, ht⟩ := Json.exists_atom_of_isText hpackage
      obtain ⟨id, hi, -⟩ := Json.exists_atom_of_isText hid
      simp [hp, ht, hid, hi]
  have calls : d.calls.misfitBy d.described.misfitOfCall = none := by
    rw [Section.misfitBy, hd.calls, Option.or_none, List.findSome?_eq_none_iff]
    intro c hc
    obtain ⟨hcaller, hcallee, -⟩ := hd.ends c hc
    unfold World.misfitOfCall World.mayEndAt
    rcases hcaller with hu | hu <;> rcases hcallee with hv | hv <;> simp [hu, hv]
  rw [misfit?, functions, calls]
  rfl

variable (distinct : d.Distinct)

theorem agree_described : d.described.Agree d.packaged := World.agree_foldl_declare hd.keyed

include distinct

theorem functions_described :
    d.described.functions = d.functions.entries.filterMap d.packaged.describe? := by
  have functions := World.functions_foldl_declare (w := d.packaged) hd.keyed distinct.ids
  exact functions

variable (h : d.Reordered e)

include h

theorem perm_packaged : d.packaged.packages.Perm e.packaged.packages := by
  have he := hd.reordered h
  change (packageTable _).Perm (packageTable _)
  rw [packageTable_eq_map (fun c hc => (hd.paths c hc).1) distinct.paths,
    packageTable_eq_map (fun c hc => (he.paths c hc).1) (distinct.reordered h).paths]
  exact h.packages.map PackageEntry.package

theorem agree_packaged : d.packaged.Agree e.packaged := by
  intro path _
  have same := Roster.find?_perm distinct_packaged.packages (hd.perm_packaged distinct h) path.key
  rw [World.packageAt, same]
  rfl

theorem agree_reordered : d.described.Agree e.described :=
  hd.agree_described.trans
    ((hd.agree_packaged distinct h).trans (hd.reordered h).agree_described.symm)

theorem perm_described : d.described.functions.Perm e.described.functions := by
  have same : d.functions.entries.filterMap d.packaged.describe? =
      d.functions.entries.filterMap e.packaged.describe? := by
    refine List.filterMap_congr fun c hc => ?_
    unfold World.describe?
    cases hk : c.keys? with
    | none => rfl
    | some k =>
      have hp := ((hd.keyed c hc).isText_of_keys? hk).2
      exact congrArg some ((hd.agree_packaged distinct h).described c k.1 hp)
  rw [hd.functions_described distinct, same,
    (hd.reordered h).functions_described (distinct.reordered h)]
  exact h.functions.filterMap _

omit hd distinct in
theorem perm_ends : d.ends.Perm e.ends :=
  (h.calls.filterMap CallEntry.call?).flatMap_right _

theorem perm_functions : d.world.functions.Perm e.world.functions := by
  have he := hd.reordered h
  refine (List.perm_ext_iff_of_nodup hd.distinct_world.functions.of_map
    he.distinct_world.functions.of_map).2 fun f => ?_
  rw [world_eq, world_eq, (World.mem_foldl_mention hd.ends_texts).1,
    (World.mem_foldl_mention he.ends_texts).1]
  simp only [(perm_ends h).mem_iff, (hd.perm_described distinct h).mem_iff,
    ((hd.perm_described distinct h).map Function.id).mem_iff,
    (hd.agree_reordered distinct h).implied]

theorem perm_packages : d.world.packages.Perm e.world.packages := by
  have he := hd.reordered h
  have described (p : Package) : p ∈ d.described.packages ↔ p ∈ e.described.packages := by
    rw [described, described, World.mem_packages_foldl_declare hd.keyed,
      World.mem_packages_foldl_declare he.keyed, (hd.perm_packaged distinct h).mem_iff]
    simp only [h.functions.mem_iff]
    refine or_congr_right (exists_congr fun c => and_congr_right fun hc => ?_)
    refine exists_congr fun k => and_congr_right fun hk => ?_
    rw [hd.agree_packaged distinct h k.2 ((he.keyed c hc).isText_of_keys? hk).2]
  refine (List.perm_ext_iff_of_nodup hd.distinct_world.packages.of_map
    he.distinct_world.packages.of_map).2 fun p => ?_
  rw [world_eq, world_eq, (World.mem_foldl_mention hd.ends_texts).2,
    (World.mem_foldl_mention he.ends_texts).2]
  simp only [(perm_ends h).mem_iff, described,
    ((hd.perm_described distinct h).map Function.id).mem_iff,
    hd.agree_reordered distinct h (World.homeOf _) rfl]

theorem exists_starts {ids : List Atom} (hs : d.starts d.world = .ok ids) :
    ∃ ids', e.starts e.world = .ok ids' ∧ ids.Perm ids' := by
  have he := hd.reordered h
  unfold Document.starts at hs ⊢
  rw [hd.entryPoints] at hs
  rw [he.entryPoints]
  cases hentries : d.entryPoints.entries with
  | nil =>
    have none : e.entryPoints.entries = [] := (hentries ▸ h.entryPoints).symm.eq_nil
    rw [hentries] at hs
    rw [none]
    have mains : Analysis.mains d.world.packages d.world.functions =
        Analysis.mains e.world.packages e.world.functions :=
      Analysis.mains_eq_of_perm hd.distinct_world.packages (hd.perm_packages distinct h)
        (hd.perm_functions distinct h) fun f hf => (hd.texts_world.functions f hf).1
    dsimp only at hs ⊢
    rw [Analysis.discover, ← mains]
    exact ⟨ids, hs, .refl ids⟩
  | cons v vs =>
    have some : e.entryPoints.entries ≠ [] := fun hn => by
      have hnone := hn ▸ h.entryPoints
      rw [hentries] at hnone
      exact List.cons_ne_nil v vs hnone.eq_nil
    have known : d.unknownStarts d.world = [] := by
      rw [hentries] at hs
      dsimp only at hs
      split at hs
      · assumption
      · split at hs <;> cases hs
    have known' : e.unknownStarts e.world = [] := by
      have knows (id : Atom) : e.world.knowsFunction id = d.world.knowsFunction id := by
        rw [World.knowsFunction, World.knowsFunction,
          Roster.find?_perm hd.distinct_world.functions (hd.perm_functions distinct h)]
      have perm := h.entryPoints.filter fun v => !(Atom.ofJson? v).any e.world.knowsFunction
      have same : d.unknownStarts d.world =
          d.entryPoints.entries.filter fun v => !(Atom.ofJson? v).any e.world.knowsFunction := by
        simp only [Document.unknownStarts, funext knows]
      rw [← same, known] at perm
      exact perm.symm.eq_nil
    have ids_eq : ids = d.entryPoints.entries.filterMap Atom.ofJson? := by
      rw [hentries] at hs ⊢
      dsimp only at hs
      rw [known] at hs
      cases hs
      rfl
    refine ⟨e.entryPoints.entries.filterMap Atom.ofJson?, ?_, ?_⟩
    · cases he' : e.entryPoints.entries with
      | nil => exact absurd he' some
      | cons u us =>
        dsimp only
        rw [known']
    · rw [ids_eq]
      exact h.entryPoints.filterMap _

theorem exists_load {a : Analysis} (ha : d.load = .ok a) : ∃ b, e.load = .ok b ∧ a.Reordered b := by
  obtain ⟨-, errors, -, ids, hs, rfl⟩ := load_eq_ok_iff.1 ha
  have he := hd.reordered h
  obtain ⟨ids', hs', perm⟩ := hd.exists_starts distinct h hs
  have errors' : e.packageErrors = [] := by
    have perm := h.packages.flatMap_right fun p => p.errors.map fun m => (p.path.inSentence, m)
    change d.packageErrors.Perm e.packageErrors at perm
    rw [errors] at perm
    exact perm.symm.eq_nil
  refine ⟨_, load_eq_ok_iff.2 ⟨he.packages, errors', he.misfit?_eq_none, ids', hs', rfl⟩, ?_⟩
  exact ⟨hd.perm_packages distinct h, hd.perm_functions distinct h,
    h.calls.filterMap CallEntry.call?, perm, h.program⟩

end WellTyped

end Document

/-- A value as it is, or a list of the same items in another order. -/
inductive Json.Rearranged : Json → Json → Prop where
  | same (v : Json) : Rearranged v v
  | items {xs ys : List Json} : xs.Perm ys → Rearranged (.array xs) (.array ys)

theorem Json.Rearranged.isGiven_eq {v w : Json} (h : Rearranged v w) : v.isGiven = w.isGiven := by
  cases h with
  | same => rfl
  | items perm => rw [isGiven, isGiven, perm.isEmpty_eq]

namespace Section

variable {α : Type} {read : Json → Reading α} {xs ys : List Json}

theorem collect_misfit : (collect read xs).misfit = none ↔ ∀ v ∈ xs, (read v).2 = none := by
  induction xs with
  | nil => simp [collect]
  | cons v vs ih =>
    rw [collect, List.forall_mem_cons]
    match hr : read v with
    | (entry, some m) => simp
    | (entry, none) => simpa using ih

theorem collect_entries (h : ∀ v ∈ xs, (read v).2 = none) :
    (collect read xs).entries = xs.filterMap fun v => (read v).1 := by
  induction xs with
  | nil => rfl
  | cons v vs ih =>
    rw [List.forall_mem_cons] at h
    have rest := ih h.2
    rw [collect]
    match hr : read v with
    | (entry, some m) =>
      rw [hr] at h
      cases h.1
    | (none, none) =>
      rw [List.filterMap_cons_none (by rw [hr])]
      simpa using rest
    | (some x, none) =>
      rw [List.filterMap_cons_some (by rw [hr])]
      simpa using rest

theorem perm_ofValue {v w : Json} (h : Json.Rearranged v w) (fits : (ofValue read v).misfit = none) :
    (ofValue read v).entries.Perm (ofValue read w).entries ∧
      (ofValue read v).misfit = (ofValue read w).misfit := by
  cases h with
  | same => exact ⟨.refl _, rfl⟩
  | @items xs ys perm =>
    change (collect read xs).misfit = none at fits
    change (collect read xs).entries.Perm (collect read ys).entries ∧
      (collect read xs).misfit = (collect read ys).misfit
    have left := collect_misfit.1 fits
    have right : ∀ v ∈ ys, (read v).2 = none := fun v hv => left v (perm.mem_iff.2 hv)
    rw [fits, collect_misfit.2 right, collect_entries left, collect_entries right]
    exact ⟨perm.filterMap _, rfl⟩

theorem perm_ofObjects {read : List (String × Json) → Reading α} {v w : Option Json}
    (h : Option.Rel Json.Rearranged v w) (fits : (ofObjects read v).misfit = none) :
    (ofObjects read v).entries.Perm (ofObjects read w).entries ∧
      (ofObjects read v).misfit = (ofObjects read w).misfit := by
  cases h with
  | none => exact ⟨.refl _, rfl⟩
  | some h => exact perm_ofValue h fits

end Section

namespace Document

/-- The fields of two payloads: their lists hold the same items, each in some order. -/
structure Rearranged (fields fields' : List (String × Json)) : Prop where
  lists : ∀ name ∈ ["packages", "functions", "edges", "entry_points"],
    Option.Rel Json.Rearranged (Json.fieldOf? name fields) (Json.fieldOf? name fields')
  program : Json.fieldOf? "program" fields = Json.fieldOf? "program" fields'

theorem Rearranged.reordered {fields fields' : List (String × Json)} (h : Rearranged fields fields')
    (hd : (ofFields fields).WellTyped) : (ofFields fields).Reordered (ofFields fields') := by
  obtain ⟨packages, misfitP⟩ := Section.perm_ofObjects (h.lists "packages" (by simp)) hd.packages
  obtain ⟨functions, misfitF⟩ := Section.perm_ofObjects (h.lists "functions" (by simp)) hd.functions
  obtain ⟨calls, misfitC⟩ := Section.perm_ofObjects (h.lists "edges" (by simp)) hd.calls
  have starts : Json.Rearranged (Json.fieldOf "entry_points" fields)
      (Json.fieldOf "entry_points" fields') := by
    have field := h.lists "entry_points" (by simp)
    unfold Json.fieldOf
    generalize Json.fieldOf? "entry_points" fields = v at field
    generalize Json.fieldOf? "entry_points" fields' = w at field
    cases field with
    | none => exact .same _
    | some h => exact h
  have given := starts.isGiven_eq
  have entryPoints :
      (ofFields fields).entryPoints.entries.Perm (ofFields fields').entryPoints.entries ∧
      (ofFields fields).entryPoints.misfit = (ofFields fields').entryPoints.misfit := by
    have fits := hd.entryPoints
    unfold ofFields at fits ⊢
    dsimp only at fits ⊢
    rw [← given]
    split
    · rename_i hg
      rw [if_pos hg] at fits
      exact Section.perm_ofValue starts fits
    · exact ⟨.refl _, rfl⟩
  have program : (ofFields fields).program = (ofFields fields').program :=
    congrArg (fun v : Option Json => v.getD (.text "")) h.program
  exact
    ⟨packages, functions, calls, entryPoints.1, ⟨misfitP, misfitF, misfitC, entryPoints.2⟩, program⟩

end Document

end CallAtlas
