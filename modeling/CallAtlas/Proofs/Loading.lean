import CallAtlas.Analysis.Assembly
import CallAtlas.Proofs.Outline
import Mathlib.Data.List.Basic
import Mathlib.Data.List.Induction
import Mathlib.Data.List.Nodup
import Mathlib.Data.Set.List

set_option autoImplicit false

/-!
# Loading documents that are well typed

What is known of a package never changes while functions are met: a package is described by its entry
or implied by its path. So each function is known by its entry, or by its id if it has none, whatever
was met before it.
-/

namespace CallAtlas

namespace Roster

variable {α κ : Type} [DecidableEq κ] {key : α → κ} {combine : α → α → α} {x y : α} {xs : List α}

theorem putWith_of_not_mem (h : key x ∉ xs.map key) : putWith key combine x xs = xs ++ [x] := by
  induction xs with
  | nil => rfl
  | cons z zs ih =>
    rw [List.map_cons, List.mem_cons, not_or] at h
    rw [putWith, if_neg fun e => h.1 e.symm, ih h.2]
    rfl

theorem foldl_putWith_of_nodup (h : (xs.map key).Nodup) :
    xs.foldl (fun ys x => putWith key combine x ys) [] = xs := by
  induction xs using List.reverseRecOn with
  | nil => rfl
  | append_singleton xs x ih =>
    rw [List.map_append, List.nodup_append] at h
    obtain ⟨before, -, apart⟩ := h
    have fresh : key x ∉ xs.map key :=
      fun known => apart _ known _ (List.mem_singleton_self (key x)) rfl
    rw [List.foldl_append, ih before]
    exact putWith_of_not_mem fresh

theorem find?_concat (k : κ) :
    find? key k (xs ++ [x]) = (find? key k xs).or (if key x = k then some x else none) := by
  rw [find?, List.find?_append]
  by_cases h : key x = k <;> simp [find?, h]

theorem mem_putWith (h : y ∈ putWith key combine x xs) :
    y ∈ xs ∨ y = x ∨ ∃ z ∈ xs, key z = key x ∧ y = combine z x := by
  induction xs with
  | nil =>
    rw [putWith, List.mem_singleton] at h
    exact .inr (.inl h)
  | cons z zs ih =>
    rw [putWith] at h
    split at h
    · rename_i same
      rcases List.mem_cons.1 h with rfl | h
      · exact .inr (.inr ⟨z, List.mem_cons_self, same, rfl⟩)
      · exact .inl (List.mem_cons_of_mem z h)
    · rcases List.mem_cons.1 h with rfl | h
      · exact .inl List.mem_cons_self
      · rcases ih h with h | h | ⟨u, hu, h⟩
        · exact .inl (List.mem_cons_of_mem z h)
        · exact .inr (.inl h)
        · exact .inr (.inr ⟨u, List.mem_cons_of_mem z hu, h⟩)

theorem find?_eq_some_iff (nodup : (xs.map key).Nodup) {k : κ} :
    find? key k xs = some x ↔ x ∈ xs ∧ key x = k := by
  constructor
  · exact fun hf => ⟨mem_of_find? hf, key_of_find? hf⟩
  · rintro ⟨hx, rfl⟩
    have known : (find? key (key x) xs).isSome := find?_isSome.2 (List.mem_map_of_mem hx)
    obtain ⟨y, hy⟩ := Option.isSome_iff_exists.1 known
    have same : y = x := List.inj_on_of_nodup_map nodup (mem_of_find? hy) hx (key_of_find? hy)
    rw [hy, same]

theorem find?_perm {xs ys : List α} (nodup : (xs.map key).Nodup) (h : xs.Perm ys) (k : κ) :
    find? key k xs = find? key k ys := by
  refine Option.ext fun x => ?_
  rw [find?_eq_some_iff nodup, find?_eq_some_iff ((h.map key).nodup_iff.1 nodup), h.mem_iff]

end Roster

theorem Atom.isText_of_ofJson? {v : Json} {x : Atom} (h : ofJson? v = some x) (hv : v.isText) :
    x.isText := by
  obtain ⟨s, rfl⟩ := Json.isText_iff.1 hv
  cases h
  rfl

theorem Json.exists_atom_of_isText {v : Json} (h : v.isText) :
    ∃ x, Atom.ofJson? v = some x ∧ x.isText := by
  obtain ⟨s, rfl⟩ := isText_iff.1 h
  exact ⟨.text s, rfl, rfl⟩

theorem Atom.exists_map_text {xs : List Atom} (texts : ∀ x ∈ xs, x.isText) :
    ∃ names : List String, xs = names.map .text := by
  have range : xs ∈ Set.range (List.map Atom.text) := by
    rw [Set.range_list_map]
    intro x hx
    obtain ⟨name, rfl⟩ := isText_iff.1 (texts x hx)
    exact ⟨name, rfl⟩
  obtain ⟨names, rfl⟩ := range
  exact ⟨names, rfl⟩

theorem Option.isText_getD {v : Option Json} {w : Json} (hv : v.all Json.isText) (hw : w.isText) :
    (v.getD w).isText := by
  cases v with
  | none => exact hw
  | some v => exact hv

namespace FunctionEntry

def Keyed (e : FunctionEntry) : Prop :=
  (e.id.isNull ∨ e.id.isText) ∧ (e.package.isNull ∨ e.package.isText)

variable {e : FunctionEntry} {id path : Atom}

def id? (e : FunctionEntry) : Option Atom := e.keys?.map Prod.fst

theorem keys?_eq_some (h : e.keys? = some (id, path)) :
    e.describes = true ∧ Atom.ofJson? e.id = some id ∧ Atom.ofJson? e.package = some path := by
  unfold keys? at h
  split at h
  · rename_i hd
    split at h
    · rename_i i p hi hp
      cases h
      exact ⟨hd, hi, hp⟩
    · cases h
  · cases h

theorem Keyed.isText_of_describes (typed : e.Keyed) (h : e.describes = true) :
    e.id.isText ∧ e.package.isText := by
  rw [describes, Bool.and_eq_true, Bool.not_eq_true'] at h
  constructor
  · refine typed.1.resolve_left fun hn => ?_
    cases hi : e.id <;> simp [hi, Json.isNull, Json.isGiven] at hn h
  · exact typed.2.resolve_left fun hn => by simp [hn] at h

theorem Keyed.isText_of_keys? (typed : e.Keyed) (h : e.keys? = some (id, path)) :
    id.isText ∧ path.isText := by
  obtain ⟨hd, hi, hp⟩ := keys?_eq_some h
  obtain ⟨hid, hpath⟩ := typed.isText_of_describes hd
  exact ⟨Atom.isText_of_ofJson? hi hid, Atom.isText_of_ofJson? hp hpath⟩

end FunctionEntry

namespace World

variable {w : World} {path q : Atom}

theorem key_packageAt (w : World) (path : Atom) : (w.packageAt path).key = path.key := by
  unfold packageAt
  cases h : Roster.find? Package.key path.key w.packages with
  | none => rfl
  | some p => exact Roster.key_of_find? h

theorem packageAt_withPackage (hp : path.isText) (hq : q.isText) :
    (w.withPackage path).packageAt q = w.packageAt q := by
  change (Roster.find? Package.key q.key
    (Roster.add Package.key (w.packageAt path) w.packages)).getD _ = w.packageAt q
  rw [Roster.add, key_packageAt]
  split
  · rfl
  · rename_i unknown
    have unknown : Roster.find? Package.key path.key w.packages = none := by simpa using unknown
    rw [Roster.find?_concat, key_packageAt]
    by_cases e : path = q
    · subst e
      rw [if_pos rfl, packageAt, unknown]
      rfl
    · have ne : path.key ≠ q.key := by rwa [Atom.key_of_isText hp, Atom.key_of_isText hq]
      rw [if_neg ne, Option.or_none]
      rfl

theorem mem_packages_withPackage {p : Package} :
    p ∈ (w.withPackage path).packages ↔ p ∈ w.packages ∨ p = w.packageAt path := by
  unfold withPackage
  rw [Roster.add, key_packageAt]
  dsimp only
  split
  · rename_i known
    obtain ⟨x, hx⟩ := Option.isSome_iff_exists.1 known
    have found : w.packageAt path = x := by rw [packageAt, hx]; rfl
    rw [found]
    constructor
    · exact .inl
    · rintro (h | rfl)
      · exact h
      · exact Roster.mem_of_find? hx
  · rw [List.mem_append, List.mem_singleton]

theorem nodup_packages_withPackage (h : (w.packages.map Package.key).Nodup) :
    ((w.withPackage path).packages.map Package.key).Nodup := Roster.nodup_keys_add _ _ h

/-- Two worlds know the same of each package, by its entry or by its path. -/
def Agree (w v : World) : Prop := ∀ path : Atom, path.isText → w.packageAt path = v.packageAt path

theorem Agree.symm {v : World} (h : w.Agree v) : v.Agree w := fun path hp => (h path hp).symm

theorem Agree.trans {v u : World} (h : w.Agree v) (k : v.Agree u) : w.Agree u :=
  fun path hp => (h path hp).trans (k path hp)

theorem Agree.described {v : World} (h : w.Agree v) (e : FunctionEntry) (id : Atom)
    (hp : path.isText) : w.described e id path = v.described e id path := by
  rw [World.described, World.described, h path hp]

theorem Agree.implied {v : World} (h : w.Agree v) (id : Atom) : w.implied id = v.implied id := by
  unfold World.implied
  dsimp only
  rw [h _ rfl]

theorem agree_withPackage (hp : path.isText) : (w.withPackage path).Agree w :=
  fun _ hq => packageAt_withPackage hp hq

def describe? (w : World) (e : FunctionEntry) : Option Function :=
  e.keys?.map fun k => w.described e k.1 k.2

theorem declare_of_keys? {e : FunctionEntry} {id : Atom} (h : e.keys? = some (id, path)) :
    w.declare e = { w.withPackage path with
      functions := Roster.putWith Function.id Function.renewed
        ((w.withPackage path).described e id path) w.functions } := by
  rw [declare, h]
  rfl

theorem agree_declare {e : FunctionEntry} (typed : e.Keyed) : (w.declare e).Agree w := by
  cases h : e.keys? with
  | none =>
    rw [declare, h]
    exact fun _ _ => rfl
  | some k =>
    obtain ⟨id, path⟩ := k
    rw [declare_of_keys? h]
    exact agree_withPackage (typed.isText_of_keys? h).2

/-- Entries for different functions add these one after the other. -/
theorem functions_foldl_declare {es : List FunctionEntry} (typed : ∀ e ∈ es, e.Keyed)
    (nodup : (w.functions.map Function.id ++ es.filterMap FunctionEntry.id?).Nodup) :
    (es.foldl declare w).functions = w.functions ++ es.filterMap w.describe? := by
  induction es generalizing w with
  | nil => simp
  | cons e es ih =>
    have te := typed e List.mem_cons_self
    have tes (d : FunctionEntry) (hd : d ∈ es) := typed d (List.mem_cons_of_mem e hd)
    have same : es.filterMap (w.declare e).describe? = es.filterMap w.describe? := by
      refine List.filterMap_congr fun d hd => ?_
      unfold describe?
      cases hk : d.keys? with
      | none => rfl
      | some k =>
        have hp := ((tes d hd).isText_of_keys? hk).2
        exact congrArg some ((agree_declare te).described d k.1 hp)
    rw [List.foldl_cons]
    cases hk : e.keys? with
    | none =>
      have skip : w.declare e = w := by rw [declare, hk]
      have hd : w.describe? e = none := by rw [describe?, hk]; rfl
      have hi : e.id? = none := by rw [FunctionEntry.id?, hk]; rfl
      rw [List.filterMap_cons_none hi] at nodup
      rw [skip, ih tes nodup, List.filterMap_cons_none hd]
    | some k =>
      obtain ⟨id, path⟩ := k
      obtain ⟨hid, hpath⟩ := te.isText_of_keys? hk
      have hi : e.id? = some id := by rw [FunctionEntry.id?, hk]; rfl
      have hd : w.describe? e = some (w.described e id path) := by rw [describe?, hk]; rfl
      rw [List.filterMap_cons_some hi] at nodup
      have fresh : (w.described e id path).id ∉ w.functions.map Function.id := by
        intro hm
        have hm : id ∈ w.functions.map Function.id := by
          rwa [described, Atom.key_of_isText hid] at hm
        exact (List.nodup_append.1 nodup).2.2 id hm id List.mem_cons_self rfl
      have step : (w.declare e).functions = w.functions ++ [w.described e id path] := by
        rw [declare_of_keys? hk, (agree_withPackage hpath).described e id hpath]
        exact Roster.putWith_of_not_mem fresh
      have rest : ((w.declare e).functions.map Function.id ++
          es.filterMap FunctionEntry.id?).Nodup := by
        rw [step, List.map_append, List.append_assoc]
        simpa [described, Atom.key_of_isText hid] using nodup
      rw [ih tes rest, same, step, List.filterMap_cons_some hd, List.append_assoc]
      rfl

theorem mem_packages_foldl_declare {es : List FunctionEntry} {p : Package}
    (typed : ∀ e ∈ es, e.Keyed) :
    p ∈ (es.foldl declare w).packages ↔
      p ∈ w.packages ∨ ∃ e ∈ es, ∃ k, e.keys? = some k ∧ p = w.packageAt k.2 := by
  induction es generalizing w with
  | nil => simp
  | cons e es ih =>
    have te := typed e List.mem_cons_self
    have tes (d : FunctionEntry) (hd : d ∈ es) := typed d (List.mem_cons_of_mem e hd)
    have step : p ∈ (w.declare e).packages ↔
        p ∈ w.packages ∨ ∃ k, e.keys? = some k ∧ p = w.packageAt k.2 := by
      cases hk : e.keys? with
      | none =>
        have skip : w.declare e = w := by rw [declare, hk]
        simp [skip]
      | some k =>
        obtain ⟨id, path⟩ := k
        rw [declare_of_keys? hk]
        simpa using mem_packages_withPackage
    have same (d : FunctionEntry) (hd : d ∈ es) (k : Atom × Atom) (hk : d.keys? = some k) :
        (w.declare e).packageAt k.2 = w.packageAt k.2 :=
      agree_declare te k.2 ((tes d hd).isText_of_keys? hk).2
    rw [List.foldl_cons, ih tes, step, List.exists_mem_cons_iff, or_assoc]
    refine or_congr_right (or_congr_right ?_)
    constructor
    · rintro ⟨d, hd, k, hk, hp⟩
      exact ⟨d, hd, k, hk, by rw [hp, same d hd k hk]⟩
    · rintro ⟨d, hd, k, hk, hp⟩
      exact ⟨d, hd, k, hk, by rw [hp, same d hd k hk]⟩

theorem agree_foldl_declare {es : List FunctionEntry} (typed : ∀ e ∈ es, e.Keyed) :
    (es.foldl declare w).Agree w := by
  refine List.foldlRecOn (motive := fun v => v.Agree w) es declare (fun _ _ => rfl) ?_
  exact fun v hv e he => (agree_declare (typed e he)).trans hv

structure Distinct (w : World) : Prop where
  packages : (w.packages.map Package.key).Nodup
  functions : (w.functions.map Function.id).Nodup

theorem Distinct.declare (h : w.Distinct) (e : FunctionEntry) : (w.declare e).Distinct := by
  cases hk : e.keys? with
  | none =>
    rw [World.declare, hk]
    exact h
  | some k =>
    obtain ⟨id, path⟩ := k
    have keeps (x y : Function) (he : y.id = x.id) : (y.renewed x).id = x.id := rfl
    rw [declare_of_keys? hk]
    exact ⟨nodup_packages_withPackage h.packages, Roster.nodup_keys_putWith keeps _ h.functions⟩

/-- The package that the id of a function implies. -/
def homeOf (id : Atom) : Atom := .text (pathOfId id.inSentence)

theorem mention_known {id : Atom} (hi : id.isText) (h : id ∈ w.functions.map Function.id) :
    w.mention id = w := by
  have known : w.knowsFunction id = true := by
    rwa [knowsFunction, Roster.find?_isSome, Atom.key_of_isText hi]
  rw [mention, if_pos known]

theorem mention_unknown {id : Atom} (hi : id.isText) (h : id ∉ w.functions.map Function.id) :
    w.mention id =
      { w.withPackage (homeOf id) with functions := w.functions ++ [w.implied id] } := by
  have unknown : ¬ w.knowsFunction id = true := by
    rwa [knowsFunction, Roster.find?_isSome, Atom.key_of_isText hi]
  have agree : (w.withPackage (homeOf id)).Agree w := agree_withPackage rfl
  rw [mention, if_neg unknown, ← agree.implied id]
  rfl

theorem agree_mention {id : Atom} (hi : id.isText) : (w.mention id).Agree w := by
  by_cases h : id ∈ w.functions.map Function.id
  · rw [mention_known hi h]
    exact fun _ _ => rfl
  · rw [mention_unknown hi h]
    exact fun _ hq => packageAt_withPackage rfl hq

theorem agree_foldl_mention {ids : List Atom} (texts : ∀ id ∈ ids, id.isText) :
    (ids.foldl mention w).Agree w :=
  List.foldlRecOn (motive := fun v : World => v.Agree w) _ _ (fun _ _ => rfl)
    fun _ hv id hid => (agree_mention (texts id hid)).trans hv

theorem id_implied {id : Atom} (hi : id.isText) : (w.implied id).id = id := Atom.key_of_isText hi

theorem mem_ids_mention {id x : Atom} (hi : id.isText) :
    x ∈ (w.mention id).functions.map Function.id ↔ x ∈ w.functions.map Function.id ∨ x = id := by
  by_cases h : id ∈ w.functions.map Function.id
  · rw [mention_known hi h]
    constructor
    · exact .inl
    · rintro (hx | rfl)
      · exact hx
      · exact h
  · rw [mention_unknown hi h]
    simp [id_implied hi]

theorem mem_ids_foldl_mention {ids : List Atom} (texts : ∀ id ∈ ids, id.isText) {x : Atom} :
    x ∈ (ids.foldl mention w).functions.map Function.id ↔
      x ∈ w.functions.map Function.id ∨ x ∈ ids := by
  induction ids generalizing w with
  | nil => simp
  | cons id ids ih =>
    rw [List.foldl_cons, ih fun x hx => texts x (List.mem_cons_of_mem id hx),
      mem_ids_mention (texts id List.mem_cons_self), List.mem_cons, or_assoc]

theorem mem_mention {id : Atom} (hi : id.isText) :
    (∀ f, f ∈ (w.mention id).functions ↔
      f ∈ w.functions ∨ id ∉ w.functions.map Function.id ∧ f = w.implied id) ∧
    (∀ p, p ∈ (w.mention id).packages ↔
      p ∈ w.packages ∨ id ∉ w.functions.map Function.id ∧ p = w.packageAt (homeOf id)) := by
  by_cases h : id ∈ w.functions.map Function.id
  · rw [mention_known hi h]
    simp [h]
  · rw [mention_unknown hi h]
    refine ⟨fun f => ?_, fun p => ?_⟩
    · simp [h]
    · simpa [h] using mem_packages_withPackage

theorem exists_unknown_cons {id : Atom} (hi : id.isText) {ids : List Atom} {p : Atom → Prop} :
    (∃ x ∈ id :: ids, x ∉ w.functions.map Function.id ∧ p x) ↔
      (id ∉ w.functions.map Function.id ∧ p id) ∨
        ∃ x ∈ ids, x ∉ (w.mention id).functions.map Function.id ∧ p x := by
  simp only [mem_ids_mention hi, not_or]
  constructor
  · rintro ⟨x, hx, hu, hp⟩
    by_cases e : x = id
    · exact .inl ⟨e ▸ hu, e ▸ hp⟩
    · exact .inr ⟨x, (List.mem_cons.1 hx).resolve_left e, ⟨hu, e⟩, hp⟩
  · rintro (⟨hu, hp⟩ | ⟨x, hx, ⟨hu, -⟩, hp⟩)
    · exact ⟨id, List.mem_cons_self, hu, hp⟩
    · exact ⟨x, List.mem_cons_of_mem id hx, hu, hp⟩

/-- Each id that is not known adds the function and the package that it implies. -/
theorem mem_foldl_mention {ids : List Atom} (texts : ∀ id ∈ ids, id.isText) :
    (∀ f, f ∈ (ids.foldl mention w).functions ↔ f ∈ w.functions ∨
      ∃ id ∈ ids, id ∉ w.functions.map Function.id ∧ f = w.implied id) ∧
    (∀ p, p ∈ (ids.foldl mention w).packages ↔ p ∈ w.packages ∨
      ∃ id ∈ ids, id ∉ w.functions.map Function.id ∧ p = w.packageAt (homeOf id)) := by
  induction ids generalizing w with
  | nil => simp
  | cons id ids ih =>
    have hi := texts id List.mem_cons_self
    have agree := agree_mention (w := w) hi
    obtain ⟨functions, packages⟩ := ih (w := w.mention id)
      fun x hx => texts x (List.mem_cons_of_mem id hx)
    refine ⟨fun f => ?_, fun p => ?_⟩
    · rw [List.foldl_cons, functions, (mem_mention hi).1, exists_unknown_cons hi, or_assoc]
      simp only [agree.implied]
    · rw [List.foldl_cons, packages, (mem_mention hi).2, exists_unknown_cons hi, or_assoc]
      simp only [agree (homeOf _) rfl]

theorem Distinct.mention (h : w.Distinct) {id : Atom} (hi : id.isText) :
    (w.mention id).Distinct := by
  by_cases hm : id ∈ w.functions.map Function.id
  · rw [mention_known hi hm]
    exact h
  · rw [mention_unknown hi hm]
    refine ⟨nodup_packages_withPackage h.packages, ?_⟩
    rw [List.map_append, List.map_singleton, id_implied hi, List.nodup_append]
    refine ⟨h.functions, List.nodup_singleton id, ?_⟩
    rintro x hx y hy rfl
    exact hm (List.mem_singleton.1 hy ▸ hx)

structure Texts (w : World) : Prop where
  paths : ∀ p ∈ w.packages, p.path.isText
  functions : ∀ f ∈ w.functions,
    f.id.isText ∧ f.package.isText ∧ f.name.isText ∧ f.recv.all Json.isText

theorem Texts.withPackage (h : w.Texts) (hp : path.isText) : (w.withPackage path).Texts where
  paths p hm := by
    rcases mem_packages_withPackage.1 hm with hm | rfl
    · exact h.paths p hm
    · have key := w.key_packageAt path
      rw [Package.key, Atom.key_of_isText hp] at key
      rw [← Atom.isText_key, key]
      exact hp
  functions := h.functions

theorem Texts.declare (h : w.Texts) {e : FunctionEntry}
    (typed : e.Keyed) (name : e.name.all Json.isText) (recv : e.recv.all Json.isText) :
    (w.declare e).Texts := by
  cases hk : e.keys? with
  | none =>
    rw [World.declare, hk]
    exact h
  | some k =>
    obtain ⟨id, path⟩ := k
    obtain ⟨hid, hpath⟩ := typed.isText_of_keys? hk
    rw [declare_of_keys? hk]
    refine ⟨(h.withPackage hpath).paths, fun f hf => ?_⟩
    have name : (e.name.getD (.text (nameOfId id.inSentence))).isText :=
      Option.isText_getD name rfl
    have key : id.key.isText := by rwa [Atom.isText_key]
    rcases Roster.mem_putWith hf with hf | rfl | ⟨known, -, -, rfl⟩
    · exact h.functions f hf
    · exact ⟨key, hpath, name, recv⟩
    · exact ⟨key, hpath, name, recv⟩

theorem Texts.mention (h : w.Texts) {id : Atom} (hi : id.isText) : (w.mention id).Texts := by
  by_cases hm : id ∈ w.functions.map Function.id
  · rw [mention_known hi hm]
    exact h
  · rw [mention_unknown hi hm]
    have home : (homeOf id).isText := rfl
    refine ⟨(h.withPackage home).paths, fun f hf => ?_⟩
    rcases List.mem_append.1 hf with hf | hf
    · exact h.functions f hf
    · rw [List.mem_singleton.1 hf]
      refine ⟨by rwa [id_implied hi], rfl, ?_, rfl⟩
      unfold World.implied
      dsimp only
      split
      · obtain ⟨s, rfl⟩ := Atom.isText_iff.1 hi
        rfl
      · rfl

end World

namespace Document

variable {d : Document}

def ids (d : Document) : List Atom := d.functions.entries.filterMap FunctionEntry.id?

def ends (d : Document) : List Atom := d.callList.flatMap fun c => [c.caller, c.callee]

theorem world_eq (d : Document) : d.world = d.ends.foldl World.mention d.described := by
  rw [ends, List.foldl_flatMap]
  rfl

/-- What holds of the packages that are described, and still holds when a package is implied, holds of
all packages of the world. -/
theorem packages_world {P : List Package → Prop} (described : P d.packaged.packages)
    (implied : ∀ (w : World) path, P w.packages → P (w.withPackage path).packages) :
    P d.world.packages := by
  have declared : P d.described.packages := by
    refine List.foldlRecOn (motive := fun w : World => P w.packages) _ _ described fun w hw e _ => ?_
    cases hk : e.keys? with
    | none => rwa [World.declare, hk]
    | some k =>
      rw [World.declare_of_keys? hk]
      exact implied w k.2 hw
  rw [world_eq]
  refine List.foldlRecOn (motive := fun w : World => P w.packages) _ _ declared fun w hw id _ => ?_
  unfold World.mention
  split
  · exact hw
  · exact implied w _ hw

theorem load_eq_ok_iff {a : Analysis} :
    d.load = .ok a ↔
      d.packages.misfit = none ∧ d.packageErrors = [] ∧ d.misfit? = none ∧
        ∃ ids, d.starts d.world = .ok ids ∧
          { packages := d.world.packages, functions := d.world.functions, calls := d.callList
            entryPoints := ids, program := d.program } = a := by
  unfold load
  cases d.packages.misfit with
  | some m => simp
  | none =>
    cases he : d.packageErrors.isEmpty with
    | false =>
      have : d.packageErrors ≠ [] := by simpa using he
      simp [this]
    | true =>
      have : d.packageErrors = [] := by simpa using he
      cases d.misfit? with
      | some m => simp
      | none => cases hs : d.starts d.world <;> simp [this, hs]

namespace WellTyped

variable (hd : d.WellTyped)

include hd

theorem keyed : ∀ e ∈ d.functions.entries, e.Keyed :=
  fun e he => ⟨(hd.names e he).1, (hd.names e he).2.1⟩

theorem call_texts {c : Call} (hc : c ∈ d.callList) :
    c.caller.isText ∧ c.callee.isText ∧ c.site.isText := by
  obtain ⟨e, he, hcall⟩ := List.mem_filterMap.1 hc
  obtain ⟨hcaller, hcallee, hsite⟩ := hd.ends e he
  have text {v : Json} {x : Atom} (hv : v.isNull ∨ v.isText) (hx : Atom.ofJson? v = some x) :
      x.key.isText := by
    rw [Atom.isText_key]
    refine Atom.isText_of_ofJson? hx (hv.resolve_left fun hn => ?_)
    cases v with
    | null => cases hx
    | text | bool | int | decimal | array | object => cases hn
  unfold CallEntry.call? at hcall
  split at hcall
  · rename_i u v hu hv
    cases hcall
    exact ⟨text hcaller hu, text hcallee hv, hsite⟩
  · cases hcall

theorem ends_texts : ∀ id ∈ d.ends, id.isText := by
  intro id hid
  obtain ⟨c, hc, hi⟩ := List.mem_flatMap.1 hid
  obtain ⟨hcaller, hcallee, -⟩ := hd.call_texts hc
  rcases List.mem_pair.1 hi with rfl | rfl
  · exact hcaller
  · exact hcallee

theorem texts_packaged : d.packaged.Texts where
  paths := by
    refine List.foldlRecOn (motive := fun ps : List Package => ∀ p ∈ ps, p.path.isText) _ _
      (fun _ hp => nomatch hp) ?_
    intro ps hps e he p hp
    have hpath := (hd.paths e he).1
    rcases Roster.mem_putWith hp with hp | rfl | ⟨known, -, -, rfl⟩
    · exact hps p hp
    · exact hpath
    · exact hpath
  functions _ hf := nomatch hf

theorem texts_world : d.world.Texts := by
  have described : d.described.Texts :=
    List.foldlRecOn (motive := World.Texts) _ _ hd.texts_packaged fun _ hw e he =>
      hw.declare (hd.keyed e he) (hd.names e he).2.2.1 (hd.names e he).2.2.2.1
  rw [world_eq]
  exact List.foldlRecOn (motive := World.Texts) _ _ described
    fun _ hw id hid => hw.mention (hd.ends_texts id hid)

omit hd in
theorem distinct_packaged : d.packaged.Distinct where
  packages := by
    have keeps (x y : Package) (he : y.key = x.key) : (y.renewed x).key = x.key := rfl
    exact List.foldlRecOn (motive := fun ps : List Package => (ps.map Package.key).Nodup) _ _ .nil
      fun _ hps e _ => Roster.nodup_keys_putWith keeps e.package hps
  functions := .nil

theorem distinct_world : d.world.Distinct := by
  have described : d.described.Distinct :=
    List.foldlRecOn (motive := World.Distinct) _ _ distinct_packaged fun _ hw e _ => hw.declare e
  rw [world_eq]
  exact List.foldlRecOn (motive := World.Distinct) _ _ described
    fun _ hw id hid => hw.mention (hd.ends_texts id hid)

theorem names_world : ∀ p ∈ d.world.packages, p.name.isText := by
  refine packages_world (P := fun ps => ∀ p ∈ ps, p.name.isText) ?_ fun w path named p hp => ?_
  · refine List.foldlRecOn (motive := fun ps : List Package => ∀ p ∈ ps, p.name.isText) _ _
      (fun _ hp => nomatch hp) ?_
    intro ps hps e he p hp
    have name : e.package.name.isText := Option.isText_getD (hd.paths e he).2 rfl
    rcases Roster.mem_putWith hp with hp | rfl | ⟨known, -, -, rfl⟩
    · exact hps p hp
    · exact name
    · exact name
  · rcases World.mem_packages_withPackage.1 hp with hp | rfl
    · exact named p hp
    · unfold World.packageAt
      cases found : Roster.find? Package.key path.key w.packages with
      | none => rfl
      | some q => exact named q (Roster.mem_of_find? found)

theorem mem_ids_of_mem_ends {id : Atom} (h : id ∈ d.ends) :
    id ∈ d.world.functions.map Function.id := by
  rw [world_eq, World.mem_ids_foldl_mention hd.ends_texts]
  exact .inr h

theorem mem_ids_of_starts {ids : List Atom} (h : d.starts d.world = .ok ids) :
    ∀ id ∈ ids, id.isText ∧ id ∈ d.world.functions.map Function.id := by
  intro id hid
  unfold Document.starts at h
  rw [hd.entryPoints] at h
  cases he : d.entryPoints.entries with
  | nil =>
    rw [he] at h
    dsimp only at h
    unfold Analysis.discover at h
    split at h
    · cases h
    · split at h
      · cases h
        rw [Analysis.mains, Atom.mem_sortedBy] at hid
        obtain ⟨f, hf, rfl⟩ := List.mem_map.1 hid
        have hf := (List.mem_filter.1 hf).1
        have text := (hd.texts_world.functions f hf).1
        rw [Function.idAsMet, Atom.shownAs_of_isText text]
        exact ⟨text, List.mem_map_of_mem hf⟩
      · cases h
  | cons v vs =>
    rw [he] at h
    dsimp only at h
    split at h
    · rename_i known
      cases h
      obtain ⟨x, hx, hi⟩ := List.mem_filterMap.1 hid
      have hx : x ∈ d.entryPoints.entries := he ▸ hx
      have text := Atom.isText_of_ofJson? hi (hd.starts x hx)
      have hk := List.filter_eq_nil_iff.1 known x hx
      rw [hi, Option.any_some, Bool.not_eq_true', Bool.not_eq_false, World.knowsFunction,
        Roster.find?_isSome, Atom.key_of_isText text] at hk
      exact ⟨text, hk⟩
    · split at h <;> cases h

variable {a : Analysis}

/-- What is loaded is closed. -/
theorem wellFormed_of_load (h : d.load = .ok a) : a.WellFormed := by
  obtain ⟨-, -, -, ids, hs, rfl⟩ := load_eq_ok_iff.1 h
  refine ⟨hd.distinct_world.functions, fun c hc => ?_, fun c hc => ?_, fun id hid => ?_⟩
  · exact hd.mem_ids_of_mem_ends (List.mem_flatMap.2 ⟨c, hc, List.mem_cons_self⟩)
  · exact hd.mem_ids_of_mem_ends
      (List.mem_flatMap.2 ⟨c, hc, List.mem_cons_of_mem _ List.mem_cons_self⟩)
  · obtain ⟨e, he, rfl⟩ := List.mem_map.1 hid
    obtain ⟨text, known⟩ := hd.mem_ids_of_starts hs e he
    rwa [Atom.key_of_isText text]

theorem textual_of_load (h : d.load = .ok a) : a.Textual := by
  obtain ⟨-, -, -, ids, -, rfl⟩ := load_eq_ok_iff.1 h
  have functions := hd.texts_world.functions
  exact ⟨fun f hf => (functions f hf).1, fun f hf => (functions f hf).2.1,
    fun f hf => (functions f hf).2.2.1, fun f hf => (functions f hf).2.2.2,
    fun c hc => (hd.call_texts hc).2.2⟩

theorem catalogued_of_load (h : d.load = .ok a) : a.Catalogued := by
  obtain ⟨-, -, -, ids, -, rfl⟩ := load_eq_ok_iff.1 h
  exact ⟨hd.distinct_world.packages, hd.texts_world.paths⟩

theorem program_of_load (h : d.load = .ok a) : a.program.isGiven → a.program.isText := by
  obtain ⟨-, -, -, ids, -, rfl⟩ := load_eq_ok_iff.1 h
  exact hd.program

end WellTyped

end Document

end CallAtlas
