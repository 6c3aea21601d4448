import CallAtlas.Proofs.Loading
import CallAtlas.Proofs.Views
import Mathlib

set_option autoImplicit false

/-!
# The closed world of a loaded analysis

While a document is loaded, packages and functions are declared, declared again and implied in any
order. `World.Settled` is what all of these steps keep: the package of every function is known, and
says whether the function is standard. So an analysis that was loaded is `Analysis.Closed`, and a
view of it names the package of a node by what is known of it.
-/

namespace CallAtlas

namespace World

variable {w v : World} {path : Atom} {f : Function}

/-- A function is known in one form, and its package is known and says whether it is standard. -/
structure Houses (w : World) (f : Function) : Prop where
  given : f.given = f.id
  met : f.met = f.id
  text : f.package.isText
  known : w.packageAt f.package ∈ w.packages
  std : f.std = (w.packageAt f.package).std

/-- What a world of texts keeps while it grows. -/
structure Settled (w : World) : Prop where
  paths : ∀ p ∈ w.packages, p.met = p.path
  functions : ∀ f ∈ w.functions, w.Houses f

theorem Houses.mono (h : w.Houses f) (agree : v.Agree w)
    (more : ∀ p ∈ w.packages, p ∈ v.packages) : v.Houses f where
  given := h.given
  met := h.met
  text := h.text
  known := by
    rw [agree f.package h.text]
    exact more _ h.known
  std := by rw [agree f.package h.text, h.std]

theorem Houses.renewed {g : Function} (h : w.Houses f) (hg : g.met = g.id) (same : g.id = f.id) :
    w.Houses (g.renewed f) where
  given := h.given
  met := hg.trans same
  text := h.text
  known := h.known
  std := h.std

theorem packageAt_mem_withPackage (hp : path.isText) :
    (w.withPackage path).packageAt path ∈ (w.withPackage path).packages := by
  rw [packageAt_withPackage hp hp, mem_packages_withPackage]
  exact .inr rfl

theorem find?_packages (known : w.packageAt path ∈ w.packages) :
    Roster.find? Package.key path.key w.packages = some (w.packageAt path) := by
  have key : path.key ∈ w.packages.map Package.key :=
    List.mem_map.2 ⟨_, known, key_packageAt w path⟩
  obtain ⟨p, hp⟩ := Option.isSome_iff_exists.1 (Roster.find?_isSome.2 key)
  rw [packageAt, hp]
  rfl

theorem Settled.withPackage (h : w.Settled) (hp : path.isText) : (w.withPackage path).Settled where
  paths p hm := by
    rcases mem_packages_withPackage.1 hm with hm | rfl
    · exact h.paths p hm
    · unfold packageAt
      cases found : Roster.find? Package.key path.key w.packages with
      | none => rfl
      | some p => exact h.paths p (Roster.mem_of_find? found)
  functions f hf := (h.functions f hf).mono (agree_withPackage hp) fun _ hm =>
    mem_packages_withPackage.2 (.inl hm)

theorem houses_described (e : FunctionEntry) {id : Atom} (hi : id.isText) (hp : path.isText) :
    (w.withPackage path).Houses ((w.withPackage path).described e id path) where
  given := (Atom.key_of_isText hi).symm
  met := (Atom.key_of_isText hi).symm
  text := hp
  known := packageAt_mem_withPackage hp
  std := rfl

theorem houses_implied {id : Atom} (hi : id.isText) :
    (w.withPackage (homeOf id)).Houses ((w.withPackage (homeOf id)).implied id) where
  given := (Atom.key_of_isText hi).symm
  met := (Atom.key_of_isText hi).symm
  text := rfl
  known := packageAt_mem_withPackage rfl
  std := rfl

theorem Settled.declare (h : w.Settled) {e : FunctionEntry} (typed : e.Keyed) :
    (w.declare e).Settled := by
  cases hk : e.keys? with
  | none =>
    rw [World.declare, hk]
    exact h
  | some k =>
    obtain ⟨id, path⟩ := k
    obtain ⟨hid, hpath⟩ := typed.isText_of_keys? hk
    have settled := h.withPackage hpath
    have new : (w.withPackage path).Houses ((w.withPackage path).described e id path) :=
      houses_described e hid hpath
    rw [declare_of_keys? hk]
    refine ⟨settled.paths, fun f hf => ?_⟩
    have housed : (w.withPackage path).Houses f := by
      rcases Roster.mem_putWith hf with hf | rfl | ⟨known, hm, same, rfl⟩
      · exact settled.functions f hf
      · exact new
      · exact new.renewed (settled.functions known hm).met same
    exact housed.mono (fun _ _ => rfl) fun _ hp => hp

theorem Settled.mention (h : w.Settled) {id : Atom} (hi : id.isText) : (w.mention id).Settled := by
  by_cases hm : id ∈ w.functions.map Function.id
  · rw [mention_known hi hm]
    exact h
  · have settled : (w.withPackage (homeOf id)).Settled := h.withPackage rfl
    have agree : (w.withPackage (homeOf id)).Agree w := agree_withPackage rfl
    rw [mention_unknown hi hm]
    refine ⟨settled.paths, fun f hf => ?_⟩
    have housed : (w.withPackage (homeOf id)).Houses f := by
      rcases List.mem_append.1 hf with hf | hf
      · exact settled.functions f hf
      · rw [List.mem_singleton.1 hf, ← agree.implied id]
        exact houses_implied hi
    exact housed.mono (fun _ _ => rfl) fun _ hp => hp

theorem Settled.foldl_declare (h : w.Settled) {es : List FunctionEntry}
    (typed : ∀ e ∈ es, e.Keyed) : (es.foldl World.declare w).Settled :=
  List.foldlRecOn (motive := World.Settled) _ _ h fun _ hv e he => hv.declare (typed e he)

theorem Settled.foldl_mention (h : w.Settled) {ids : List Atom} (texts : ∀ id ∈ ids, id.isText) :
    (ids.foldl World.mention w).Settled :=
  List.foldlRecOn (motive := World.Settled) _ _ h fun _ hv id hid => hv.mention (texts id hid)

end World

namespace Document

variable {d : Document}

theorem starts_ne_nil {ids : List Atom} (h : d.starts d.world = .ok ids) : ids ≠ [] := by
  unfold Document.starts at h
  cases hm : d.entryPoints.misfit with
  | some m =>
    rw [hm] at h
    cases h
  | none =>
    cases he : d.entryPoints.entries with
    | nil =>
      rw [hm, he] at h
      dsimp only at h
      unfold Analysis.discover at h
      split at h
      · cases h
      · rename_i some
        split at h
        · cases h
          exact some
        · cases h
    | cons v vs =>
      rw [hm, he] at h
      dsimp only at h
      split at h
      · rename_i known
        cases h
        have hv := List.filter_eq_nil_iff.1 known v (he ▸ List.mem_cons_self)
        rw [Bool.not_eq_true', Bool.not_eq_false] at hv
        obtain ⟨x, hx, -⟩ := (Option.any_eq_true _ _).1 hv
        rw [List.filterMap_cons_some hx]
        exact List.cons_ne_nil x _
      · split at h <;> cases h

namespace WellTyped

variable (hd : d.WellTyped)

include hd

theorem settled_packaged : d.packaged.Settled where
  paths := by
    have step : ∀ p ∈ d.packaged.packages, p.path.isText ∧ p.met = p.path := by
      refine List.foldlRecOn
        (motive := fun ps : List Package => ∀ p ∈ ps, p.path.isText ∧ p.met = p.path) _ _
        (fun _ hp => nomatch hp) ?_
      intro ps hps e he p hp
      have text := (hd.paths e he).1
      rcases Roster.mem_putWith hp with hp | rfl | ⟨known, hk, same, rfl⟩
      · exact hps p hp
      · exact ⟨text, rfl⟩
      · obtain ⟨text', met⟩ := hps known hk
        refine ⟨text, met.trans ?_⟩
        rwa [Package.key, Package.key, Atom.key_of_isText text',
          Atom.key_of_isText (a := e.package.path) text] at same
    exact fun p hp => (step p hp).2
  functions _ hf := nomatch hf

theorem settled_world : d.world.Settled := by
  rw [world_eq]
  exact (hd.settled_packaged.foldl_declare hd.keyed).foldl_mention hd.ends_texts

end WellTyped

end Document

namespace Analysis

/-- All that an analysis speaks of is in it, under one form. -/
structure Closed (a : Analysis) : Prop where
  packages : ∀ p ∈ a.packages, p.met = p.path ∧ a.package? p.path = some p
  functions : ∀ f ∈ a.functions, f.given = f.id ∧ f.met = f.id ∧ a.function? f.id = some f
  homes : ∀ f ∈ a.functions, ∃ p, a.package? f.package = some p ∧ p.path = f.package ∧ f.std = p.std
  ends : ∀ c ∈ a.calls, c.caller ∈ a.ids ∧ c.callee ∈ a.ids
  started : a.entryPoints ≠ []
  starts : ∀ id ∈ a.entryPoints, id ∈ a.ids

end Analysis

namespace Document.WellTyped

variable {d : Document} {a : Analysis}

theorem closed_of_load (hd : d.WellTyped) (h : d.load = .ok a) : a.Closed := by
  have wellFormed := hd.wellFormed_of_load h
  have catalogued := hd.catalogued_of_load h
  have textual := hd.textual_of_load h
  have settled := hd.settled_world
  obtain ⟨-, -, -, ids, hs, rfl⟩ := load_eq_ok_iff.1 h
  exact {
    packages := fun p hp =>
      ⟨settled.paths p hp, (Roster.find?_eq_some_iff catalogued.nodup_paths).2 ⟨hp, rfl⟩⟩
    functions := by
      intro f hf
      have housed := settled.functions f hf
      refine ⟨housed.given, housed.met, ?_⟩
      rw [Analysis.function?, Atom.key_of_isText (textual.ids f hf)]
      exact (Roster.find?_eq_some_iff wellFormed.nodup_ids).2 ⟨hf, rfl⟩
    homes := by
      intro f hf
      have housed := settled.functions f hf
      have path : (d.world.packageAt f.package).path = f.package := by
        obtain ⟨s, hs⟩ := Atom.isText_iff.1 housed.text
        have key := d.world.key_packageAt f.package
        rw [hs] at key ⊢
        exact Atom.key_eq_text.1 key
      exact ⟨_, World.find?_packages housed.known, path, housed.std⟩
    ends := fun c hc => ⟨wellFormed.caller_mem c hc, wellFormed.callee_mem c hc⟩
    started := starts_ne_nil hs
    starts := fun id hid => (hd.mem_ids_of_starts hs id hid).2 }

/-- What is loaded is closed, and no view of it ever makes up the name of a package. -/
theorem closed_world_of_load (hd : d.WellTyped) (h : d.load = .ok a) :
    a.Closed ∧ ∀ s focus v, a.view s focus = .ok v →
      ∀ n ∈ v.nodes, ∃ p, a.package? n.package = some p ∧ n.packageName = p.name := by
  have closed := hd.closed_of_load h
  have wellFormed := hd.wellFormed_of_load h
  refine ⟨closed, fun s focus v hv n hn => ?_⟩
  obtain ⟨-, rfl⟩ := (Analysis.view_eq_ok_iff wellFormed (hd.textual_of_load h) s focus).1 hv
  obtain ⟨f, hf, rfl⟩ := List.mem_map.1 hn
  have mem := Stages.mem_functions_shown wellFormed s focus (CallGraph.mem_orderedFunctions.1 hf)
  obtain ⟨p, hp, -⟩ := closed.homes f mem
  refine ⟨p, hp, ?_⟩
  change ((a.package? f.package).map Package.name).getD _ = p.name
  rw [hp]
  rfl

end Document.WellTyped

namespace Document

/-- A document that describes `app` and its main function twice, says nothing of `log.` and too
little of `x`, and calls these. -/
def patchwork : List (String × Json) :=
  [("packages", .array [
      .object [("path", .text "app"), ("name", .text "tool"), ("std", .bool true)],
      .object [("path", .text "app"), ("name", .text "main")]]),
    ("functions", .array [
      .object [("id", .text "app.main"), ("package", .text "lib"), ("recv", .text "*T")],
      .object [("id", .text "x"), ("package", .null), ("name", .text "y")],
      .object [("id", .text "app.main"), ("package", .text "app")]]),
    ("edges", .array [
      .object [("caller", .text "app.main"), ("callee", .text "log."), ("site", .text "3:1")],
      .object [("caller", .text "x"), ("callee", .text "x")],
      .object [("caller", .text "app.main"), ("callee", .null)],
      .object [("caller", .text "app.main"), ("callee", .text "log."), ("dynamic", .bool true)]])]

theorem wellTyped_patchwork : (ofFields patchwork).WellTyped := by decide

theorem closed_world_of_load_patchwork :
    (ofFields patchwork).WellTyped ∧
      ∃ a, (ofFields patchwork).load = .ok a ∧ a.Closed ∧
        a.ids = [.text "app.main", .text "log.", .text "x"] ∧
        a.packages.map Package.path = [.text "app", .text "lib", .text "log", .text "x"] ∧
        ∃ v, a.view {} none = .ok v ∧ ∀ n ∈ v.nodes,
          ∃ p, a.package? n.package = some p ∧ n.packageName = p.name := by
  have parts : (ofFields patchwork).load.toOption.map (fun a =>
      (a.ids, a.packages.map Package.path, (a.view {} none).toOption.map View.ids)) =
      some ([.text "app.main", .text "log.", .text "x"],
        [.text "app", .text "lib", .text "log", .text "x"],
        some [.text "app.main", .text "log."]) := by cbv
  obtain ⟨a, ha, parts⟩ := exists_ok_of_map parts
  obtain ⟨ids, parts⟩ := Prod.mk.inj parts
  obtain ⟨packages, view⟩ := Prod.mk.inj parts
  obtain ⟨v, hv, -⟩ := exists_ok_of_map view
  obtain ⟨closed, names⟩ := wellTyped_patchwork.closed_world_of_load ha
  exact ⟨wellTyped_patchwork, a, ha, closed, ids, packages, v, hv, names {} none v hv⟩

end Document

end CallAtlas
