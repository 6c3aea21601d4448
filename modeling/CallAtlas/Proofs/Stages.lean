import CallAtlas.Proofs.Paths
import CallAtlas.Proofs.Traces
import CallAtlas.View.Stages
import Mathlib.Data.List.Nodup

set_option autoImplicit false

/-!
# Stages and their outlines

Each stage of a reduction does to a graph what the stage of the same name does to its outline.
`fits_shown` puts the stages together: what a run shows is what the outline of its selection has.
-/

namespace CallAtlas

namespace CallGraph

/-- The functions and the calls of a graph are those of an outline. -/
structure Fits (g : CallGraph) (o : Outline) : Prop where
  functions : ∀ f, f ∈ g.functions ↔ o.has f
  calls : ∀ u v, (u, v) ∈ g.edges.map Edge.ends ↔ o.calls u v

variable {g : CallGraph} {o : Outline}

theorem mem_ids {id : Atom} : id ∈ g.ids ↔ ∃ f ∈ g.functions, f.id = id := by
  simp [ids]

theorem mem_callees {u v : Atom} : v ∈ g.callees u ↔ (u, v) ∈ g.edges.map Edge.ends := by
  simp only [callees, out, List.mem_map, List.mem_filter, decide_eq_true_eq, Edge.ends,
    Prod.mk.injEq, and_assoc]

theorem mem_callers {u v : Atom} : u ∈ g.callers v ↔ (u, v) ∈ g.edges.map Edge.ends := by
  simp only [callers, into, List.mem_map, List.mem_filter, decide_eq_true_eq, Edge.ends,
    Prod.mk.injEq]
  constructor
  · rintro ⟨e, ⟨he, hv⟩, hu⟩
    exact ⟨e, he, hu, hv⟩
  · rintro ⟨e, he, hu, hv⟩
    exact ⟨e, ⟨he, hv⟩, hu⟩

theorem mem_ends_restrict {keep : Function → Bool} {u v : Atom} :
    (u, v) ∈ (g.restrict keep).edges.map Edge.ends ↔
      (u, v) ∈ g.edges.map Edge.ends ∧
        u ∈ (g.restrict keep).ids ∧ v ∈ (g.restrict keep).ids := by
  simp only [List.mem_map, mem_edges_restrict, Edge.ends, Prod.mk.injEq]
  constructor
  · rintro ⟨e, ⟨he, hu, hv⟩, rfl, rfl⟩
    exact ⟨⟨e, he, rfl, rfl⟩, hu, hv⟩
  · rintro ⟨⟨e, he, rfl, rfl⟩, hu, hv⟩
    exact ⟨e, ⟨he, hu, hv⟩, rfl, rfl⟩

theorem WellFormed.restrict_eq_self (h : g.WellFormed) {keep : Function → Bool}
    (all : ∀ f ∈ g.functions, keep f = true) : g.restrict keep = g := by
  have functions : g.functions.filter keep = g.functions := List.filter_eq_self.2 all
  have edges : g.edges.filter (fun e => e.caller ∈ g.ids && e.callee ∈ g.ids) = g.edges := by
    rw [List.filter_eq_self]
    intro e he
    rw [Bool.and_eq_true, decide_eq_true_iff, decide_eq_true_iff]
    exact ⟨h.caller_mem e he, h.callee_mem e he⟩
  unfold CallGraph.restrict
  rw [functions]
  exact congrArg (CallGraph.mk g.functions) edges

theorem mem_ends_addEdges {ds es : List Edge} {k : Atom × Atom} :
    k ∈ (ds.foldl (fun es d => addEdge d es) es).map Edge.ends ↔
      k ∈ es.map Edge.ends ∨ k ∈ ds.map Edge.ends := by
  induction ds generalizing es with
  | nil => simp
  | cons d ds ih =>
    rw [List.foldl_cons, ih, addEdge, Roster.mem_keys_putWith Edge.ends_merge_of_eq, List.map_cons,
      List.mem_cons]
    constructor
    · rintro ((h | h) | h)
      · exact .inr (.inl h)
      · exact .inl h
      · exact .inr (.inr h)
    · rintro (h | h | h)
      · exact .inl (.inr h)
      · exact .inl (.inl h)
      · exact .inr h

theorem function_unique (hw : g.ids.Nodup) {f h : Function} (hf : f ∈ g.functions)
    (hh : h ∈ g.functions) (he : f.id = h.id) : f = h :=
  List.inj_on_of_nodup_map hw hf hh he

namespace Fits

theorem names (h : g.Fits o) {id : Atom} : o.names id ↔ id ∈ g.ids := by
  rw [mem_ids]
  constructor
  · rintro ⟨f, hf, e⟩
    exact ⟨f, (h.functions f).2 hf, e⟩
  · rintro ⟨f, hf, e⟩
    exact ⟨f, (h.functions f).1 hf, e⟩

theorem restrict (h : g.Fits o) {keep : Function → Bool} {p : Function → Prop}
    (hp : ∀ f ∈ g.functions, keep f = true ↔ p f) : (g.restrict keep).Fits (o.part p) := by
  have functions (f : Function) : f ∈ (g.restrict keep).functions ↔ o.has f ∧ p f := by
    rw [mem_functions_restrict]
    constructor
    · rintro ⟨hf, hk⟩
      exact ⟨(h.functions f).1 hf, (hp f hf).1 hk⟩
    · rintro ⟨hf, hk⟩
      have hm := (h.functions f).2 hf
      exact ⟨hm, (hp f hm).2 hk⟩
  have ids (id : Atom) :
      id ∈ (g.restrict keep).ids ↔ ∃ f, (o.has f ∧ p f) ∧ f.id = id := by
    simp only [mem_ids, functions]
  refine ⟨functions, fun u v => ?_⟩
  rw [mem_ends_restrict, h.calls, ids, ids]
  rfl

theorem mem_synthetics (h : g.Fits o) {id : Atom} : id ∈ g.synthetics ↔ o.IsSynthetic id := by
  simp only [synthetics, List.mem_map, List.mem_filter, Outline.IsSynthetic, h.functions, and_assoc]

theorem leads_iff (h : g.Fits o) {u v : Atom} : g.Leads g.synthetics u v ↔ o.Means u v := by
  constructor
  · intro hl
    induction hl with
    | call hc hs =>
      exact .call ((h.calls _ _).1 (mem_callees.1 hc)) (fun hn => hs (h.mem_synthetics.2 hn))
    | through hc hs _ ih =>
      exact .through ((h.calls _ _).1 (mem_callees.1 hc)) (h.mem_synthetics.1 hs) ih
  · intro hm
    induction hm with
    | call hc hs =>
      exact .call (mem_callees.2 ((h.calls _ _).2 hc)) (fun hn => hs (h.mem_synthetics.1 hn))
    | through hc hs _ ih =>
      exact .through (mem_callees.2 ((h.calls _ _).2 hc)) (h.mem_synthetics.2 hs) ih

end Fits

theorem wrapper?_spec {synthetic : List Atom} {id : Atom} {w : Wrapper}
    (h : g.wrapper? synthetic id = some w) :
    w.id = id ∧ w.dynamic = (g.trace synthetic id).dynamic ∧
      ∀ v, w.target = some v ↔ g.Leads synthetic id v := by
  unfold wrapper? at h
  dsimp only at h
  split at h
  · rename_i hf
    cases h
    refine ⟨rfl, rfl, fun v => ?_⟩
    rw [← mem_found_trace, hf]
    simp
  · rename_i target hf
    cases h
    refine ⟨rfl, rfl, fun v => ?_⟩
    rw [← mem_found_trace, hf]
    simp [eq_comm]
  · cases h

theorem wrapper?_isSome {synthetic : List Atom} {id : Atom} :
    (g.wrapper? synthetic id).isSome ↔
      ∀ u v, g.Leads synthetic id u → g.Leads synthetic id v → u = v := by
  simp only [← mem_found_trace]
  have nodup := (nodup_trace g synthetic id).2
  unfold wrapper?
  dsimp only
  split
  · rename_i hf
    simp [hf]
  · rename_i target hf
    simp [hf]
  · rename_i hn hs
    match hf : (g.trace synthetic id).found with
    | [] => exact absurd hf hn
    | [t] => exact absurd hf (hs t)
    | t :: u :: rest =>
      rw [hf] at nodup
      simp only [Option.isSome_none, Bool.false_eq_true, false_iff]
      intro same
      have e := same t u (by simp) (by simp)
      simp [e] at nodup

theorem mem_wrappers {w : Wrapper} :
    w ∈ g.wrappers ↔ w.id ∈ g.synthetics ∧ g.wrapper? g.synthetics w.id = some w := by
  simp only [wrappers, List.mem_filterMap, Atom.mem_sorted]
  constructor
  · rintro ⟨id, hi, hw⟩
    rw [(wrapper?_spec hw).1]
    exact ⟨hi, hw⟩
  · rintro ⟨hi, hw⟩
    exact ⟨w.id, hi, hw⟩

theorem mem_bridges {gone : List Atom} {w : Wrapper} {d : Edge} :
    d ∈ g.bridges gone w ↔
      ∃ target, w.target = some target ∧
        ∃ e ∈ g.edges, e.callee = w.id ∧ e.caller ∉ gone ∧
          d = { e with
            callee := target, dynamic := e.dynamic || w.dynamic, elided := true
            written := w.written.getD target } := by
  unfold bridges
  cases ht : w.target with
  | none => simp
  | some target =>
    simp only [List.mem_map, List.mem_filter, into, decide_eq_true_eq, Option.some.injEq,
      exists_eq_left', and_assoc]
    constructor
    · rintro ⟨e, he, hc, hg, rfl⟩
      exact ⟨e, he, hc, hg, rfl⟩
    · rintro ⟨e, he, hc, hg, rfl⟩
      exact ⟨e, he, hc, hg, rfl⟩

theorem mem_ends_bridged {ws : List Wrapper} {u v : Atom} :
    (u, v) ∈ (g.bridged ws).map Edge.ends ↔
      (u, v) ∈ g.edges.map Edge.ends ∨
        ∃ w ∈ ws, w.target = some v ∧ (u, w.id) ∈ g.edges.map Edge.ends ∧
          u ∉ ws.map Wrapper.id := by
  rw [bridged, mem_ends_addEdges]
  refine or_congr_right ?_
  constructor
  · intro h
    obtain ⟨d, hd, he⟩ := List.mem_map.1 h
    obtain ⟨w, hw, hb⟩ := List.mem_flatMap.1 hd
    obtain ⟨target, ht, e, hm, hc, hg, rfl⟩ := mem_bridges.1 hb
    simp only [Edge.ends, Prod.mk.injEq] at he
    obtain ⟨rfl, rfl⟩ := he
    exact ⟨w, hw, ht, List.mem_map.2 ⟨e, hm, by rw [Edge.ends, hc]⟩, hg⟩
  · rintro ⟨w, hw, ht, hm, hg⟩
    obtain ⟨e, he, hends⟩ := List.mem_map.1 hm
    simp only [Edge.ends, Prod.mk.injEq] at hends
    obtain ⟨rfl, hc⟩ := hends
    have hd := mem_bridges.2 ⟨v, ht, e, he, hc, hg, rfl⟩
    exact List.mem_map.2 ⟨_, List.mem_flatMap.2 ⟨w, hw, hd⟩, rfl⟩

namespace Fits

theorem isWrapper (h : g.Fits o) (hw : g.ids.Nodup) {f : Function} (hf : f ∈ g.functions) :
    f.id ∈ g.wrappers.map Wrapper.id ↔ o.IsWrapper f := by
  have single : (g.wrapper? g.synthetics f.id).isSome ↔
      ∀ u v, o.Means f.id u → o.Means f.id v → u = v := by
    rw [wrapper?_isSome]
    simp only [h.leads_iff]
  constructor
  · intro hm
    obtain ⟨w, hmem, hi⟩ := List.mem_map.1 hm
    obtain ⟨hs, hsome⟩ := mem_wrappers.1 hmem
    rw [hi] at hs hsome
    obtain ⟨k, hk, hsyn, hki⟩ := h.mem_synthetics.1 hs
    have hkf := function_unique hw ((h.functions k).2 hk) hf hki
    subst hkf
    exact ⟨hk, hsyn, single.1 (by rw [hsome]; rfl)⟩
  · rintro ⟨hh, hsyn, hone⟩
    obtain ⟨w, hsome⟩ := Option.isSome_iff_exists.1 (single.2 hone)
    have hi := (wrapper?_spec hsome).1
    have hmem : w ∈ g.wrappers := by
      refine mem_wrappers.2 ⟨?_, ?_⟩
      · rw [hi]
        exact h.mem_synthetics.2 ⟨f, hh, hsyn, rfl⟩
      · rw [hi]
        exact hsome
    exact List.mem_map.2 ⟨w, hmem, hi⟩

theorem target_iff (h : g.Fits o) (hw : g.ids.Nodup) {id v : Atom} :
    (∃ w ∈ g.wrappers, w.id = id ∧ w.target = some v) ↔
      ∃ f, o.IsWrapper f ∧ f.id = id ∧ o.Means f.id v := by
  constructor
  · rintro ⟨w, hm, rfl, ht⟩
    obtain ⟨hs, hsome⟩ := mem_wrappers.1 hm
    obtain ⟨f, hf, -, hi⟩ := h.mem_synthetics.1 hs
    have hfw : f.id ∈ g.wrappers.map Wrapper.id := hi ▸ List.mem_map.2 ⟨w, hm, rfl⟩
    refine ⟨f, (h.isWrapper hw ((h.functions f).2 hf)).1 hfw, hi, ?_⟩
    rw [hi]
    exact h.leads_iff.1 (((wrapper?_spec hsome).2.2 v).1 ht)
  · rintro ⟨f, hf, rfl, hv⟩
    obtain ⟨w, hm, hi⟩ := List.mem_map.1 ((h.isWrapper hw ((h.functions f).2 hf.1)).2 hf)
    refine ⟨w, hm, hi, ?_⟩
    have hsome := (mem_wrappers.1 hm).2
    rw [((wrapper?_spec hsome).2.2 v), hi]
    exact h.leads_iff.2 hv

theorem withoutWrappers (h : g.Fits o) (hw : g.ids.Nodup) : g.withoutWrappers.Fits o.direct := by
  have stays (f : Function) (hf : f ∈ g.functions) :
      decide (f.id ∉ g.wrappers.map Wrapper.id) = true ↔ ¬ o.IsWrapper f := by
    rw [decide_eq_true_iff, h.isWrapper hw hf]
  have functions (f : Function) :
      f ∈ g.withoutWrappers.functions ↔ o.has f ∧ ¬ o.IsWrapper f := by
    rw [CallGraph.withoutWrappers, without, mem_functions_restrict]
    constructor
    · rintro ⟨hf, hk⟩
      exact ⟨(h.functions f).1 hf, (stays f hf).1 hk⟩
    · rintro ⟨hf, hk⟩
      have hm := (h.functions f).2 hf
      exact ⟨hm, (stays f hm).2 hk⟩
  have ids (id : Atom) :
      id ∈ g.withoutWrappers.ids ↔ ∃ f, (o.has f ∧ ¬ o.IsWrapper f) ∧ f.id = id := by
    simp only [mem_ids, functions]
  refine ⟨functions, fun u v => ?_⟩
  rw [CallGraph.withoutWrappers, without, mem_ends_restrict]
  change _ ∧ u ∈ g.withoutWrappers.ids ∧ v ∈ g.withoutWrappers.ids ↔ _
  rw [mem_ends_bridged, ids, ids, h.calls]
  refine and_congr_left ?_
  rintro ⟨⟨f, ⟨hf, hn⟩, rfl⟩, -⟩
  have stay : f.id ∉ g.wrappers.map Wrapper.id := fun hm =>
    hn ((h.isWrapper hw ((h.functions f).2 hf)).1 hm)
  refine or_congr_right ?_
  constructor
  · rintro ⟨w, hm, ht, hc, -⟩
    obtain ⟨k, hk, hi, hv⟩ := (h.target_iff hw).1 ⟨w, hm, rfl, ht⟩
    exact ⟨k, hk, hi ▸ (h.calls _ _).1 hc, hv⟩
  · rintro ⟨k, hk, hc, hv⟩
    obtain ⟨w, hm, hi, ht⟩ := (h.target_iff hw).2 ⟨k, hk, rfl, hv⟩
    exact ⟨w, hm, ht, hi ▸ (h.calls _ _).2 hc, stay⟩

theorem mem_limited (h : g.Fits o) {prefixes : List String} {id : Atom} :
    id ∈ g.limited prefixes ↔ o.IsLimited prefixes id := by
  simp only [limited, List.mem_map, List.mem_filter, Outline.IsLimited, h.functions, and_assoc]

theorem isBoundary_iff (h : g.Fits o) {prefixes : List String} {starts : List Atom} {id : Atom} :
    g.isBoundary (g.limited prefixes) starts id = true ↔
      id ∈ starts ∨ (∀ u, ¬ o.calls u id) ∨ ∃ u, o.calls u id ∧ ¬ o.IsLimited prefixes u := by
  have callers (u : Atom) : u ∈ g.callers id ↔ o.calls u id := by rw [mem_callers, h.calls]
  simp only [isBoundary, Bool.or_eq_true, decide_eq_true_eq, List.isEmpty_iff,
    List.eq_nil_iff_forall_not_mem, List.any_eq_true, callers, h.mem_limited, or_assoc]

theorem mem_boundary (h : g.Fits o) {prefixes : List String} {starts : List Atom} {id : Atom} :
    id ∈ (g.limited prefixes).filter (g.isBoundary (g.limited prefixes) starts) ↔
      o.IsFirst prefixes starts id := by
  rw [List.mem_filter, h.mem_limited, h.isBoundary_iff]
  rfl

theorem limitedCall_iff (h : g.Fits o) {prefixes : List String} (u v : Atom) :
    o.LimitedCall prefixes u v ↔ v ∈ g.callees u ∧ v ∈ g.limited prefixes := by
  rw [mem_callees, h.calls, h.mem_limited]
  rfl

theorem mem_shallow (h : g.Fits o) {prefixes : List String} {starts : List Atom} {depth : Nat}
    {id : Atom} :
    id ∈ g.shallow (g.limited prefixes) starts depth ↔
      ∃ u, o.IsFirst prefixes starts u ∧
        ∃ n ≤ depth - 1, Steps (o.LimitedCall prefixes) n u id := by
  rw [CallGraph.shallow, Search.mem_within]
  simp only [h.mem_boundary, Search.walk_iff_steps h.limitedCall_iff]

theorem mem_tooDeep (h : g.Fits o) {prefixes : List String} {starts : List Atom} {depth : Nat}
    {id : Atom} :
    id ∈ g.tooDeep prefixes starts depth ↔
      o.IsLimited prefixes id ∧ ¬ ∃ u, o.IsFirst prefixes starts u ∧
        ∃ n ≤ depth - 1, Steps (o.LimitedCall prefixes) n u id := by
  rw [tooDeep, List.mem_filter, h.mem_limited, decide_eq_true_iff, h.mem_shallow]

theorem withinLimit (h : g.Fits o) (prefixes : List String) (starts : List Atom) (depth : Nat) :
    (g.withinLimit prefixes starts depth).Fits (o.shallow prefixes starts depth) := by
  apply h.restrict
  intro f _
  rw [decide_eq_true_iff, h.mem_tooDeep, not_and, not_not]

theorem filtered (h : g.Fits o) (ignore only : List String) :
    (g.filtered ignore only).Fits (o.passing ignore only) := by
  apply h.restrict
  intro f _
  simp only [passes, Bool.and_eq_true, Bool.or_eq_true, Bool.not_eq_true', List.isEmpty_iff]

theorem mem_members (h : g.Fits o) {path id : Atom} :
    id ∈ g.members path ↔ ∃ m, o.has m ∧ m.package.equals path = true ∧ m.id = id := by
  simp only [members, List.mem_map, List.mem_filter, h.functions, and_assoc]

theorem mem_around (h : g.Fits o) (hw : g.WellFormed) {path id : Atom} :
    id ∈ g.around path ↔ ∃ m, o.has m ∧ m.package.equals path = true ∧
      (Relation.ReflTransGen o.calls id m.id ∨ Relation.ReflTransGen o.calls m.id id) := by
  have callee (u v : Atom) : o.calls u v ↔ v ∈ g.callees u ∧ v ∈ g.ids := by
    rw [mem_callees, h.calls, iff_self_and]
    intro hc
    obtain ⟨e, he, hends⟩ := List.mem_map.1 ((h.calls u v).2 hc)
    cases hends
    exact hw.callee_mem e he
  have caller (u v : Atom) : Function.swap o.calls u v ↔ v ∈ g.callers u ∧ v ∈ g.ids := by
    change o.calls v u ↔ _
    rw [mem_callers, h.calls, iff_self_and]
    intro hc
    obtain ⟨e, he, hends⟩ := List.mem_map.1 ((h.calls v u).2 hc)
    cases hends
    exact hw.caller_mem e he
  have member (m : Function) (hm : o.has m) : m.id ∈ g.ids :=
    mem_ids.2 ⟨m, (h.functions m).2 hm, rfl⟩
  simp only [CallGraph.around, List.mem_append, Search.mem_reach, h.mem_members,
    Search.path_iff_reflTransGen callee, Search.path_iff_reflTransGen caller,
    Relation.reflTransGen_swap]
  constructor
  · rintro (⟨_, ⟨m, hm, hp, rfl⟩, -, hr⟩ | ⟨_, ⟨m, hm, hp, rfl⟩, -, hr⟩)
    · exact ⟨m, hm, hp, .inl hr⟩
    · exact ⟨m, hm, hp, .inr hr⟩
  · rintro ⟨m, hm, hp, hr | hr⟩
    · exact .inl ⟨m.id, ⟨m, hm, hp, rfl⟩, member m hm, hr⟩
    · exact .inr ⟨m.id, ⟨m, hm, hp, rfl⟩, member m hm, hr⟩

theorem focused (h : g.Fits o) (hw : g.WellFormed) (path : Atom) :
    (g.focused path).Fits (o.around path) := by
  apply h.restrict
  intro f _
  rw [decide_eq_true_iff, h.mem_around hw]

end Fits

end CallGraph

namespace Analysis

variable {a : Analysis}

theorem mem_reachable (ha : a.WellFormed) {id : Atom} : id ∈ a.reachable ↔ a.Runs id := by
  have callee (u v : Atom) : a.Calls u v ↔ v ∈ a.calleesOf u ∧ v ∈ a.ids := by
    constructor
    · rintro ⟨c, hc, rfl, rfl⟩
      refine ⟨?_, ha.callee_mem c hc⟩
      simp only [calleesOf, List.mem_map, List.mem_filter, decide_eq_true_eq]
      exact ⟨c, ⟨hc, rfl⟩, rfl⟩
    · rintro ⟨hv, -⟩
      simp only [calleesOf, List.mem_map, List.mem_filter, decide_eq_true_eq] at hv
      obtain ⟨c, ⟨hc, hu⟩, hv⟩ := hv
      exact ⟨c, hc, hu, hv⟩
  rw [reachable, Search.mem_reach]
  simp only [Search.path_iff_reflTransGen callee]
  constructor
  · rintro ⟨u, hu, -, hr⟩
    exact ⟨u, hu, hr⟩
  · rintro ⟨u, hu, hr⟩
    exact ⟨u, hu, ha.start_mem u hu, hr⟩

theorem fits_wholeGraph (a : Analysis) :
    a.wholeGraph.Fits ⟨fun f => f ∈ a.functions, a.Calls⟩ where
  functions _ := Iff.rfl
  calls u v := by
    rw [wholeGraph, CallGraph.collapse, CallGraph.mem_ends_addEdges]
    simp only [List.map_nil, List.not_mem_nil, false_or, List.map_map, List.mem_map,
      Function.comp_apply, Edge.ends, CallGraph.ofCall, Prod.mk.injEq, Calls]

theorem fits_callGraph (ha : a.WellFormed) : a.callGraph.Fits (Outline.whole a) := by
  apply a.fits_wholeGraph.restrict
  intro f _
  rw [decide_eq_true_iff, mem_reachable ha]

end Analysis

namespace Stages

variable {a : Analysis} (ha : a.WellFormed) (s : Selection) (focus : Option Atom)

theorem run_authored : (run a s focus).authored =
    if s.hideStd then a.callGraph.restrict fun f => !f.std else a.callGraph := rfl

theorem run_direct : (run a s focus).direct =
    if s.hideWrappers then (run a s focus).authored.withoutWrappers
    else (run a s focus).authored := rfl

theorem run_shallow : (run a s focus).shallow =
    if s.limit.isEmpty then (run a s focus).direct
    else (run a s focus).direct.withinLimit s.limit a.starts s.limitDepth := rfl

include ha

theorem wellFormed_authored : (run a s focus).authored.WellFormed := by
  have whole := Analysis.wellFormed_callGraph ha.nodup_ids
  rw [run_authored]
  split
  · exact whole.restrict fun f => !f.std
  · exact whole

theorem wellFormed_direct : (run a s focus).direct.WellFormed := by
  have authored := wellFormed_authored ha s focus
  rw [run_direct]
  split
  · exact authored.withoutWrappers
  · exact authored

theorem wellFormed_shallow : (run a s focus).shallow.WellFormed := by
  have direct := wellFormed_direct ha s focus
  rw [run_shallow]
  split
  · exact direct
  · exact direct.withinLimit s.limit a.starts s.limitDepth

theorem wellFormed_filtered : (run a s focus).filtered.WellFormed :=
  (wellFormed_shallow ha s focus).filtered s.ignore s.only

theorem wellFormed_shown : (run a s focus).shown.WellFormed := by
  have filtered := wellFormed_filtered ha s focus
  cases focus with
  | none => exact filtered
  | some path => exact filtered.focused path

theorem fits_authored : (run a s focus).authored.Fits (s.authored a) := by
  have whole := Analysis.fits_callGraph ha
  rw [run_authored, Selection.authored]
  split
  · exact whole.restrict fun f _ => by rw [Bool.not_eq_true']
  · exact whole

theorem fits_direct : (run a s focus).direct.Fits (s.direct a) := by
  have authored := fits_authored ha s focus
  rw [run_direct, Selection.direct]
  split
  · exact authored.withoutWrappers (wellFormed_authored ha s focus).nodup_ids
  · exact authored

theorem fits_shallow : (run a s focus).shallow.Fits (s.shallow a) := by
  have direct := fits_direct ha s focus
  simp only [run_shallow, Selection.shallow, List.isEmpty_iff]
  split
  · exact direct
  · exact direct.withinLimit s.limit a.starts s.limitDepth

theorem fits_filtered : (run a s focus).filtered.Fits (s.passing a) :=
  (fits_shallow ha s focus).filtered s.ignore s.only

theorem fits_shown : (run a s focus).shown.Fits (s.shown a focus) := by
  have filtered := fits_filtered ha s focus
  cases focus with
  | none => exact filtered
  | some path => exact filtered.focused (wellFormed_filtered ha s (some path)) path

end Stages

end CallAtlas
