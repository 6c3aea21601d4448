import CallAtlas.Proofs.Stages

set_option autoImplicit false

/-!
# What edges stand for

An edge of a call graph sums up what was put under its ends: the sites of all parts, whether one of
them is dynamic, and whether the first of them is a bridge. `sites_direct`, `dynamic_direct` and
`elided_direct` say what that comes to when parallel calls are put together and wrappers are taken
out.
-/

namespace CallAtlas

theorem Atom.same_iff {a b : Atom} (ha : a.isText) (hb : b.isText) : a.same b = true ↔ a = b := by
  rw [same, key_of_isText ha, key_of_isText hb, decide_eq_true_iff]

namespace Site

structure Neat (ts : List Site) : Prop where
  texts : ∀ t ∈ ts, t.isText
  ordered : ts.Pairwise fun t u => t.before u = true

theorem mem_insert {s : Site} {ts : List Site} (hs : s.isText) (ht : ∀ t ∈ ts, t.isText) {x : Site} :
    x ∈ insert s ts ↔ x = s ∨ x ∈ ts := by
  induction ts with
  | nil => simp [insert]
  | cons t ts ih =>
    have ih := ih fun u hu => ht u (List.mem_cons_of_mem t hu)
    unfold insert
    split
    · rename_i h
      have e : t = s := (Atom.same_iff (ht t List.mem_cons_self) hs).1 h
      simp [e]
    · split
      · simp
      · rw [List.mem_cons, ih, List.mem_cons]
        exact or_left_comm

theorem neat_insert {s : Site} {ts : List Site} (hs : s.isText) (h : Neat ts) :
    Neat (insert s ts) := by
  refine ⟨?_, ?_⟩
  · intro x hx
    rcases (mem_insert hs h.texts).1 hx with rfl | hx
    · exact hs
    · exact h.texts x hx
  · obtain ⟨ht, ho⟩ := h
    induction ts with
    | nil => exact List.pairwise_singleton _ _
    | cons t ts ih =>
      have hts (u : Site) (hu : u ∈ ts) : u.isText := ht u (List.mem_cons_of_mem t hu)
      rw [List.pairwise_cons] at ho
      unfold insert
      split
      · exact List.pairwise_cons.2 ho
      · rename_i hn
        have ne : t ≠ s := fun e => hn ((Atom.same_iff (ht t List.mem_cons_self) hs).2 e)
        split
        · rename_i hb
          refine List.pairwise_cons.2 ⟨?_, List.pairwise_cons.2 ho⟩
          intro u hu
          rcases List.mem_cons.1 hu with rfl | hu
          · exact hb
          · exact Atom.before_trans hb (ho.1 u hu)
        · rename_i hb
          refine List.pairwise_cons.2 ⟨?_, ih hts ho.2⟩
          intro u hu
          rcases (mem_insert hs hts).1 hu with rfl | hu
          · exact Decidable.not_not.1 fun k => ne (Atom.eq_of_not_before k hb)
          · exact ho.1 u hu

theorem neat_union {ss ts : List Site} (hs : ∀ s ∈ ss, s.isText) (h : Neat ts) :
    Neat (union ss ts) := by
  induction ss with
  | nil => exact h
  | cons s ss ih =>
    exact neat_insert (hs s List.mem_cons_self) (ih fun t ht => hs t (List.mem_cons_of_mem s ht))

theorem mem_union {ss ts : List Site} (hs : ∀ s ∈ ss, s.isText) (h : Neat ts) {x : Site} :
    x ∈ union ss ts ↔ x ∈ ss ∨ x ∈ ts := by
  induction ss with
  | nil => simp [union]
  | cons s ss ih =>
    have hss (t : Site) (ht : t ∈ ss) : t.isText := hs t (List.mem_cons_of_mem s ht)
    change x ∈ insert s (union ss ts) ↔ _
    rw [mem_insert (hs s List.mem_cons_self) (neat_union hss h).texts, ih hss, List.mem_cons,
      or_assoc]

theorem mem_ofCall {v : Json} {x : Site} : x ∈ ofCall v ↔ v = x.toJson ∧ x.isGiven = true := by
  unfold ofCall
  split
  · rename_i h
    rw [Option.mem_toList]
    constructor
    · intro hx
      have hv := Atom.toJson_of_ofJson? hx
      exact ⟨hv.symm, by rwa [Atom.isGiven, hv]⟩
    · rintro ⟨rfl, -⟩
      exact Atom.ofJson?_toJson x
  · rename_i h
    simp only [List.not_mem_nil, false_iff, not_and]
    rintro rfl hx
    exact h hx

theorem neat_ofCall {v : Json} (h : v.isText) : Neat (ofCall v) := by
  obtain ⟨t, rfl⟩ := Json.isText_iff.1 h
  unfold ofCall
  split
  · exact ⟨by simp [Atom.ofJson?, Atom.isText, Atom.text?], List.pairwise_singleton _ _⟩
  · exact ⟨by simp, .nil⟩

end Site

namespace Edge

/-- The edge sums up the parts that have its ends. -/
structure Sums (e : Edge) (parts : List Edge) : Prop where
  sites : ∀ x, x ∈ e.sites ↔ ∃ d ∈ parts, d.ends = e.ends ∧ x ∈ d.sites
  dynamic : e.dynamic = true ↔ ∃ d ∈ parts, d.ends = e.ends ∧ d.dynamic = true
  elided : ∃ d, parts.find? (fun d => d.ends = e.ends) = some d ∧ e.elided = d.elided

variable {es parts : List Edge} {d e : Edge}

theorem exists_mem_concat {p : Edge → Prop} :
    (∃ c ∈ parts ++ [d], p c) ↔ (∃ c ∈ parts, p c) ∨ p d := by
  simp only [List.mem_append, List.mem_singleton, or_and_right, exists_or, exists_eq_left]

theorem sums_merge (h : e.Sums parts) (he : Site.Neat e.sites) (hd : Site.Neat d.sites)
    (ends : e.ends = d.ends) : (e.merge d).Sums (parts ++ [d]) where
  sites x := by
    change x ∈ Site.union d.sites e.sites ↔ _
    rw [Site.mem_union hd.texts he, h.sites, exists_mem_concat, ends_merge, ends, or_comm,
      eq_self, true_and]
  dynamic := by
    change (e.dynamic || d.dynamic) = true ↔ _
    rw [Bool.or_eq_true, h.dynamic, exists_mem_concat, ends_merge, ends, eq_self, true_and]
  elided := by
    obtain ⟨c, hc, hl⟩ := h.elided
    refine ⟨c, ?_, hl⟩
    rw [List.find?_append, ends_merge, hc]
    rfl

theorem sums_other (h : e.Sums parts) (ends : e.ends ≠ d.ends) : e.Sums (parts ++ [d]) where
  sites x := by
    rw [h.sites, exists_mem_concat, or_iff_left fun hd => ends hd.1.symm]
  dynamic := by
    rw [h.dynamic, exists_mem_concat, or_iff_left fun hd => ends hd.1.symm]
  elided := by
    obtain ⟨c, hc, hl⟩ := h.elided
    refine ⟨c, ?_, hl⟩
    rw [List.find?_append, hc]
    rfl

theorem sums_new (h : d.ends ∉ parts.map Edge.ends) : d.Sums (parts ++ [d]) := by
  have other (c : Edge) (hc : c ∈ parts) : c.ends ≠ d.ends := fun e =>
    h (e ▸ List.mem_map_of_mem hc)
  have none : parts.find? (fun c => c.ends = d.ends) = none := by
    rw [List.find?_eq_none]
    intro c hc
    simpa using other c hc
  refine ⟨fun x => ?_, ?_, d, ?_, rfl⟩
  · rw [exists_mem_concat, or_iff_right fun ⟨c, hc, he, _⟩ => other c hc he, eq_self, true_and]
  · rw [exists_mem_concat, or_iff_right fun ⟨c, hc, he, _⟩ => other c hc he, eq_self, true_and]
  · rw [List.find?_append, none]
    simp

theorem Sums.dynamic_or (h : e.Sums parts) (b : Bool) :
    (e.dynamic || b) = true ↔ ∃ d ∈ parts, d.ends = e.ends ∧ (d.dynamic || b) = true := by
  cases b with
  | false => simpa only [Bool.or_false] using h.dynamic
  | true =>
    obtain ⟨d, hd, -⟩ := h.elided
    simp only [Bool.or_true, and_true, true_iff]
    exact ⟨d, List.mem_of_find?_eq_some hd, by simpa using List.find?_some hd⟩

theorem sums_self (nodup : (es.map Edge.ends).Nodup) (he : e ∈ es) : e.Sums es := by
  have same (d : Edge) (hd : d ∈ es) (h : d.ends = e.ends) : d = e :=
    List.inj_on_of_nodup_map nodup hd he h
  refine ⟨fun x => ?_, ?_, ?_⟩
  · constructor
    · exact fun hx => ⟨e, he, rfl, hx⟩
    · rintro ⟨d, hd, h, hx⟩
      exact same d hd h ▸ hx
  · constructor
    · exact fun hx => ⟨e, he, rfl, hx⟩
    · rintro ⟨d, hd, h, hx⟩
      exact same d hd h ▸ hx
  · cases hf : es.find? (fun d => d.ends = e.ends) with
    | none =>
      have := List.find?_eq_none.1 hf e he
      simp at this
    | some d =>
      have h := List.find?_some hf
      exact ⟨d, rfl, by rw [same d (List.mem_of_find?_eq_some hf) (by simpa using h)]⟩

end Edge

namespace CallGraph

theorem mem_addEdge {d e : Edge} {es : List Edge} (nodup : (es.map Edge.ends).Nodup)
    (h : e ∈ addEdge d es) :
    (e ∈ es ∧ e.ends ≠ d.ends) ∨ (∃ c ∈ es, c.ends = d.ends ∧ e = c.merge d) ∨
      (d.ends ∉ es.map Edge.ends ∧ e = d) := by
  induction es with
  | nil =>
    rw [addEdge, Roster.putWith, List.mem_singleton] at h
    exact .inr (.inr ⟨by simp, h⟩)
  | cons c es ih =>
    rw [List.map_cons, List.nodup_cons] at nodup
    rw [addEdge, Roster.putWith] at h
    split at h
    · rename_i hc
      rcases List.mem_cons.1 h with rfl | h
      · exact .inr (.inl ⟨c, List.mem_cons_self, hc, rfl⟩)
      · refine .inl ⟨List.mem_cons_of_mem c h, fun he => nodup.1 ?_⟩
        rw [hc, ← he]
        exact List.mem_map_of_mem h
    · rename_i hc
      rcases List.mem_cons.1 h with rfl | h
      · exact .inl ⟨List.mem_cons_self, hc⟩
      · rcases ih nodup.2 h with ⟨hm, hne⟩ | ⟨b, hb, he, rfl⟩ | ⟨hn, rfl⟩
        · exact .inl ⟨List.mem_cons_of_mem c hm, hne⟩
        · exact .inr (.inl ⟨b, List.mem_cons_of_mem c hb, he, rfl⟩)
        · refine .inr (.inr ⟨?_, rfl⟩)
          rw [List.map_cons, List.mem_cons]
          rintro (he | he)
          · exact hc he.symm
          · exact hn he

/-- What holds of edges before parts are added: they sum up the parts so far. -/
structure Collects (es parts : List Edge) : Prop where
  nodup : (es.map Edge.ends).Nodup
  ends : ∀ k, k ∈ es.map Edge.ends ↔ k ∈ parts.map Edge.ends
  neat : ∀ e ∈ es, Site.Neat e.sites
  sums : ∀ e ∈ es, e.Sums parts

theorem collects_nil : Collects [] [] :=
  ⟨.nil, fun _ => Iff.rfl, (fun _ h => nomatch h), (fun _ h => nomatch h)⟩

theorem collects_self {es : List Edge} (nodup : (es.map Edge.ends).Nodup)
    (neat : ∀ e ∈ es, Site.Neat e.sites) : Collects es es :=
  ⟨nodup, fun _ => Iff.rfl, neat, fun _ he => Edge.sums_self nodup he⟩

theorem Collects.addEdge {es parts : List Edge} (h : Collects es parts) {d : Edge}
    (hd : Site.Neat d.sites) : Collects (CallGraph.addEdge d es) (parts ++ [d]) where
  nodup := nodup_ends_addEdge d h.nodup
  ends k := by
    rw [CallGraph.addEdge, Roster.mem_keys_putWith Edge.ends_merge_of_eq, h.ends, List.map_append,
      List.mem_append, or_comm, List.map_singleton, List.mem_singleton]
  neat e he := by
    rcases mem_addEdge h.nodup he with ⟨hm, -⟩ | ⟨c, hc, -, rfl⟩ | ⟨-, rfl⟩
    · exact h.neat e hm
    · exact Site.neat_union hd.texts (h.neat c hc)
    · exact hd
  sums e he := by
    rcases mem_addEdge h.nodup he with ⟨hm, hne⟩ | ⟨c, hc, hends, rfl⟩ | ⟨hn, rfl⟩
    · exact Edge.sums_other (h.sums e hm) hne
    · exact Edge.sums_merge (h.sums c hc) (h.neat c hc) hd hends
    · exact Edge.sums_new fun hp => hn ((h.ends _).2 hp)

theorem Collects.addEdges {es parts ds : List Edge} (h : Collects es parts)
    (hd : ∀ d ∈ ds, Site.Neat d.sites) :
    Collects (ds.foldl (fun es d => CallGraph.addEdge d es) es) (parts ++ ds) := by
  induction ds generalizing es parts with
  | nil => simpa using h
  | cons d ds ih =>
    rw [List.foldl_cons, List.append_cons]
    exact ih (h.addEdge (hd d List.mem_cons_self)) fun c hc => hd c (List.mem_cons_of_mem d hc)

structure Induced (h g : CallGraph) : Prop where
  ids : ∀ id ∈ h.ids, id ∈ g.ids
  edges : ∀ e, e ∈ h.edges ↔ e ∈ g.edges ∧ e.caller ∈ h.ids ∧ e.callee ∈ h.ids

theorem induced_restrict (g : CallGraph) (keep : Function → Bool) : (g.restrict keep).Induced g where
  ids id h := by
    obtain ⟨f, hf, rfl⟩ := mem_ids.1 h
    exact mem_ids.2 ⟨f, (mem_functions_restrict.1 hf).1, rfl⟩
  edges _ := mem_edges_restrict

theorem WellFormed.induced {g : CallGraph} (h : g.WellFormed) : g.Induced g where
  ids _ hi := hi
  edges e := ⟨fun he => ⟨he, h.caller_mem e he, h.callee_mem e he⟩, fun he => he.1⟩

theorem Induced.trans {f g h : CallGraph} (hg : h.Induced g) (hf : g.Induced f) : h.Induced f where
  ids id hi := hf.ids id (hg.ids id hi)
  edges e := by
    rw [hg.edges, hf.edges]
    constructor
    · rintro ⟨⟨he, -, -⟩, hu, hv⟩
      exact ⟨he, hu, hv⟩
    · rintro ⟨he, hu, hv⟩
      exact ⟨⟨he, hg.ids _ hu, hg.ids _ hv⟩, hu, hv⟩

end CallGraph

namespace Selection

variable (s : Selection) (a : Analysis)

/-- The function `id` is a wrapper that is taken out and means `v`. -/
def Replaces (id v : Atom) : Prop :=
  s.hideWrappers = true ∧ ∃ f, (s.authored a).IsWrapper f ∧ f.id = id ∧ (s.authored a).Means id v

/-- The call is one of `v` by `u`, or one of a wrapper that means `v`. -/
def Counts (u v : Atom) (c : Call) : Prop :=
  c.caller = u ∧ (c.callee = v ∨ s.Replaces a c.callee v)

def dispatches (id : Atom) : Bool :=
  let g := (Stages.run a s none).authored
  (g.trace g.synthetics id).dynamic

end Selection

namespace Analysis

variable {a : Analysis}

theorem collects_wholeGraph (ht : a.Textual) :
    CallGraph.Collects a.wholeGraph.edges (a.calls.map CallGraph.ofCall) := by
  refine CallGraph.collects_nil.addEdges fun d hd => ?_
  obtain ⟨c, hc, rfl⟩ := List.mem_map.1 hd
  exact Site.neat_ofCall (ht.sites c hc)

theorem exists_part {u v : Atom} {p : Edge → Prop} :
    (∃ d ∈ a.calls.map CallGraph.ofCall, d.ends = (u, v) ∧ p d) ↔
      ∃ c ∈ a.calls, c.caller = u ∧ c.callee = v ∧ p (CallGraph.ofCall c) := by
  constructor
  · rintro ⟨d, hd, he, hp⟩
    obtain ⟨c, hc, rfl⟩ := List.mem_map.1 hd
    cases he
    exact ⟨c, hc, rfl, rfl, hp⟩
  · rintro ⟨c, hc, rfl, rfl, hp⟩
    exact ⟨_, List.mem_map_of_mem hc, rfl, hp⟩

end Analysis

namespace Stages

variable {a : Analysis} (ha : a.WellFormed) (ht : a.Textual) (s : Selection) (focus : Option Atom)

theorem induced_authored : (run a s focus).authored.Induced a.wholeGraph := by
  have whole : a.callGraph.Induced a.wholeGraph := CallGraph.induced_restrict _ _
  rw [run_authored]
  split
  · exact (CallGraph.induced_restrict _ _).trans whole
  · exact whole

include ha in
theorem induced_shown : (run a s focus).shown.Induced (run a s focus).direct := by
  have shallow : (run a s focus).shallow.Induced (run a s focus).direct := by
    rw [run_shallow]
    split
    · exact (wellFormed_direct ha s focus).induced
    · exact CallGraph.induced_restrict _ _
  have filtered : (run a s focus).filtered.Induced (run a s focus).direct :=
    CallGraph.Induced.trans (CallGraph.induced_restrict _ _) shallow
  cases focus with
  | none => exact filtered
  | some path => exact CallGraph.Induced.trans (CallGraph.induced_restrict _ _) filtered

include ha in
theorem direct_of_shown {e : Edge} (he : e ∈ (run a s focus).shown.edges) :
    e ∈ (run a s focus).direct.edges := (((induced_shown ha s focus).edges e).1 he).1

variable {u v : Atom} {e : Edge}

theorem authored_edge_iff (hu : u ∈ (run a s focus).authored.ids)
    (hv : v ∈ (run a s focus).authored.ids) :
    (u, v) ∈ (run a s focus).authored.edges.map Edge.ends ↔ a.Calls u v := by
  have whole : (u, v) ∈ a.wholeGraph.edges.map Edge.ends ↔ a.Calls u v :=
    a.fits_wholeGraph.calls u v
  rw [← whole]
  simp only [List.mem_map, (induced_authored s focus).edges]
  constructor
  · rintro ⟨e, ⟨he, -, -⟩, hends⟩
    exact ⟨e, he, hends⟩
  · rintro ⟨e, he, hends⟩
    cases hends
    exact ⟨e, ⟨he, hu, hv⟩, rfl⟩

theorem exists_authored {p : Edge → Prop}
    (sums : ∀ e ∈ a.wholeGraph.edges,
      p e ↔ ∃ d ∈ a.calls.map CallGraph.ofCall, d.ends = e.ends ∧ p d)
    (hu : u ∈ (run a s focus).authored.ids) (hv : v ∈ (run a s focus).authored.ids) :
    (∃ e ∈ (run a s focus).authored.edges, e.ends = (u, v) ∧ p e) ↔
      ∃ c ∈ a.calls, c.caller = u ∧ c.callee = v ∧ p (CallGraph.ofCall c) := by
  have whole (e : Edge) (he : e ∈ (run a s focus).authored.edges) :=
    sums e (((induced_authored s focus).edges e).1 he).1
  constructor
  · rintro ⟨e, he, hends, hp⟩
    have hd := (whole e he).1 hp
    rw [hends] at hd
    exact Analysis.exists_part.1 hd
  · rintro ⟨c, hc, hcu, hcv, hp⟩
    obtain ⟨e, he, hends⟩ := List.mem_map.1
      ((authored_edge_iff s focus hu hv).2 ⟨c, hc, hcu, hcv⟩)
    refine ⟨e, he, hends, (whole e he).2 ?_⟩
    rw [hends]
    exact Analysis.exists_part.2 ⟨c, hc, hcu, hcv, hp⟩

include ht

theorem authored_sites (hu : u ∈ (run a s focus).authored.ids)
    (hv : v ∈ (run a s focus).authored.ids) {x : Site} :
    (∃ e ∈ (run a s focus).authored.edges, e.ends = (u, v) ∧ x ∈ e.sites) ↔
      ∃ c ∈ a.calls, c.caller = u ∧ c.callee = v ∧ x ∈ Site.ofCall c.site :=
  exists_authored s focus (fun e he => ((Analysis.collects_wholeGraph ht).sums e he).sites x) hu hv

theorem authored_dynamic (hu : u ∈ (run a s focus).authored.ids)
    (hv : v ∈ (run a s focus).authored.ids) (b : Bool) :
    (∃ e ∈ (run a s focus).authored.edges, e.ends = (u, v) ∧ (e.dynamic || b) = true) ↔
      ∃ c ∈ a.calls, c.caller = u ∧ c.callee = v ∧ (c.dynamic || b) = true :=
  exists_authored s focus
    (fun e he => ((Analysis.collects_wholeGraph ht).sums e he).dynamic_or b) hu hv

theorem neat_authored (he : e ∈ (run a s focus).authored.edges) : Site.Neat e.sites :=
  (Analysis.collects_wholeGraph ht).neat e (((induced_authored s focus).edges e).1 he).1

theorem authored_elided (he : e ∈ (run a s focus).authored.edges) : e.elided = false := by
  have sums :=
    (Analysis.collects_wholeGraph ht).sums e (((induced_authored s focus).edges e).1 he).1
  obtain ⟨d, hd, hl⟩ := sums.elided
  obtain ⟨c, -, rfl⟩ := List.mem_map.1 (List.mem_of_find?_eq_some hd)
  exact hl

omit ht in
theorem direct_unhidden (h : s.hideWrappers = false) :
    (run a s focus).direct = (run a s focus).authored := by
  rw [run_direct, h]
  rfl

omit ht in
theorem direct_hidden (h : s.hideWrappers = true) :
    (run a s focus).direct = (run a s focus).authored.withoutWrappers := by
  rw [run_direct, h]
  rfl

omit ht in
theorem ids_direct {id : Atom} (h : id ∈ (run a s focus).direct.ids) :
    id ∈ (run a s focus).authored.ids := by
  cases hs : s.hideWrappers with
  | false => rwa [direct_unhidden s focus hs] at h
  | true =>
    rw [direct_hidden s focus hs] at h
    exact (CallGraph.induced_restrict _ _).ids id h

include ha

theorem collects_bridged :
    CallGraph.Collects ((run a s focus).authored.bridged (run a s focus).authored.wrappers)
      ((run a s focus).authored.edges ++ (run a s focus).authored.wrappers.flatMap
        ((run a s focus).authored.bridges
          ((run a s focus).authored.wrappers.map CallGraph.Wrapper.id))) := by
  have nodup := (wellFormed_authored ha s focus).nodup_ends
  refine (CallGraph.collects_self nodup fun e he => neat_authored ht s focus he).addEdges ?_
  intro d hd
  obtain ⟨w, -, hd⟩ := List.mem_flatMap.1 hd
  obtain ⟨target, -, e, he, -, -, rfl⟩ := CallGraph.mem_bridges.1 hd
  have neat := neat_authored ht s focus he
  exact neat

omit ht in
theorem replaces_iff (hs : s.hideWrappers = true) {id : Atom} :
    s.Replaces a id v ↔
      ∃ w ∈ (run a s focus).authored.wrappers, w.id = id ∧ w.target = some v := by
  rw [(fits_authored ha s focus).target_iff (wellFormed_authored ha s focus).nodup_ids]
  constructor
  · rintro ⟨-, f, hf, rfl, hm⟩
    exact ⟨f, hf, rfl, hm⟩
  · rintro ⟨f, hf, rfl, hm⟩
    exact ⟨hs, f, hf, rfl, hm⟩

omit ht in
theorem exists_bridge {p : List Site → Bool → Prop} (hs : s.hideWrappers = true)
    (hu : u ∈ (run a s focus).direct.ids) :
    (∃ d ∈ (run a s focus).authored.wrappers.flatMap
        ((run a s focus).authored.bridges
          ((run a s focus).authored.wrappers.map CallGraph.Wrapper.id)),
        d.ends = (u, v) ∧ p d.sites d.dynamic) ↔
      ∃ id, s.Replaces a id v ∧ ∃ e ∈ (run a s focus).authored.edges,
        e.ends = (u, id) ∧ p e.sites (e.dynamic || s.dispatches a id) := by
  have dispatch (w : CallGraph.Wrapper) (hw : w ∈ (run a s focus).authored.wrappers) :
      w.dynamic = s.dispatches a w.id :=
    (CallGraph.wrapper?_spec (CallGraph.mem_wrappers.1 hw).2).2.1
  have stays : u ∉ (run a s focus).authored.wrappers.map CallGraph.Wrapper.id := by
    rw [direct_hidden s focus hs] at hu
    obtain ⟨f, hf, rfl⟩ := CallGraph.mem_ids.1 hu
    exact of_decide_eq_true (CallGraph.mem_functions_restrict.1 hf).2
  simp only [replaces_iff ha s focus hs]
  constructor
  · rintro ⟨d, hd, hends, hp⟩
    obtain ⟨w, hw, hd⟩ := List.mem_flatMap.1 hd
    obtain ⟨target, htarget, e, he, hc, -, rfl⟩ := CallGraph.mem_bridges.1 hd
    cases hends
    rw [dispatch w hw] at hp
    exact ⟨w.id, ⟨w, hw, rfl, htarget⟩, e, he, by rw [Edge.ends, hc], hp⟩
  · rintro ⟨id, ⟨w, hw, rfl, htarget⟩, e, he, hends, hp⟩
    have hcaller : e.caller = u := congrArg Prod.fst hends
    have hcallee : e.callee = w.id := congrArg Prod.snd hends
    subst hcaller
    refine ⟨_, List.mem_flatMap.2 ⟨w, hw, CallGraph.mem_bridges.2
      ⟨v, htarget, e, he, hcallee, stays, rfl⟩⟩, rfl, ?_⟩
    rw [dispatch w hw]
    exact hp

theorem neat_direct (he : e ∈ (run a s focus).direct.edges) : Site.Neat e.sites := by
  cases hs : s.hideWrappers with
  | false =>
    rw [direct_unhidden s focus hs] at he
    exact neat_authored ht s focus he
  | true =>
    rw [direct_hidden s focus hs] at he
    exact (collects_bridged ha ht s focus).neat e (CallGraph.mem_edges_restrict.1 he).1

/-- What holds of an edge if it holds of one of its parts comes from an edge between the same
functions, or from one to a wrapper. -/
theorem exists_direct {p : List Site → Bool → Prop} (he : e ∈ (run a s focus).direct.edges)
    (sums : ∀ parts : List Edge, e.Sums parts →
      (p e.sites e.dynamic ↔ ∃ d ∈ parts, d.ends = e.ends ∧ p d.sites d.dynamic)) :
    p e.sites e.dynamic ↔
      (∃ d ∈ (run a s focus).authored.edges, d.ends = e.ends ∧ p d.sites d.dynamic) ∨
        ∃ id, s.Replaces a id e.callee ∧ ∃ d ∈ (run a s focus).authored.edges,
          d.ends = (e.caller, id) ∧ p d.sites (d.dynamic || s.dispatches a id) := by
  have hu := (wellFormed_direct ha s focus).caller_mem e he
  cases hs : s.hideWrappers with
  | false =>
    have none : ¬ ∃ id, s.Replaces a id e.callee ∧ ∃ d ∈ (run a s focus).authored.edges,
        d.ends = (e.caller, id) ∧ p d.sites (d.dynamic || s.dispatches a id) := by
      rintro ⟨id, ⟨h, -⟩, -⟩
      rw [hs] at h
      cases h
    rw [direct_unhidden s focus hs] at he
    rw [or_iff_left none]
    exact sums _ (Edge.sums_self (wellFormed_authored ha s focus).nodup_ends he)
  | true =>
    rw [direct_hidden s focus hs] at he
    have hb := (collects_bridged ha ht s focus).sums e (CallGraph.mem_edges_restrict.1 he).1
    rw [← exists_bridge ha s focus hs hu, sums _ hb]
    simp only [List.mem_append, or_and_right, exists_or]
    rfl

theorem elided_direct (he : e ∈ (run a s focus).direct.edges) :
    e.elided = true ↔ ¬ a.Calls e.caller e.callee := by
  have wellFormed := wellFormed_direct ha s focus
  have hu := ids_direct s focus (wellFormed.caller_mem e he)
  have hv := ids_direct s focus (wellFormed.callee_mem e he)
  rw [← authored_edge_iff s focus hu hv]
  change _ ↔ e.ends ∉ _
  cases hs : s.hideWrappers with
  | false =>
    rw [direct_unhidden s focus hs] at he
    rw [authored_elided ht s focus he]
    simpa using ⟨e, he, rfl⟩
  | true =>
    rw [direct_hidden s focus hs] at he
    have hb := (collects_bridged ha ht s focus).sums e (CallGraph.mem_edges_restrict.1 he).1
    obtain ⟨d, hd, hl⟩ := hb.elided
    rw [hl]
    rw [List.find?_append] at hd
    cases hf : (run a s focus).authored.edges.find? (fun d => d.ends = e.ends) with
    | some c =>
      rw [hf, Option.some_or, Option.some.injEq] at hd
      have hc : c.ends = e.ends := by simpa using List.find?_some hf
      have hm := List.mem_of_find?_eq_some hf
      rw [← hd, authored_elided ht s focus hm, ← hc]
      simpa using ⟨c, hm, rfl⟩
    | none =>
      rw [hf, Option.none_or] at hd
      obtain ⟨w, -, hm⟩ := List.mem_flatMap.1 (List.mem_of_find?_eq_some hd)
      obtain ⟨target, -, c, -, -, -, rfl⟩ := CallGraph.mem_bridges.1 hm
      simp only [true_iff, List.mem_map, not_exists, not_and]
      intro c hc
      simpa using List.find?_eq_none.1 hf c hc

omit ht in
theorem ids_replaces {id : Atom} (h : s.Replaces a id v) : id ∈ (run a s focus).authored.ids := by
  obtain ⟨-, f, hf, rfl, -⟩ := h
  exact CallGraph.mem_ids.2 ⟨f, ((fits_authored ha s focus).functions f).2 hf.1, rfl⟩

theorem sites_direct (he : e ∈ (run a s focus).direct.edges) {x : Site} :
    x ∈ e.sites ↔
      ∃ c ∈ a.calls, s.Counts a e.caller e.callee c ∧ x ∈ Site.ofCall c.site := by
  have hu := ids_direct s focus ((wellFormed_direct ha s focus).caller_mem e he)
  have hv := ids_direct s focus ((wellFormed_direct ha s focus).callee_mem e he)
  have parts := exists_direct (p := fun xs _ => x ∈ xs) ha ht s focus he fun _ h => h.sites x
  rw [parts, show e.ends = (e.caller, e.callee) from rfl, authored_sites ht s focus hu hv]
  constructor
  · rintro (⟨c, hc, hcu, hcv, hx⟩ | ⟨id, hr, hd⟩)
    · exact ⟨c, hc, ⟨hcu, .inl hcv⟩, hx⟩
    · obtain ⟨c, hc, hcu, rfl, hx⟩ :=
        (authored_sites ht s focus hu (ids_replaces ha s focus hr)).1 hd
      exact ⟨c, hc, ⟨hcu, .inr hr⟩, hx⟩
  · rintro ⟨c, hc, ⟨hcu, hcv | hr⟩, hx⟩
    · exact .inl ⟨c, hc, hcu, hcv, hx⟩
    · refine .inr ⟨c.callee, hr, ?_⟩
      exact (authored_sites ht s focus hu (ids_replaces ha s focus hr)).2 ⟨c, hc, hcu, rfl, hx⟩

theorem dynamic_direct (he : e ∈ (run a s focus).direct.edges) :
    e.dynamic = true ↔
      ∃ c ∈ a.calls, s.Counts a e.caller e.callee c ∧
        (c.dynamic = true ∨ s.Replaces a c.callee e.callee ∧ s.dispatches a c.callee = true) := by
  have hu := ids_direct s focus ((wellFormed_direct ha s focus).caller_mem e he)
  have hv := ids_direct s focus ((wellFormed_direct ha s focus).callee_mem e he)
  have parts := exists_direct (p := fun _ b => b = true) ha ht s focus he fun _ h => h.dynamic
  have direct := authored_dynamic ht s focus hu hv false
  simp only [Bool.or_false] at direct
  rw [parts, show e.ends = (e.caller, e.callee) from rfl, direct]
  constructor
  · rintro (⟨c, hc, hcu, hcv, hx⟩ | ⟨id, hr, hd⟩)
    · exact ⟨c, hc, ⟨hcu, .inl hcv⟩, .inl hx⟩
    · obtain ⟨c, hc, hcu, rfl, hx⟩ :=
        (authored_dynamic ht s focus hu (ids_replaces ha s focus hr) _).1 hd
      refine ⟨c, hc, ⟨hcu, .inr hr⟩, ?_⟩
      exact ((Bool.or_eq_true _ _).mp hx).imp_right fun h => ⟨hr, h⟩
  · rintro ⟨c, hc, ⟨hcu, hcv⟩, hx⟩
    have through (hr : s.Replaces a c.callee e.callee)
        (hx : (c.dynamic || s.dispatches a c.callee) = true) :
        ∃ id, s.Replaces a id e.callee ∧ ∃ d ∈ (run a s focus).authored.edges,
          d.ends = (e.caller, id) ∧ (d.dynamic || s.dispatches a id) = true :=
      ⟨c.callee, hr, (authored_dynamic ht s focus hu (ids_replaces ha s focus hr) _).2
        ⟨c, hc, hcu, rfl, hx⟩⟩
    rcases hx with hx | ⟨hr, hx⟩
    · rcases hcv with hcv | hr
      · exact .inl ⟨c, hc, hcu, hcv, hx⟩
      · exact .inr (through hr (by rw [hx, Bool.true_or]))
    · exact .inr (through hr (by rw [hx, Bool.or_true]))

omit ht in
theorem direct_edge_iff (hu : u ∈ (run a s focus).direct.ids)
    (hv : v ∈ (run a s focus).direct.ids) :
    (u, v) ∈ (run a s focus).direct.edges.map Edge.ends ↔ ∃ c ∈ a.calls, s.Counts a u v c := by
  have hau := ids_direct s focus hu
  have hav := ids_direct s focus hv
  have split : (∃ c ∈ a.calls, s.Counts a u v c) ↔
      a.Calls u v ∨ ∃ id, s.Replaces a id v ∧ a.Calls u id := by
    constructor
    · rintro ⟨c, hc, hcu, hcv | hr⟩
      · exact .inl ⟨c, hc, hcu, hcv⟩
      · exact .inr ⟨c.callee, hr, c, hc, hcu, rfl⟩
    · rintro (⟨c, hc, hcu, hcv⟩ | ⟨id, hr, c, hc, hcu, rfl⟩)
      · exact ⟨c, hc, hcu, .inl hcv⟩
      · exact ⟨c, hc, hcu, .inr hr⟩
  rw [split, ← authored_edge_iff s focus hau hav]
  cases hs : s.hideWrappers with
  | false =>
    have none : ¬ ∃ id, s.Replaces a id v ∧ a.Calls u id := by
      rintro ⟨id, ⟨h, -⟩, -⟩
      rw [hs] at h
      cases h
    rw [direct_unhidden s focus hs, or_iff_left none]
  | true =>
    have ends : (u, v) ∈ (run a s focus).direct.edges.map Edge.ends ↔
        (u, v) ∈ ((run a s focus).authored.bridged (run a s focus).authored.wrappers).map
          Edge.ends := by
      rw [direct_hidden s focus hs] at hu hv ⊢
      change _ ∈ (CallGraph.restrict _ _).edges.map Edge.ends ↔ _
      rw [CallGraph.mem_ends_restrict]
      exact and_iff_left ⟨hu, hv⟩
    rw [ends, CallGraph.bridged, CallGraph.mem_ends_addEdges]
    refine or_congr_right ?_
    have bridge := exists_bridge (v := v) (p := fun _ _ => True) ha s focus hs hu
    simp only [and_true] at bridge
    rw [List.mem_map, bridge]
    constructor
    · rintro ⟨id, hr, he⟩
      have hm := (authored_edge_iff s focus hau (ids_replaces ha s focus hr)).1 (List.mem_map.2 he)
      exact ⟨id, hr, hm⟩
    · rintro ⟨id, hr, hc⟩
      have hm := (authored_edge_iff s focus hau (ids_replaces ha s focus hr)).2 hc
      exact ⟨id, hr, List.mem_map.1 hm⟩

end Stages

end CallAtlas
