import CallAtlas.Proofs.Arrangement

set_option autoImplicit false

/-!
# Parts of views

What follows the elision of wrappers takes functions away and leaves the edges between the others as
they are. So all selections that treat the standard library and wrappers alike show parts of one
graph; and where the one part has no function that the other does not have, its view is the part of
the other view between its nodes.
-/

namespace CallAtlas

namespace CallGraph

variable {d g h : CallGraph}

theorem Induced.of_ids (hg : g.Induced d) (hh : h.Induced d) (fewer : ∀ id ∈ g.ids, id ∈ h.ids) :
    g.Induced h where
  ids := fewer
  edges e := by
    rw [hg.edges, hh.edges]
    constructor
    · rintro ⟨he, hu, hv⟩
      exact ⟨⟨he, fewer _ hu, fewer _ hv⟩, hu, hv⟩
    · rintro ⟨⟨he, -, -⟩, hu, hv⟩
      exact ⟨he, hu, hv⟩

theorem ids_of_functions (fewer : ∀ f ∈ g.functions, f ∈ h.functions) :
    ∀ id ∈ g.ids, id ∈ h.ids := by
  intro id hid
  obtain ⟨f, hf, rfl⟩ := mem_ids.1 hid
  exact mem_ids.2 ⟨f, fewer f hf, rfl⟩

theorem Induced.calls_mono (part : g.Induced h) {o p : Outline} (hg : g.Fits o) (hh : h.Fits p)
    {u v : Atom} (hc : o.calls u v) : p.calls u v := by
  obtain ⟨e, he, hends⟩ := List.mem_map.1 ((hg.calls u v).2 hc)
  exact (hh.calls u v).1 (List.mem_map.2 ⟨e, ((part.edges e).1 he).1, hends⟩)

theorem mem_functions_iff (hh : h.ids.Nodup) (fewer : ∀ f ∈ g.functions, f ∈ h.functions)
    {f : Function} : f ∈ g.functions ↔ f ∈ h.functions ∧ f.id ∈ g.ids := by
  constructor
  · exact fun hf => ⟨fewer f hf, mem_ids.2 ⟨f, hf, rfl⟩⟩
  · rintro ⟨hf, hid⟩
    obtain ⟨k, hk, same⟩ := mem_ids.1 hid
    rwa [function_unique hh hf (fewer k hk) same.symm]

theorem orderedFunctions_eq_filter (hg : g.ids.Nodup) (hh : h.ids.Nodup)
    (fewer : ∀ f ∈ g.functions, f ∈ h.functions) :
    g.orderedFunctions = h.orderedFunctions.filter fun f => f.id ∈ g.ids := by
  have whole : (h.orderedFunctions.filter fun f => f.id ∈ g.ids).Pairwise
      fun f k => Atom.Before f.id k.id := (pairwise_orderedFunctions hh).filter _
  refine eq_of_pairwise_of_mem_iff (pairwise_orderedFunctions hg) whole fun f => ?_
  rw [List.mem_filter, mem_orderedFunctions, mem_orderedFunctions, mem_functions_iff hh fewer,
    decide_eq_true_iff]

theorem Induced.orderedEdges_eq_filter (hg : (g.edges.map Edge.ends).Nodup)
    (hh : (h.edges.map Edge.ends).Nodup) (part : g.Induced h) :
    g.orderedEdges = h.orderedEdges.filter fun e => e.caller ∈ g.ids && e.callee ∈ g.ids := by
  have whole : (h.orderedEdges.filter fun e => e.caller ∈ g.ids && e.callee ∈ g.ids).Pairwise
      fun e d => Atom.PairBefore e.ends d.ends := (pairwise_orderedEdges hh).filter _
  refine eq_of_pairwise_of_mem_iff (pairwise_orderedEdges hg) whole fun e => ?_
  rw [List.mem_filter, mem_orderedEdges, mem_orderedEdges, part.edges, Bool.and_eq_true,
    decide_eq_true_iff, decide_eq_true_iff]

end CallGraph

namespace View

def between (v : View) (ids : List Atom) : List ViewEdge :=
  v.edges.filter fun e => e.caller ∈ ids && e.callee ∈ ids

/-- A view is the part of another one between some of its nodes. -/
structure PartOf (w v : View) : Prop where
  nodes : w.nodes = v.nodes.filter fun n => n.id ∈ w.ids
  edges : w.edges = v.between w.ids

variable {a : Analysis} {group group' : List GroupKey} {focus focus' : Option Atom}
  {g h : CallGraph} (hg : g.WellFormed) (hh : h.WellFormed)

include hg hh

theorem edges_ofGraph_eq_between (part : g.Induced h) (texts : ∀ e ∈ h.edges, e.callee.isText) :
    (ofGraph a group focus [] g).edges =
      (ofGraph a group' focus' [] h).between (ofGraph a group focus [] g).ids := by
  change g.orderedEdges.map (edgeOf []) = (h.orderedEdges.map (edgeOf [])).filter _
  rw [part.orderedEdges_eq_filter hg.nodup_ends hh.nodup_ends, List.filter_map]
  refine congrArg _ (List.filter_congr fun e he => ?_)
  have text := texts e (CallGraph.mem_orderedEdges.1 he)
  rw [Function.comp_apply, edgeOf_of_isText text, Bool.eq_iff_iff]
  simp only [Bool.and_eq_true, decide_eq_true_eq, mem_ids_ofGraph]

theorem partOf_ofGraph (fewer : ∀ f ∈ g.functions, f ∈ h.functions) (part : g.Induced h)
    (texts : ∀ e ∈ h.edges, e.callee.isText) :
    (ofGraph a group focus [] g).PartOf (ofGraph a group focus [] h) where
  nodes := by
    change g.orderedFunctions.map (nodeOf a group focus []) =
      (h.orderedFunctions.map (nodeOf a group focus [])).filter _
    rw [CallGraph.orderedFunctions_eq_filter hg.nodup_ids hh.nodup_ids fewer, List.filter_map]
    refine congrArg _ (List.filter_congr fun f _ => ?_)
    rw [Function.comp_apply, Bool.eq_iff_iff]
    simp only [decide_eq_true_eq, mem_ids_ofGraph]
    rfl
  edges := edges_ofGraph_eq_between hg hh part texts

end View

namespace Stages

variable {a : Analysis} (ha : a.WellFormed) {s t : Selection} {focus focus' : Option Atom}

theorem direct_eq (hideStd : t.hideStd = s.hideStd)
    (hideWrappers : t.hideWrappers = s.hideWrappers) :
    (run a t focus').direct = (run a s focus).direct := by
  rw [run_direct, run_direct, run_authored, run_authored, hideStd, hideWrappers]

include ha

/-- If the one of two such selections shows no function that the other one does not, it shows a part
of what the other one shows. -/
theorem induced_of_functions (hideStd : t.hideStd = s.hideStd)
    (hideWrappers : t.hideWrappers = s.hideWrappers)
    (fewer : ∀ f ∈ (run a t focus').shown.functions, f ∈ (run a s focus).shown.functions) :
    (run a t focus').shown.Induced (run a s focus).shown := by
  have part := induced_shown ha t focus'
  rw [direct_eq hideStd hideWrappers] at part
  exact part.of_ids (induced_shown ha s focus) (CallGraph.ids_of_functions fewer)

end Stages

end CallAtlas
