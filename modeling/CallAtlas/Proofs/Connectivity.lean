import CallAtlas.Proofs.Stages
import Mathlib.Data.List.Permutation

set_option autoImplicit false

/-!
# Calls around wrappers

Taking wrappers out keeps who calls whom, directly or through others. What a wrapper calls is real
or a wrapper again, and then the first wrapper means all that the next one means; so however a path
runs through wrappers, it leaves them for the one function that the first of them means, and a bridge
leads there. `transGen_calls_withoutWrappers` says so of non-empty paths, which may lead back to
where they start.
-/

namespace CallAtlas

namespace Outline

variable {o : Outline} {u v w : Atom} {f : Function}

def Stays (o : Outline) (id : Atom) : Prop := ∃ f, (o.has f ∧ ¬ o.IsWrapper f) ∧ f.id = id

structure IsClosed (o : Outline) : Prop where
  unique : ∀ f g, o.has f → o.has g → f.id = g.id → f = g
  callee : ∀ u v, o.calls u v → o.names v

theorem wrapper_of_not_stays (hn : o.names u) (hs : ¬ o.Stays u) :
    ∃ f, o.IsWrapper f ∧ f.id = u := by
  obtain ⟨f, hf, hi⟩ := hn
  exact ⟨f, Classical.not_not.1 fun hw => hs ⟨f, ⟨hf, hw⟩, hi⟩, hi⟩

theorem direct_calls_of_wrapper (hu : o.Stays u) (hf : o.IsWrapper f) (hc : o.calls u f.id)
    (hm : o.Means f.id v) (hv : o.Stays v) : o.direct.calls u v :=
  ⟨.inr ⟨f, hf, hc, hm⟩, hu, hv⟩

theorem Means.transGen (h : o.Means u v) : Relation.TransGen o.calls u v := by
  induction h with
  | call hc _ => exact .single hc
  | through hc _ _ ih => exact .head hc ih

/-- A bridge stands for a call of a wrapper and what follows it. -/
theorem transGen_of_direct_calls (h : o.direct.calls u v) : Relation.TransGen o.calls u v := by
  rcases h.1 with hc | ⟨f, -, hc, hm⟩
  · exact .single hc
  · exact .head hc hm.transGen

namespace IsClosed

variable (closed : o.IsClosed)

include closed

/-- A synthetic function that a wrapper calls is a wrapper: it means nothing that the first does not
mean. -/
theorem not_stays_of_synthetic (hf : o.IsWrapper f) (hc : o.calls f.id v) (hs : o.IsSynthetic v) :
    ¬ o.Stays v := by
  rintro ⟨g, ⟨hg, hn⟩, rfl⟩
  obtain ⟨k, hk, hsyn, hi⟩ := hs
  cases closed.unique k g hk hg hi
  refine hn ⟨hg, hsyn, fun t t' ht ht' => ?_⟩
  have means (t : Atom) (ht : o.Means g.id t) : o.Means f.id t := .through hc ⟨g, hk, hsyn, rfl⟩ ht
  exact hf.2.2 t t' (means t ht) (means t' ht')

theorem means_of_calls_of_stays (hf : o.IsWrapper f) (hc : o.calls f.id v) (hv : o.Stays v) :
    o.Means f.id v :=
  .call hc fun hs => closed.not_stays_of_synthetic hf hc hs hv

/-- Where a path to a function that stays starts at a wrapper, the wrapper means a function that
stays, and the rest of the way is left to go from there. -/
theorem transGen_direct_or_means (hv : o.Stays v) (h : Relation.TransGen o.calls u v) :
    (o.Stays u → Relation.TransGen o.direct.calls u v) ∧
      ∀ f, o.IsWrapper f → f.id = u →
        ∃ t, o.Means u t ∧ o.Stays t ∧ Relation.ReflTransGen o.direct.calls t v := by
  induction h using Relation.TransGen.head_induction_on with
  | single hc =>
    refine ⟨fun hu => .single ⟨.inl hc, hu, hv⟩, ?_⟩
    rintro f hf rfl
    exact ⟨v, closed.means_of_calls_of_stays hf hc hv, hv, .refl⟩
  | @head u w hc _ ih =>
    obtain ⟨direct, means⟩ := ih
    by_cases hw : o.Stays w
    · refine ⟨fun hu => .head ⟨.inl hc, hu, hw⟩ (direct hw), ?_⟩
      rintro f hf rfl
      exact ⟨w, closed.means_of_calls_of_stays hf hc hw, hw, (direct hw).to_reflTransGen⟩
    · obtain ⟨g, hg, hi⟩ := wrapper_of_not_stays (closed.callee u w hc) hw
      obtain ⟨t, hm, ht, hr⟩ := means g hg hi
      subst hi
      refine ⟨fun hu => .head' (direct_calls_of_wrapper hu hg hc hm ht) hr, ?_⟩
      rintro f - rfl
      exact ⟨t, .through hc ⟨g, hg.1, hg.2.1, rfl⟩ hm, ht, hr⟩

/-- Between functions that stay there is a non-empty path when wrappers are gone if and only if there
was one before. -/
theorem transGen_direct_iff (hu : o.Stays u) (hv : o.Stays v) :
    Relation.TransGen o.direct.calls u v ↔ Relation.TransGen o.calls u v := by
  constructor
  · intro h
    exact h.lift' id fun _ _ hc => transGen_of_direct_calls hc
  · exact fun h => (closed.transGen_direct_or_means hv h).1 hu

theorem reflTransGen_direct (hu : o.Stays u) (hv : o.Stays v)
    (h : Relation.ReflTransGen o.calls u v) : Relation.ReflTransGen o.direct.calls u v := by
  rcases Relation.reflTransGen_iff_eq_or_transGen.1 h with rfl | h
  · exact .refl
  · exact ((closed.transGen_direct_iff hu hv).2 h).to_reflTransGen

end IsClosed

end Outline

namespace CallGraph

variable {g : CallGraph}

def Calls (g : CallGraph) (u v : Atom) : Prop := ∃ e ∈ g.edges, e.caller = u ∧ e.callee = v

/-- A graph without the order of its parts and the data on its edges. -/
def outline (g : CallGraph) : Outline := ⟨fun f => f ∈ g.functions, g.Calls⟩

theorem calls_iff_mem_ends {u v : Atom} : g.Calls u v ↔ (u, v) ∈ g.edges.map Edge.ends := by
  simp only [Calls, List.mem_map, Edge.ends, Prod.mk.injEq]

theorem fits_outline (g : CallGraph) : g.Fits g.outline :=
  ⟨fun _ => Iff.rfl, fun _ _ => calls_iff_mem_ends.symm⟩

theorem WellFormed.isClosed_outline (h : g.WellFormed) : g.outline.IsClosed where
  unique _ _ hf hk hi := function_unique h.nodup_ids hf hk hi
  callee := by
    rintro u v ⟨e, he, rfl, rfl⟩
    exact g.fits_outline.names.2 (h.callee_mem e he)

theorem WellFormed.stays_iff (h : g.WellFormed) {id : Atom} :
    g.outline.Stays id ↔ id ∈ g.withoutWrappers.ids := by
  simp only [mem_ids, (g.fits_outline.withoutWrappers h.nodup_ids).functions]
  rfl

theorem WellFormed.calls_withoutWrappers (h : g.WellFormed) :
    g.withoutWrappers.Calls = g.outline.direct.calls := by
  funext u v
  rw [calls_iff_mem_ends, (g.fits_outline.withoutWrappers h.nodup_ids).calls]

/-- Only synthetic functions are taken out of a graph as wrappers, none is added, and between two
functions that stay, or from one back to itself, a non-empty path of calls leads afterwards if and
only if one led before. -/
theorem transGen_calls_withoutWrappers (h : g.WellFormed) :
    (∀ f ∈ g.withoutWrappers.functions, f ∈ g.functions) ∧
    (∀ f ∈ g.functions, f ∉ g.withoutWrappers.functions → f.isSynthetic = true) ∧
    ∀ u ∈ g.withoutWrappers.ids, ∀ v ∈ g.withoutWrappers.ids,
      (Relation.TransGen g.withoutWrappers.Calls u v ↔ Relation.TransGen g.Calls u v) := by
  have direct := g.fits_outline.withoutWrappers h.nodup_ids
  refine ⟨fun f hf => ((direct.functions f).1 hf).1, fun f hf gone => ?_, fun u hu v hv => ?_⟩
  · have wrapper : g.outline.IsWrapper f :=
      Classical.not_not.1 fun hn => gone ((direct.functions f).2 ⟨hf, hn⟩)
    exact wrapper.2.1
  · rw [h.calls_withoutWrappers]
    exact h.isClosed_outline.transGen_direct_iff (h.stays_iff.2 hu) (h.stays_iff.2 hv)

/-- A function that calls itself through two wrappers which call each other, and beside it a synthetic
function that stays because it leads to two real ones. -/
def roundabout : CallGraph where
  functions := [
    { id := .text "a", name := .text "a", package := .text "p" },
    { id := .text "b", name := .text "b", package := .text "p" },
    { id := .text "v", name := .text "v", package := .text "p", synthetic := some (.text "thunk") },
    { id := .text "w", name := .text "w", package := .text "p", synthetic := some (.text "thunk") },
    { id := .text "x", name := .text "x", package := .text "p", synthetic := some (.text "thunk") }]
  edges := [
    { caller := .text "a", callee := .text "v" }, { caller := .text "v", callee := .text "w" },
    { caller := .text "w", callee := .text "v" }, { caller := .text "w", callee := .text "a" },
    { caller := .text "a", callee := .text "x" }, { caller := .text "x", callee := .text "v" },
    { caller := .text "x", callee := .text "b" }]

theorem wellFormed_roundabout : roundabout.WellFormed where
  nodup_ids := by decide
  nodup_ends := by decide
  caller_mem := by decide
  callee_mem := by decide

theorem transGen_calls_roundabout :
    roundabout.WellFormed ∧
      roundabout.withoutWrappers.ids = [.text "a", .text "b", .text "x"] ∧
      Relation.TransGen roundabout.withoutWrappers.Calls (.text "a") (.text "a") ∧
      Relation.TransGen roundabout.withoutWrappers.Calls (.text "x") (.text "a") := by
  have ids : roundabout.withoutWrappers.ids = [.text "a", .text "b", .text "x"] := by cbv
  obtain ⟨-, -, paths⟩ := transGen_calls_withoutWrappers wellFormed_roundabout
  have stays {id : Atom} (h : id ∈ [.text "a", .text "b", .text "x"]) :
      id ∈ roundabout.withoutWrappers.ids := ids ▸ h
  have call {u v : Atom} (h : (u, v) ∈ roundabout.edges.map Edge.ends) : roundabout.Calls u v :=
    calls_iff_mem_ends.2 h
  have back : Relation.TransGen roundabout.Calls (.text "v") (.text "a") :=
    .head (call (v := .text "w") (by decide)) (.single (call (by decide)))
  refine ⟨wellFormed_roundabout, ids, ?_, ?_⟩
  · exact (paths _ (stays (by decide)) _ (stays (by decide))).2 (.head (call (by decide)) back)
  · exact (paths _ (stays (by decide)) _ (stays (by decide))).2 (.head (call (by decide)) back)

end CallGraph

end CallAtlas
