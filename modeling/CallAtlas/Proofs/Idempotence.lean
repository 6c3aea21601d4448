import CallAtlas.Proofs.Limits

set_option autoImplicit false

/-!
# Taking wrappers out once

A function that stays means the same before and after wrappers are taken out: where a wrapper was on
its way, there is a call of what the wrapper means. So a synthetic function that stays still means
several functions, and no wrapper is left to take out.
-/

namespace CallAtlas

namespace Outline

variable {o : Outline} {u v : Atom} {f : Function}

theorem Means.not_isSynthetic (h : o.Means u v) : ¬ o.IsSynthetic v := by
  induction h with
  | call _ hs => exact hs
  | through _ _ _ ih => exact ih

theorem isSynthetic_of_direct (h : o.direct.IsSynthetic v) : o.IsSynthetic v := by
  obtain ⟨f, ⟨hf, -⟩, hs, hi⟩ := h
  exact ⟨f, hf, hs, hi⟩

theorem stays_of_not_isSynthetic (hn : o.names v) (hs : ¬ o.IsSynthetic v) : o.Stays v := by
  obtain ⟨f, hf, rfl⟩ := hn
  exact ⟨f, ⟨hf, fun hw => hs ⟨f, hf, hw.2.1, rfl⟩⟩, rfl⟩

namespace IsClosed

variable (closed : o.IsClosed)

include closed

theorem isSynthetic_direct_iff (hv : o.Stays v) : o.direct.IsSynthetic v ↔ o.IsSynthetic v := by
  refine ⟨isSynthetic_of_direct, ?_⟩
  rintro ⟨k, hk, hs, hi⟩
  obtain ⟨f, hf, rfl⟩ := hv
  cases closed.unique k f hk hf.1 hi
  exact ⟨k, hf, hs, rfl⟩

theorem names_of_means (h : o.Means u v) : o.names v := by
  induction h with
  | call hc _ => exact closed.callee _ _ hc
  | through _ _ _ ih => exact ih

/-- A bridge ends at a function that is not synthetic, so only the last call on a way goes around a
wrapper. -/
theorem means_of_direct (h : o.direct.Means u v) : o.Means u v := by
  induction h with
  | @call u v hc hs =>
    have stays : o.Stays v := hc.2.2
    rw [closed.isSynthetic_direct_iff stays] at hs
    rcases hc.1 with hc | ⟨f, hf, hc, hm⟩
    · exact .call hc hs
    · exact .through hc ⟨f, hf.1, hf.2.1, rfl⟩ hm
  | @through u w v hc hs _ ih =>
    have hs := isSynthetic_of_direct hs
    rcases hc.1 with hc | ⟨f, -, -, hm⟩
    · exact .through hc hs ih
    · exact absurd hs hm.not_isSynthetic

theorem direct_means_of_means (hu : o.Stays u) (h : o.Means u v) : o.direct.Means u v := by
  induction h with
  | @call u v hc hs =>
    have hv := stays_of_not_isSynthetic (closed.callee u v hc) hs
    exact .call ⟨.inl hc, hu, hv⟩ fun h => hs (isSynthetic_of_direct h)
  | @through u w v hc hs hm ih =>
    by_cases hw : o.Stays w
    · exact .through ⟨.inl hc, hu, hw⟩ ((closed.isSynthetic_direct_iff hw).2 hs) (ih hw)
    · -- The first wrapper on the way means what the whole way leads to.
      obtain ⟨f, hf, rfl⟩ := wrapper_of_not_stays (closed.callee u w hc) hw
      have real := hm.not_isSynthetic
      have hv := stays_of_not_isSynthetic (closed.names_of_means hm) real
      exact .call (direct_calls_of_wrapper hu hf hc hm hv) fun h => real (isSynthetic_of_direct h)

theorem means_direct_iff (hu : o.Stays u) : o.direct.Means u v ↔ o.Means u v :=
  ⟨closed.means_of_direct, closed.direct_means_of_means hu⟩

theorem not_isWrapper_direct : ¬ o.direct.IsWrapper f := by
  rintro ⟨⟨hf, stays⟩, hs, single⟩
  refine stays ⟨hf, hs, fun t t' ht ht' => ?_⟩
  have hu : o.Stays f.id := ⟨f, ⟨hf, stays⟩, rfl⟩
  exact single t t' ((closed.means_direct_iff hu).2 ht) ((closed.means_direct_iff hu).2 ht')

end IsClosed

end Outline

namespace CallGraph

variable {g : CallGraph}

theorem withoutWrappers_of_wrappers_eq_nil (h : g.WellFormed) (none : g.wrappers = []) :
    g.withoutWrappers = g := by
  have bridged : g.bridged g.wrappers = g.edges := by
    rw [none]
    rfl
  unfold withoutWrappers
  dsimp only
  rw [bridged, none]
  exact without_nil h

theorem wrappers_withoutWrappers (h : g.WellFormed) : g.withoutWrappers.wrappers = [] := by
  have direct := g.fits_outline.withoutWrappers h.nodup_ids
  have nodup := h.withoutWrappers.nodup_ids
  have none : ∀ w, w ∉ g.withoutWrappers.wrappers := by
    intro w hw
    obtain ⟨f, hf, -, hi⟩ := direct.mem_synthetics.1 (mem_wrappers.1 hw).1
    have wrapper := (direct.isWrapper nodup ((direct.functions f).2 hf)).1
      (hi ▸ List.mem_map_of_mem hw)
    exact h.isClosed_outline.not_isWrapper_direct wrapper
  exact List.eq_nil_iff_forall_not_mem.2 none

/-- A synthetic function that stays leads to what it led to before, which is more than one function,
and taking wrappers out again changes nothing. -/
theorem withoutWrappers_settled (h : g.WellFormed) :
    (∀ id ∈ g.withoutWrappers.synthetics,
      (∃ u v, u ≠ v ∧ g.withoutWrappers.Leads g.withoutWrappers.synthetics id u ∧
        g.withoutWrappers.Leads g.withoutWrappers.synthetics id v) ∧
      ∀ v, g.withoutWrappers.Leads g.withoutWrappers.synthetics id v ↔ g.Leads g.synthetics id v) ∧
    g.withoutWrappers.withoutWrappers = g.withoutWrappers := by
  have closed := h.isClosed_outline
  have direct := g.fits_outline.withoutWrappers h.nodup_ids
  refine ⟨fun id hid => ?_, ?_⟩
  · obtain ⟨f, ⟨hf, stays⟩, hs, rfl⟩ := direct.mem_synthetics.1 hid
    refine ⟨?_, fun v => ?_⟩
    · by_contra single
      refine closed.not_isWrapper_direct (f := f) ⟨⟨hf, stays⟩, hs, fun u v hu hv => ?_⟩
      by_contra ne
      exact single ⟨u, v, ne, direct.leads_iff.2 hu, direct.leads_iff.2 hv⟩
    · rw [direct.leads_iff, g.fits_outline.leads_iff]
      exact closed.means_direct_iff ⟨f, ⟨hf, stays⟩, rfl⟩
  · exact withoutWrappers_of_wrappers_eq_nil h.withoutWrappers (wrappers_withoutWrappers h)

theorem withoutWrappers_settled_roundabout :
    roundabout.WellFormed ∧ roundabout.withoutWrappers.synthetics = [.text "x"] ∧
      (∀ v, roundabout.withoutWrappers.Leads [.text "x"] (.text "x") v ↔
        roundabout.Leads roundabout.synthetics (.text "x") v) ∧
      roundabout.withoutWrappers.callees (.text "x") = [.text "b", .text "a"] ∧
      roundabout.withoutWrappers.withoutWrappers = roundabout.withoutWrappers := by
  have synthetics : roundabout.withoutWrappers.synthetics = [.text "x"] := by cbv
  obtain ⟨leads, settled⟩ := withoutWrappers_settled wellFormed_roundabout
  rw [synthetics] at leads
  refine ⟨wellFormed_roundabout, synthetics, ?_, by cbv, settled⟩
  exact (leads _ (List.mem_singleton_self _)).2

end CallGraph

end CallAtlas
