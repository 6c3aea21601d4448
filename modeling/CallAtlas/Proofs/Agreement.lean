import CallAtlas.Proofs.Dispatch
import CallAtlas.Proofs.Reordering
import CallAtlas.Proofs.Views
import CallAtlas.Session

set_option autoImplicit false

/-!
# Views of reordered analyses

Outlines say nothing of order, so analyses that hold the same in another order have the same
outlines, and their views show the same functions and edges. Only which edges are dynamic may
differ, because a search through wrappers skips what it has seen.
-/

namespace CallAtlas

def ViewEdge.still (e : ViewEdge) : ViewEdge := { e with dynamic := false }

theorem ViewEdge.still_eq_iff {e d : ViewEdge} :
    e.still = d.still ↔
      e.caller = d.caller ∧ e.callee = d.callee ∧ e.sites = d.sites ∧ e.elided = d.elided := by
  simp only [still, ViewEdge.mk.injEq, true_and]

def View.still (v : View) : View := { v with edges := v.edges.map ViewEdge.still }

/-- Strictly ordered sites are given by what is among them. -/
theorem Site.Neat.eq_of_mem_iff {xs ys : List Site} (hx : Neat xs) (hy : Neat ys)
    (same : ∀ x, x ∈ xs ↔ x ∈ ys) : xs = ys := by
  have ordered {zs : List Site} (hz : Neat zs) :
      zs.Pairwise fun x y => Atom.Before (id x) (id y) := hz.ordered
  exact eq_of_pairwise_of_mem_iff (ordered hx) (ordered hy) same

namespace ViewEdge

def le (e d : ViewEdge) : Bool :=
  e.caller.before d.caller || (e.caller = d.caller && e.callee.le d.callee)

theorem sortsBy_le : SortsBy Atom.PairBefore (fun e : ViewEdge => (e.caller, e.callee)) le :=
  fun _ _ => Atom.pair_le_iff

end ViewEdge

def Edge.still (e : Edge) : ViewEdge := (View.edgeOf [] e).still

namespace Stages

variable {a : Analysis} (ha : a.WellFormed) (ht : a.Textual) (s : Selection) (focus : Option Atom)

include ha ht

theorem still_eq {e : Edge} (he : e ∈ (run a s focus).shown.edges) :
    e.still = ⟨e.caller, e.callee, e.sites, false, e.elided⟩ := by
  rw [Edge.still, View.edgeOf_of_isText (isText_ends ha ht s focus he).2]
  rfl

theorem nodup_still : ((run a s focus).shown.edges.map Edge.still).Nodup := by
  refine List.Nodup.of_map (fun e => (e.caller, e.callee)) ?_
  have ends : ((run a s focus).shown.edges.map Edge.still).map (fun e => (e.caller, e.callee)) =
      (run a s focus).shown.edges.map Edge.ends := by
    rw [List.map_map]
    refine List.map_congr_left fun e he => ?_
    rw [Function.comp_apply, still_eq ha ht s focus he]
    rfl
  rw [ends]
  exact (wellFormed_shown ha s focus).nodup_ends

theorem map_still_orderedEdges :
    ((run a s focus).shown.orderedEdges.map (View.edgeOf [])).map ViewEdge.still =
      ((run a s focus).shown.edges.map Edge.still).mergeSort ViewEdge.le := by
  rw [List.map_map]
  refine List.map_mergeSort fun e he d hd => ?_
  change _ = ViewEdge.le e.still d.still
  rw [still_eq ha ht s focus he, still_eq ha ht s focus hd]
  rfl

theorem eq_of_still_le {x y : ViewEdge} (hx : x ∈ (run a s focus).shown.edges.map Edge.still)
    (hy : y ∈ (run a s focus).shown.edges.map Edge.still) (hxy : x.le y) (hyx : y.le x) : x = y := by
  obtain ⟨e, he, rfl⟩ := List.mem_map.1 hx
  obtain ⟨d, hd, rfl⟩ := List.mem_map.1 hy
  obtain ⟨caller, callee⟩ := Prod.mk.inj (ViewEdge.sortsBy_le.key_eq hxy hyx)
  rw [still_eq ha ht s focus he, still_eq ha ht s focus hd] at caller callee
  have same : e = d := List.inj_on_of_nodup_map (wellFormed_shown ha s focus).nodup_ends he hd
    (Prod.ext caller callee)
  rw [same]

end Stages

namespace Analysis

variable {a b : Analysis}

theorem WellFormed.reordered (ha : a.WellFormed) (h : a.Reordered b) : b.WellFormed where
  nodup_ids := (h.functions.map Function.id).nodup_iff.1 ha.nodup_ids
  caller_mem c hc := (h.functions.map Function.id).mem_iff.1
    (ha.caller_mem c (h.calls.mem_iff.2 hc))
  callee_mem c hc := (h.functions.map Function.id).mem_iff.1
    (ha.callee_mem c (h.calls.mem_iff.2 hc))
  start_mem id hid := (h.functions.map Function.id).mem_iff.1
    (ha.start_mem id ((h.entryPoints.map Atom.key).mem_iff.2 hid))

theorem Textual.reordered (ha : a.Textual) (h : a.Reordered b) : b.Textual where
  ids f hf := ha.ids f (h.functions.mem_iff.2 hf)
  packages f hf := ha.packages f (h.functions.mem_iff.2 hf)
  names f hf := ha.names f (h.functions.mem_iff.2 hf)
  receivers f hf := ha.receivers f (h.functions.mem_iff.2 hf)
  sites c hc := ha.sites c (h.calls.mem_iff.2 hc)

theorem StaticChains.reordered (static : a.StaticChains) (h : a.Reordered b) : b.StaticChains := by
  unfold StaticChains IsSynthetic at static ⊢
  simpa only [h.functions.mem_iff, h.calls.mem_iff] using static

theorem package?_reordered (ha : a.Catalogued) (h : a.Reordered b) (path : Atom) :
    a.package? path = b.package? path := Roster.find?_perm ha.nodup_paths h.packages path.key

theorem focus?_reordered (ha : a.Catalogued) (h : a.Reordered b) (token : String) :
    a.focus? token = b.focus? token := by
  have called : (a.packagesCalled token).Perm (b.packagesCalled token) := h.packages.filter _
  have paths : ∀ p ∈ a.packagesCalled token, p.path.isText :=
    fun p hp => ha.paths p (List.mem_filter.1 hp).1
  unfold focus?
  rw [package?_reordered ha h]
  generalize a.packagesCalled token = ps at called paths
  generalize b.packagesCalled token = qs at called
  -- Only several packages of one name can come in another order, and then they are sorted.
  match ps, qs with
  | [], [] => rfl
  | [p], [q] =>
    rw [List.singleton_perm_singleton.1 called]
  | p :: p' :: ps, q :: q' :: qs =>
    have texts : ∀ x ∈ (p :: p' :: ps).map Package.path, x.isText := by
      intro x hx
      obtain ⟨r, hr, rfl⟩ := List.mem_map.1 hx
      exact paths r hr
    have perm := called.map Package.path
    have texts' : ∀ x ∈ (q :: q' :: qs).map Package.path, x.isText :=
      fun x hx => texts x (perm.mem_iff.2 hx)
    dsimp only
    rw [Atom.ofOneKind_of_texts texts, Atom.ofOneKind_of_texts texts',
      Atom.sortedBy_eq_of_perm texts perm]
  | [], _ :: _ => exact absurd called.symm.eq_nil (List.cons_ne_nil _ _)
  | _ :: _, [] => exact absurd called.eq_nil (List.cons_ne_nil _ _)
  | [_], _ :: _ :: _ => exact absurd called.length_eq (by simp)
  | _ :: _ :: _, [_] => exact absurd called.length_eq (by simp)

theorem request_reordered (ha : a.Catalogued) (h : a.Reordered b) (baseline : Settings)
    (o : Settings) : (Session.mk a baseline).request o = (Session.mk b baseline).request o := by
  unfold Session.request
  simp only [focus?_reordered ha h]

namespace Reordered

variable (h : a.Reordered b)

include h

theorem symm : b.Reordered a :=
  ⟨h.packages.symm, h.functions.symm, h.calls.symm, h.entryPoints.symm, h.program.symm⟩

theorem mem_starts_iff {id : Atom} : id ∈ a.starts ↔ id ∈ b.starts :=
  (h.entryPoints.map Atom.key).mem_iff

theorem calls_eq : a.Calls = b.Calls := by
  funext u v
  simp only [Calls, h.calls.mem_iff]

theorem runs_eq : a.Runs = b.Runs := by
  funext v
  simp only [Runs, h.mem_starts_iff, h.calls_eq]

theorem whole_eq : Outline.whole a = Outline.whole b := by
  have functions : (fun f => f ∈ a.functions) = fun f => f ∈ b.functions :=
    funext fun f => propext h.functions.mem_iff
  rw [Outline.whole, Outline.whole, functions, h.calls_eq, h.runs_eq]

theorem authored_eq (s : Selection) : s.authored a = s.authored b := by
  rw [Selection.authored, Selection.authored, h.whole_eq]

theorem direct_eq (s : Selection) : s.direct a = s.direct b := by
  rw [Selection.direct, Selection.direct, h.authored_eq]

theorem shallow_eq (s : Selection) : s.shallow a = s.shallow b := by
  rw [Selection.shallow, Selection.shallow, h.direct_eq]
  simp only [Outline.shallow, Outline.IsFirst, h.mem_starts_iff]

theorem passing_eq (s : Selection) : s.passing a = s.passing b := by
  rw [Selection.passing, Selection.passing, h.shallow_eq]

theorem shown_eq (s : Selection) (focus : Option Atom) : s.shown a focus = s.shown b focus := by
  cases focus with
  | none => exact h.passing_eq s
  | some path => exact congrArg (Outline.around · path) (h.passing_eq s)

theorem replaces_eq (s : Selection) : s.Replaces a = s.Replaces b := by
  funext id v
  rw [Selection.Replaces, Selection.Replaces, h.authored_eq]

theorem counts_eq (s : Selection) : s.Counts a = s.Counts b := by
  funext u v c
  rw [Selection.Counts, Selection.Counts, h.replaces_eq]

variable (ha : a.WellFormed) (ht : a.Textual) (s : Selection) (focus : Option Atom)

include ha

theorem perm_shown : (Stages.run a s focus).shown.functions.Perm
    (Stages.run b s focus).shown.functions := by
  have hb := ha.reordered h
  refine (List.perm_ext_iff_of_nodup (Stages.wellFormed_shown ha s focus).nodup_ids.of_map
    (Stages.wellFormed_shown hb s focus).nodup_ids.of_map).2 fun f => ?_
  rw [(Stages.fits_shown ha s focus).functions, (Stages.fits_shown hb s focus).functions,
    h.shown_eq]

theorem emptiness_eq :
    (Stages.run a s focus).emptiness focus = (Stages.run b s focus).emptiness focus := by
  have hb := ha.reordered h
  have shown := (h.perm_shown ha s focus).isEmpty_eq
  unfold Stages.emptiness
  rw [shown]
  cases focus with
  | none => rfl
  | some path =>
    have members : ((Stages.run a s (some path)).filtered.members path).isEmpty =
        ((Stages.run b s (some path)).filtered.members path).isEmpty := by
      rw [Bool.eq_iff_iff, List.isEmpty_iff, List.isEmpty_iff, List.eq_nil_iff_forall_not_mem,
        List.eq_nil_iff_forall_not_mem]
      simp only [(Stages.fits_filtered ha s (some path)).mem_members,
        (Stages.fits_filtered hb s (some path)).mem_members, h.passing_eq]
    dsimp only
    rw [members]

theorem orderedFunctions_eq : (Stages.run a s focus).shown.orderedFunctions =
    (Stages.run b s focus).shown.orderedFunctions := by
  refine mergeSort_eq_of_perm (fun _ _ _ => Atom.le_trans) (fun _ _ => Atom.le_total _ _) ?_
    (h.perm_shown ha s focus)
  intro f hf k hk hfk hkf
  have nodup := (Stages.wellFormed_shown ha s focus).nodup_ids
  exact List.inj_on_of_nodup_map nodup hf hk (Atom.le_antisymm hfk hkf)

theorem exists_still (ht : a.Textual) {e : Edge} (he : e ∈ (Stages.run a s focus).shown.edges) :
    ∃ d ∈ (Stages.run b s focus).shown.edges, d.still = e.still := by
  have hb := ha.reordered h
  have tb := ht.reordered h
  have ends : e.ends ∈ (Stages.run b s focus).shown.edges.map Edge.ends := by
    have calls := ((Stages.fits_shown ha s focus).calls e.caller e.callee).1 (List.mem_map_of_mem he)
    rw [h.shown_eq] at calls
    exact ((Stages.fits_shown hb s focus).calls e.caller e.callee).2 calls
  obtain ⟨d, hd, hends⟩ := List.mem_map.1 ends
  have caller : d.caller = e.caller := congrArg Prod.fst hends
  have callee : d.callee = e.callee := congrArg Prod.snd hends
  have direct := Stages.direct_of_shown ha s focus he
  have direct' := Stages.direct_of_shown hb s focus hd
  have sites : d.sites = e.sites := by
    refine (Stages.neat_direct hb tb s focus direct').eq_of_mem_iff
      (Stages.neat_direct ha ht s focus direct) fun x => ?_
    rw [Stages.sites_direct hb tb s focus direct', Stages.sites_direct ha ht s focus direct,
      caller, callee, h.counts_eq]
    simp only [h.calls.mem_iff]
  have elided : d.elided = e.elided := by
    rw [Bool.eq_iff_iff, Stages.elided_direct hb tb s focus direct',
      Stages.elided_direct ha ht s focus direct, caller, callee, h.calls_eq]
  refine ⟨d, hd, ?_⟩
  rw [Stages.still_eq ha ht s focus he, Stages.still_eq hb tb s focus hd, caller, callee, sites,
    elided]

theorem still_edges_eq (ht : a.Textual) :
    ((Stages.run a s focus).shown.orderedEdges.map (View.edgeOf [])).map ViewEdge.still =
      ((Stages.run b s focus).shown.orderedEdges.map (View.edgeOf [])).map ViewEdge.still := by
  have hb := ha.reordered h
  have tb := ht.reordered h
  rw [Stages.map_still_orderedEdges ha ht, Stages.map_still_orderedEdges hb tb]
  refine mergeSort_eq_of_perm ViewEdge.sortsBy_le.trans ViewEdge.sortsBy_le.total
    (fun _ hx _ hy => Stages.eq_of_still_le ha ht s focus hx hy) ?_
  refine (List.perm_ext_iff_of_nodup (Stages.nodup_still ha ht s focus)
    (Stages.nodup_still hb tb s focus)).2 fun x => ?_
  constructor
  · intro hx
    obtain ⟨e, he, rfl⟩ := List.mem_map.1 hx
    obtain ⟨d, hd, hs⟩ := h.exists_still ha s focus ht he
    exact List.mem_map.2 ⟨d, hd, hs⟩
  · intro hx
    obtain ⟨e, he, rfl⟩ := List.mem_map.1 hx
    obtain ⟨d, hd, hs⟩ := h.symm.exists_still hb s focus tb he
    exact List.mem_map.2 ⟨d, hd, hs⟩

theorem view_still_eq (ht : a.Textual) (hc : a.Catalogued) :
    (∃ e, a.view s focus = .error e ∧ b.view s focus = .error e) ∨
      ∃ v w, a.view s focus = .ok v ∧ b.view s focus = .ok w ∧ v.still = w.still := by
  have hb := ha.reordered h
  have tb := ht.reordered h
  have empty := h.emptiness_eq ha s focus
  rw [view_eq ha ht, view_eq hb tb, ← empty]
  cases (Stages.run a s focus).emptiness focus with
  | some e => exact .inl ⟨e, rfl, rfl⟩
  | none =>
    refine .inr ⟨_, _, rfl, rfl, ?_⟩
    have nodes : View.nodeOf a s.group focus [] = View.nodeOf b s.group focus [] := by
      funext f
      rw [View.nodeOf, View.nodeOf, package?_reordered hc h]
    have functions := h.orderedFunctions_eq ha s focus
    have edges := h.still_edges_eq ha s focus ht
    unfold View.still View.ofGraph
    dsimp only
    rw [nodes, functions, edges, h.program]

end Reordered

end Analysis

end CallAtlas
