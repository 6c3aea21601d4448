import CallAtlas.Proofs.Parts

set_option autoImplicit false

/-!
# Path filters come last

Wrappers are bridged and levels are counted before any path is looked at, and without a focus nothing
is cut after the filters. So a view with path filters is the view without them, less the nodes that do
not pass and the edges at these.
-/

namespace CallAtlas

namespace CallGraph

variable {g : CallGraph}

theorem passes_nil (package : Atom) : passes [] [] package = true := by
  cases package <;> simp [passes, Atom.startsWithAny, Atom.text?, Text.startsWithAny]

theorem WellFormed.filtered_nil (h : g.WellFormed) : g.filtered [] [] = g :=
  h.restrict_eq_self fun f _ => passes_nil f.package

theorem orderedFunctions_restrict (h : g.ids.Nodup) (keep : Function → Bool) :
    (g.restrict keep).orderedFunctions = g.orderedFunctions.filter keep := by
  have part : (g.restrict keep).ids.Nodup := h.sublist (List.filter_sublist.map Function.id)
  have whole : (g.orderedFunctions.filter keep).Pairwise fun f k => Atom.Before f.id k.id :=
    (pairwise_orderedFunctions h).filter keep
  refine eq_of_pairwise_of_mem_iff (pairwise_orderedFunctions part) whole fun f => ?_
  rw [List.mem_filter, mem_orderedFunctions, mem_orderedFunctions, mem_functions_restrict]

end CallGraph

namespace View

variable {a : Analysis} {group : List GroupKey} {focus : Option Atom} {g : CallGraph}
  (hg : g.WellFormed)

include hg

theorem nodes_ofGraph_filtered (ignore only : List String) :
    (ofGraph a group focus [] (g.filtered ignore only)).nodes =
      (ofGraph a group focus [] g).nodes.filter
        fun n => CallGraph.passes ignore only n.package := by
  change (g.filtered ignore only).orderedFunctions.map (nodeOf a group focus []) =
    (g.orderedFunctions.map (nodeOf a group focus [])).filter _
  rw [CallGraph.filtered, CallGraph.orderedFunctions_restrict hg.nodup_ids, List.filter_map]
  rfl

theorem edges_ofGraph_filtered (ignore only : List String)
    (texts : ∀ e ∈ g.edges, e.callee.isText) :
    (ofGraph a group focus [] (g.filtered ignore only)).edges =
      (ofGraph a group focus [] g).between
        (ofGraph a group focus [] (g.filtered ignore only)).ids :=
  edges_ofGraph_eq_between (hg.filtered ignore only) hg (CallGraph.induced_restrict g _) texts

end View

namespace Selection

def unfiltered (s : Selection) : Selection := { s with ignore := [], only := [] }

end Selection

namespace Stages

variable {a : Analysis} (ha : a.WellFormed) (s : Selection)

theorem shallow_unfiltered (focus : Option Atom) :
    (run a s.unfiltered focus).shallow = (run a s focus).shallow := rfl

include ha

/-- Without a focus the filters have the last word. -/
theorem shown_eq_filtered :
    (run a s none).shown = (run a s.unfiltered none).shown.filtered s.ignore s.only := by
  have unfiltered : (run a s.unfiltered none).shown = (run a s none).shallow :=
    (wellFormed_shallow ha s.unfiltered none).filtered_nil.trans (shallow_unfiltered s none)
  rw [unfiltered]
  rfl

end Stages

namespace Analysis

variable {a : Analysis}

/-- A selection has a view if the selection without its path filters has one with a node that passes
them. Its nodes are those that pass, and its edges those between them. -/
theorem view_filtered (ha : a.WellFormed) (ht : a.Textual) (s : Selection) :
    ((∃ w, a.view s none = .ok w) ↔
      ∃ v, a.view s.unfiltered none = .ok v ∧
        ∃ n ∈ v.nodes, CallGraph.passes s.ignore s.only n.package = true) ∧
    ∀ w, a.view s none = .ok w →
      ∃ v, a.view s.unfiltered none = .ok v ∧
        w.nodes = v.nodes.filter (fun n => CallGraph.passes s.ignore s.only n.package) ∧
        w.edges = v.between w.ids := by
  have shown := Stages.shown_eq_filtered ha s
  have whole := Stages.wellFormed_shown ha s.unfiltered none
  have callee (e : Edge) (he : e ∈ (Stages.run a s.unfiltered none).shown.edges) :
      e.callee.isText := (Stages.isText_ends ha ht s.unfiltered none he).2
  simp only [view_eq_ok_iff_exists_node ha ht, shown]
  constructor
  · constructor
    · rintro ⟨w, rfl, n, hn⟩
      rw [View.nodes_ofGraph_filtered whole, List.mem_filter] at hn
      exact ⟨_, ⟨rfl, n, hn.1⟩, n, hn⟩
    · rintro ⟨v, ⟨rfl, -⟩, n, hn⟩
      refine ⟨_, rfl, n, ?_⟩
      rw [View.nodes_ofGraph_filtered whole, List.mem_filter]
      exact hn
  · rintro w ⟨rfl, n, hn⟩
    rw [View.nodes_ofGraph_filtered whole] at hn
    exact ⟨_, ⟨rfl, n, (List.mem_filter.1 hn).1⟩, View.nodes_ofGraph_filtered whole _ _,
      View.edges_ofGraph_filtered whole _ _ callee⟩

/-- One level of the library without the caller that puts it there. -/
def withoutCaller : Selection := { oneLevel with ignore := ["app"] }

theorem view_filtered_relay :
    relay.WellFormed ∧ relay.Textual ∧
      ∃ w v, relay.view withoutCaller none = .ok w ∧ relay.view oneLevel none = .ok v ∧
        w.ids = [.text "lib.run"] ∧
        w.nodes = v.nodes.filter (fun n => CallGraph.passes ["app"] [] n.package) ∧
        w.edges = v.between w.ids := by
  have ids : (relay.view withoutCaller none).toOption.map View.ids = some [.text "lib.run"] := by
    cbv
  obtain ⟨w, hw, ids⟩ := exists_ok_of_map ids
  obtain ⟨v, hv, nodes, edges⟩ :=
    (view_filtered wellFormed_relay textual_relay withoutCaller).2 w hw
  exact ⟨wellFormed_relay, textual_relay, w, v, hw, hv, ids, nodes, edges⟩

end Analysis

end CallAtlas
