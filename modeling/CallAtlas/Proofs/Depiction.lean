import CallAtlas.Proofs.Arrangement
import CallAtlas.Proofs.Chart

set_option autoImplicit false

/-!
# What the text of a view depicts

The text of a view of a well formed analysis of texts is read back as the chart of the view,
whatever stands in its names, ids, keys and sites. `Document.Depicts` says so, and that each node is
stated once and inside the clusters around it, each edge once, and everything on lines of its own.
-/

namespace CallAtlas

def Cluster.caption (c : Cluster) : String × String := (c.kind, c.key.inSentence)

def View.captions (v : View) (id : Atom) : List (String × String) :=
  ((v.chain? id).getD []).map Cluster.caption

namespace Dot

namespace Box

mutual

/-- The nodes of a box and of all boxes in it, each with the kinds and keys of the boxes around it,
outermost first. -/
def placed (outer : List (String × String)) : Box → List (Spot × List (String × String))
  | ⟨kind, key, _, _, spots, boxes⟩ =>
    spots.map (fun s => (s, outer ++ [(kind, key)])) ++ allPlaced (outer ++ [(kind, key)]) boxes

def allPlaced (outer : List (String × String)) : List Box → List (Spot × List (String × String))
  | [] => []
  | b :: bs => placed outer b ++ allPlaced outer bs

end

theorem allPlaced_ofClusters (v : View) (outer : List (String × String)) (cs : List Cluster) :
    allPlaced outer (ofClusters v cs) = cs.flatMap fun c => (ofCluster v c).placed outer := by
  induction cs with
  | nil => rfl
  | cons c cs ih => rw [ofClusters, allPlaced, ih, List.flatMap_cons]

theorem placed_ofCluster (v : View) (outer : List Cluster) (c : Cluster) :
    (ofCluster v c).placed (outer.map Cluster.caption) =
      (Cluster.placements outer c).map fun p => (.ofId v p.1, p.2.map Cluster.caption) := by
  induction c using Cluster.of_inside generalizing outer with
  | _ c ih =>
  have inner : outer.map Cluster.caption ++ [c.caption] = (outer ++ [c]).map Cluster.caption := by
    rw [List.map_append, List.map_singleton]
  have boxes : c.clusters.flatMap (fun d => (ofCluster v d).placed
      (outer.map Cluster.caption ++ [c.caption])) = (c.clusters.flatMap
        (Cluster.placements (outer ++ [c]))).map fun p =>
          (.ofId v p.1, p.2.map Cluster.caption) := by
    rw [List.map_flatMap]
    exact List.flatMap_congr fun d hd => by rw [inner, ih d hd]
  have here : (ofCluster v c).placed (outer.map Cluster.caption) =
      (c.members.map (Spot.ofId v)).map (fun s =>
        (s, outer.map Cluster.caption ++ [c.caption])) ++
        allPlaced (outer.map Cluster.caption ++ [c.caption]) (ofClusters v c.clusters) := by
    obtain ⟨kind, key, label, package, members, clusters, focused⟩ := c
    rfl
  rw [here, allPlaced_ofClusters, boxes, Cluster.placements_eq, List.map_append, List.map_map,
    List.map_map, inner]
  rfl

end Box

namespace Chart

def placed (c : Chart) : List (Spot × List (String × String)) :=
  c.loose.map (fun s => (s, [])) ++ Box.allPlaced [] c.boxes

theorem placed_ofView (v : View) :
    (ofView v).placed = v.loose.map (fun id => (.ofId v id, [])) ++
      (Cluster.forestPlacements [] v.clusters).map fun p =>
        (.ofId v p.1, p.2.map Cluster.caption) := by
  rw [placed, ofView, Box.allPlaced_ofClusters, List.map_map, Cluster.forestPlacements_eq,
    List.map_flatMap]
  exact congrArg _ (List.flatMap_congr fun c _ => Box.placed_ofCluster v [] c)

end Chart

/-- What the document of a view tells, and how its text stands on lines. -/
structure Document.Depicts (d : Document) (v : View) : Prop where
  written : write v = .ok d.render
  read : Chart.read d.render = some (.ofView v)
  /-- Each node is stated once, with its label, and inside the clusters around it. -/
  nodes : (Chart.ofView v).placed.Perm
    (v.nodes.map fun n => (⟨n.id.inSentence, n.label.inSentence⟩, v.captions n.id))
  edges : ((Chart.ofView v).arrows.map fun e => (e.tail, e.head)).Nodup
  /-- Nothing that is written of a view breaks out of its line. -/
  lines : d.render.toList.splitOn '\n' = d.lines.map String.toList ++ [[]]
  /-- Every line closes its quotes, and the lines close the braces that they open. -/
  rows : Rows 0 0 d.lines
  balanced : Balanced d.render

end Dot

namespace View

variable {v : View} (drawable : Dot.Drawable v) (nodup : v.ids.Nodup) (arranged : v.Arranged)

include drawable in
theorem eq_of_same {i j : Atom} (hi : i ∈ v.ids) (hj : j ∈ v.ids) (same : i.same j = true) :
    i = j := by
  obtain ⟨n, hn, rfl⟩ := List.mem_map.1 hi
  obtain ⟨m, hm, rfl⟩ := List.mem_map.1 hj
  rwa [Atom.same, decide_eq_true_iff, Atom.key_of_isText (drawable.nodes n hn).1,
    Atom.key_of_isText (drawable.nodes m hm).1] at same

include arranged in
theorem loose_append_placements_perm :
    (v.loose ++ (Cluster.forestPlacements [] v.clusters).map Prod.fst).Perm v.ids := by
  rw [Cluster.map_fst_forestPlacements [] none]
  exact arranged.once

include drawable nodup arranged

theorem captions_of_loose {id : Atom} (h : id ∈ v.loose) : v.captions id = [] := by
  have once := loose_append_placements_perm arranged
  have apart := (List.nodup_append'.1 (once.nodup_iff.2 nodup)).2.2
  have none : v.chain? id = none := by
    refine Atom.Table.find?_ofList_eq_none.2 fun p hp same => ?_
    have placed := List.mem_map_of_mem (f := Prod.fst) hp
    have eq := eq_of_same drawable (once.mem_iff.1 (List.mem_append_right _ placed))
      (once.mem_iff.1 (List.mem_append_left _ h)) same
    exact apart h (eq ▸ placed)
  rw [captions, none]
  rfl

theorem captions_of_placement {p : Atom × List Cluster}
    (h : p ∈ Cluster.forestPlacements [] v.clusters) :
    v.captions p.1 = p.2.map Cluster.caption := by
  have once := loose_append_placements_perm arranged
  have distinct := (List.nodup_append'.1 (once.nodup_iff.2 nodup)).2.1
  have mem {q : Atom × List Cluster} (hq : q ∈ Cluster.forestPlacements [] v.clusters) :
      q.1 ∈ v.ids := once.mem_iff.1 (List.mem_append_right _ (List.mem_map_of_mem hq))
  -- A later entry of the same node would hide this one, but each node has only one.
  have chain : v.chain? p.1 = some p.2 := by
    cases found : v.chain? p.1 with
    | none => exact absurd (by simp [Atom.same]) (Atom.Table.find?_ofList_eq_none.1 found p h)
    | some clusters =>
      obtain ⟨q, hq, same, rfl⟩ := Atom.Table.exists_of_find?_ofList found
      have eq := eq_of_same drawable (mem hq) (mem h) same
      rw [List.inj_on_of_nodup_map distinct hq h eq]
  rw [captions, chain]
  rfl

theorem placed_perm : (Dot.Chart.ofView v).placed.Perm
    (v.nodes.map fun n => (⟨n.id.inSentence, n.label.inSentence⟩, v.captions n.id)) := by
  have loose : v.loose.map (fun id => (Dot.Spot.ofId v id, [])) =
      v.loose.map fun id => (.ofId v id, v.captions id) :=
    List.map_congr_left fun id hid => by rw [captions_of_loose drawable nodup arranged hid]
  have inside : (Cluster.forestPlacements [] v.clusters).map (fun p =>
      (Dot.Spot.ofId v p.1, p.2.map Cluster.caption)) =
        ((Cluster.forestPlacements [] v.clusters).map Prod.fst).map fun id =>
          (.ofId v id, v.captions id) := by
    rw [List.map_map]
    refine List.map_congr_left fun p hp => ?_
    rw [Function.comp_apply, captions_of_placement drawable nodup arranged hp]
  have nodes : v.ids.map (fun id => (Dot.Spot.ofId v id, v.captions id)) =
      v.nodes.map fun n => (⟨n.id.inSentence, n.label.inSentence⟩, v.captions n.id) := by
    rw [ids, List.map_map]
    refine List.map_congr_left fun n hn => ?_
    rw [Function.comp_apply, Dot.Spot.ofId, drawable.node?_of_mem nodup hn]
    rfl
  rw [Dot.Chart.placed_ofView, loose, inside, ← List.map_append, ← nodes]
  exact (loose_append_placements_perm arranged).map _

omit nodup in
theorem nodup_arrows : ((Dot.Chart.ofView v).arrows.map fun e => (e.tail, e.head)).Nodup := by
  rw [Dot.Chart.ofView, List.map_map, List.Nodup, List.pairwise_map]
  refine arranged.edges.imp_of_mem fun {e d} he hd before same => ?_
  obtain ⟨tail, head⟩ := Prod.mk.inj same
  have eq {i j : Atom} (hi : i.isText) (hj : j.isText) (h : i.inSentence = j.inSentence) :
      i = j := by
    obtain ⟨s, rfl⟩ := Atom.isText_iff.1 hi
    obtain ⟨t, rfl⟩ := Atom.isText_iff.1 hj
    exact congrArg Atom.text h
  have caller := eq (drawable.edges e he).1 (drawable.edges d hd).1 tail
  have callee := eq (drawable.edges e he).2.1 (drawable.edges d hd).2.1 head
  rw [caller, callee] at before
  rcases before with h | ⟨-, h⟩
  · exact absurd h (irrefl_of Atom.Before _)
  · exact absurd h (irrefl_of Atom.Before _)

end View

namespace GroupKey

theorem colon_not_mem_text (k : GroupKey) : ':' ∉ k.text.toList := by cases k <;> decide

end GroupKey

theorem Function.kind_of_mem_clusterPath {f : Function} {group : List GroupKey}
    {focus : Option Atom} {c : Cluster} (h : c ∈ f.clusterPath group focus) :
    ∃ k : GroupKey, c.kind = k.text := by
  rcases f.cases_clusterPath h with rfl | ⟨recv, -, rfl⟩
  · exact ⟨.package, rfl⟩
  · exact ⟨.receiver, rfl⟩

namespace Analysis

section

variable {a : Analysis} (ha : a.WellFormed) (ht : a.Textual) {s : Selection} {focus : Option Atom}
  {v : View} (hv : a.view s focus = .ok v)

include ha ht hv

theorem kinds_of_view :
    ∀ c ∈ v.clusters, Cluster.Every (fun d => ':' ∉ d.kind.toList) c := by
  obtain ⟨-, rfl⟩ := (view_eq_ok_iff ha ht s focus).1 hv
  refine View.every_clustersOf ⟨fun _ _ h => h, fun _ _ _ h => h⟩ fun f hf c hc => ?_
  have shown := Stages.mem_functions_shown ha s focus (CallGraph.mem_orderedFunctions.1 hf)
  obtain ⟨k, kind⟩ := f.kind_of_mem_clusterPath hc
  obtain ⟨-, -, -, clusters⟩ := Function.of_mem_clusterPath (ht.packages f shown) hc
  exact ⟨kind ▸ k.colon_not_mem_text, clusters⟩

theorem program_of_view : v.program = a.program := by
  obtain ⟨-, rfl⟩ := (view_eq_ok_iff ha ht s focus).1 hv
  rfl

/-- Every view of an analysis of texts has a document that depicts it. -/
theorem document_depicts (program : a.program.isGiven → a.program.isText) :
    ∃ d, Dot.Document.ofView v = .ok d ∧ d.Depicts v := by
  have drawable := View.drawable_of_view ha ht program hv
  have arranged := arranged_of_view ha ht hv
  have nodup := arranged.nodup_ids
  rw [← program_of_view ha ht hv] at program
  have labelled (c : Cluster) (hc : c ∈ v.clusters) : Cluster.Every (Dot.Labelled v) c :=
    (drawable.clusters c hc).and (kinds_of_view ha ht hv c hc)
  obtain ⟨d, document, worded, chart⟩ := drawable.exists_chart nodup program labelled
  refine ⟨d, document, ?_⟩
  exact {
    written := congrArg (Except.map Dot.Document.render) document
    read := by
      rw [Dot.Chart.read, worded.read_render]
      exact chart
    nodes := View.placed_perm drawable nodup arranged
    edges := View.nodup_arrows drawable arranged
    lines := worded.splitOn_render
    rows := worded.rows
    balanced := worded.balanced }

end

/-- A program whose names hold quotes, backslashes, braces, brackets and line feeds. -/
def graffiti : Analysis where
  packages := [{ path := .text "\x7d\n", name := .text "]" }]
  functions := [
    { id := .text "\"->", name := .text "\\", package := .text "\x7d\n"
      recv := some (.text "*\x7b") },
    { id := .text "\n\"", name := .text "=\"", package := .text "\x7d\n" }]
  calls := [
    { caller := .text "\n\"", callee := .text "\"->", site := .text "\n\x7d", dynamic := true }]
  entryPoints := [.text "\n\""]
  program := .text "\"];"

theorem wellFormed_graffiti : graffiti.WellFormed where
  nodup_ids := by decide
  caller_mem := by decide
  callee_mem := by decide
  start_mem := by decide

theorem textual_graffiti : graffiti.Textual where
  ids := by decide
  packages := by decide
  names := by decide
  receivers := by decide
  sites := by decide

theorem document_depicts_graffiti :
    graffiti.WellFormed ∧ graffiti.Textual ∧ (graffiti.program.isGiven → graffiti.program.isText) ∧
      ∃ v, graffiti.view { group := [.package, .receiver] } none = .ok v ∧
        v.ids = [.text "\n\"", .text "\"->"] ∧
          ∃ d, Dot.Document.ofView v = .ok d ∧ d.Depicts v := by
  refine ⟨wellFormed_graffiti, textual_graffiti, fun _ => rfl, ?_⟩
  have ids : (graffiti.view { group := [.package, .receiver] } none).toOption.map View.ids =
      some [.text "\n\"", .text "\"->"] := by cbv
  obtain ⟨v, hv, ids⟩ := exists_ok_of_map ids
  exact ⟨v, hv, ids, document_depicts wellFormed_graffiti textual_graffiti hv fun _ => rfl⟩

end Analysis

end CallAtlas
