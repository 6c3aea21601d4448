import CallAtlas.Proofs.Blocks
import CallAtlas.Proofs.Outcomes

set_option autoImplicit false

/-!
# Traversals of a view

The clusters of a view are walked through to list them, to draw them, to make elements of them and
to find the clusters around a node. `View.Traversed` says that all walks meet the same occurrences
in the same order, and that this is the order of their positions.
-/

namespace CallAtlas

namespace Cluster

theorem every_of_occurrences {P : Cluster → Prop} {c : Cluster}
    (h : ∀ o ∈ c.occurrences, P o.cluster) : Every P c := by
  induction c using of_inside with
  | _ c ih =>
  rw [occurrences_eq, List.forall_mem_cons] at h
  refine .intro h.1 fun d hd => ih d hd fun o ho => ?_
  obtain ⟨i, hi⟩ := List.getElem?_of_mem hd
  exact h.2 ((o.under (0 + i)).inside c)
    (List.mem_map_of_mem (mem_forestOccurrences.2 ⟨i, d, hi, o, ho, rfl⟩))

theorem forall_every_iff {P : Cluster → Prop} {forest : List Cluster} :
    (∀ c ∈ forest, Every P c) ↔ ∀ o ∈ forestOccurrences 0 forest, P o.cluster := by
  constructor
  · intro h o ho
    have met : (o.cluster, o.outer.getLast?) ∈ forestWithParents none forest := by
      rw [forestWithParents_none]
      exact List.mem_map_of_mem ho
    rw [forestWithParents_eq, List.mem_flatMap] at met
    obtain ⟨c, hc, met⟩ := met
    exact ((h c hc).every_of_mem_withParents met).here
  · intro h c hc
    obtain ⟨i, hi⟩ := List.getElem?_of_mem hc
    exact every_of_occurrences fun o ho =>
      h (o.under (0 + i)) (mem_forestOccurrences.2 ⟨i, c, hi, o, ho, rfl⟩)

end Cluster

def Element.isCluster : Element → Bool
  | .cluster .. => true
  | _ => false

namespace View

def occurrences (v : View) : List Cluster.Occurrence := Cluster.forestOccurrences 0 v.clusters

structure Textual (v : View) : Prop where
  program : v.program.isGiven → v.program.isText
  nodes : ∀ n ∈ v.nodes, n.id.isText ∧ n.label.isText ∧ n.package.isText
  edges : ∀ e ∈ v.edges, e.caller.isText ∧ e.callee.isText ∧ ∀ x ∈ e.sites, x.isText
  clusters : ∀ c ∈ v.clusters, Cluster.Every (fun c => c.label.isText) c

/-- The clusters and the list of loose nodes name nodes of the view. -/
structure Closed (v : View) : Prop where
  clusters : ∀ c ∈ v.clusters, Cluster.Every (fun c => ∀ id ∈ c.members, id ∈ v.ids) c
  loose : ∀ id ∈ v.loose, id ∈ v.ids

/-- What the walks through the clusters of a view have in common, if it is drawn as a document and
made into elements. -/
structure Traversed (v : View) (d : Dot.Document) (elements : List Element) : Prop where
  /-- The positions are in the order of an outline, and none comes twice. -/
  ordered : (v.occurrences.map Cluster.Occurrence.position).Pairwise (· < ·)
  complete : ∀ o : Cluster.Occurrence, o ∈ v.occurrences ↔
    Forest.trail? Cluster.clusters v.clusters o.position = some (o.outer ++ [o.cluster])
  visits : v.visits = v.occurrences.map fun o => (o.cluster, o.outer.getLast?)
  /-- There are blocks where there are clusters. -/
  blocks : ∀ position, (Forest.trail? Dot.Block.blocks d.blocks position).isSome ↔
    (Forest.trail? Cluster.clusters v.clusters position).isSome
  numbered : ∀ (k : Nat) (o : Cluster.Occurrence), v.occurrences[k]? = some o →
    ∃ outer b, Forest.trail? Dot.Block.blocks d.blocks o.position = some (outer ++ [b]) ∧
      b.number = k ∧ b.Shows v.nodes o.cluster
  elements : elements.filter Element.isCluster = v.occurrences.map Element.ofOccurrence
  chains : (v.occurrences.flatMap fun o => o.cluster.members).Nodup → ∀ id chain,
    v.chain? id = some chain ↔
      ∃ o ∈ v.occurrences, id ∈ o.cluster.members ∧ chain = o.outer ++ [o.cluster]

variable {v : View}

theorem Textual.drawable (textual : v.Textual) (closed : v.Closed) : Dot.Drawable v where
  title := exists_title textual.program
  nodes n hn := ⟨(textual.nodes n hn).1, (textual.nodes n hn).2.1⟩
  clusters c hc := (textual.clusters c hc).and (closed.clusters c hc)
  loose := closed.loose
  edges := textual.edges

theorem visits_eq (v : View) :
    v.visits = v.occurrences.map fun o => (o.cluster, o.outer.getLast?) := by
  rw [visits, Cluster.visit_eq, Cluster.push_eq, List.append_nil, List.flatMap_map, occurrences,
    ← Cluster.forestWithParents_none, Cluster.forestWithParents_eq]

theorem filter_isCluster (v : View) :
    (Element.ofForest none v.clusters ++ v.nodes.map (Element.ofNode v) ++
      v.edges.zipIdx.map fun e => Element.ofEdge e.1 e.2).filter Element.isCluster =
        v.occurrences.map Element.ofOccurrence := by
  have clusters : ∀ e ∈ v.occurrences.map Element.ofOccurrence, e.isCluster = true := by
    intro e he
    obtain ⟨o, -, rfl⟩ := List.mem_map.1 he
    rfl
  have nodes : ∀ e ∈ v.nodes.map (Element.ofNode v), ¬ e.isCluster = true := by
    intro e he
    obtain ⟨n, -, rfl⟩ := List.mem_map.1 he
    exact Bool.false_ne_true
  have edges : ∀ e ∈ v.edges.zipIdx.map fun e => Element.ofEdge e.1 e.2, ¬ e.isCluster = true := by
    intro e he
    obtain ⟨d, -, rfl⟩ := List.mem_map.1 he
    exact Bool.false_ne_true
  rw [Element.ofForest_none, List.filter_append, List.filter_append]
  change (v.occurrences.map _).filter _ ++ _ ++ _ = _
  rw [List.filter_eq_self.2 clusters, List.filter_eq_nil_iff.2 nodes,
    List.filter_eq_nil_iff.2 edges, List.append_nil, List.append_nil]

theorem chain?_eq_some_iff (texts : ∀ o ∈ v.occurrences, ∀ id ∈ o.cluster.members, id.isText)
    (nodup : (v.occurrences.flatMap fun o => o.cluster.members).Nodup) {id : Atom}
    {chain : List Cluster} :
    v.chain? id = some chain ↔
      ∃ o ∈ v.occurrences, id ∈ o.cluster.members ∧ chain = o.outer ++ [o.cluster] := by
  have placed : Cluster.forestPlacements [] v.clusters =
      v.occurrences.flatMap fun o => o.cluster.members.map fun id => (id, o.chain) :=
    Cluster.forestPlacements_nil v.clusters
  -- Nodes are looked up by the keys of their ids, and these are the ids since they are texts.
  have keys : (Cluster.forestPlacements [] v.clusters).map Atom.Table.keyOf =
      v.occurrences.flatMap fun o => o.cluster.members := by
    rw [placed, List.map_flatMap]
    refine List.flatMap_congr fun o ho => ?_
    rw [List.map_map]
    exact (List.map_congr_left fun id hid => Atom.key_of_isText (texts o ho id hid)).trans
      (List.map_id _)
  have nodup : ((Cluster.forestPlacements [] v.clusters).map Atom.Table.keyOf).Nodup := keys ▸ nodup
  have found : v.chain? id = some chain ↔ ∃ e ∈ Cluster.forestPlacements [] v.clusters,
      e.1.key = id.key ∧ e.2 = chain := by
    rw [chain?, chains, Atom.Table.ofList_of_nodup nodup, Atom.Table.find?, Option.map_eq_some_iff]
    refine exists_congr fun e => ?_
    rw [Roster.find?_eq_some_iff nodup, and_assoc]
    rfl
  simp only [found, placed, List.mem_flatMap, List.mem_map]
  constructor
  · rintro ⟨_, ⟨o, ho, known, hk, rfl⟩, same, rfl⟩
    obtain ⟨s, rfl⟩ := Atom.isText_iff.1 (texts o ho known hk)
    rw [Atom.key_eq_text.1 same.symm]
    exact ⟨o, ho, hk, rfl⟩
  · rintro ⟨o, ho, hid, rfl⟩
    exact ⟨(id, o.chain), ⟨o, ho, id, hid, rfl⟩, rfl, rfl⟩

/-- A view of texts is drawn as a document that is read back from its text, and made into elements;
and all walks through its clusters agree. -/
theorem traversals_agree (textual : v.Textual) (closed : v.Closed) :
    ∃ d elements, Dot.write v = .ok d.render ∧ Dot.Document.read d.render = some d ∧
      v.elements = .ok elements ∧ v.Traversed d elements := by
  have drawable := textual.drawable closed
  obtain ⟨d, hd⟩ := drawable.exists_document
  have drawn : Dot.Document.ofView v = .ok { d with edges := v.edges.map Dot.statementOf } :=
    hd v.edges drawable.mapM_edges
  obtain ⟨worded, next, blocks⟩ := Dot.ofView_spec drawn
  have texts : ∀ o ∈ v.occurrences, ∀ id ∈ o.cluster.members, id.isText := by
    intro o ho id hid
    obtain ⟨n, hn, rfl⟩ := List.mem_map.1 (Cluster.forall_every_iff.1 closed.clusters o ho id hid)
    exact (textual.nodes n hn).1
  have made := elements_of_texts (fun n hn => (textual.nodes n hn).2.2)
    fun e he => (textual.edges e he).2.2
  refine ⟨_, _, congrArg (Except.map Dot.Document.render) drawn, worded.read_render, made, ?_⟩
  exact {
    ordered := Cluster.pairwise_forestOccurrences v.clusters
    complete := fun _ => Cluster.mem_forestOccurrences_iff
    visits := visits_eq v
    blocks := fun position => by rw [Dot.isSome_trail?_blocks blocks position]
    numbered := fun k o ho => by
      obtain ⟨_, trail, outer, b, rfl, shown⟩ := Dot.numbered_blocksOf blocks ho
      exact ⟨outer, b, trail, shown⟩
    elements := filter_isCluster v
    chains := fun nodup _ _ => chain?_eq_some_iff texts nodup }

/-- A package with two types, of which the first one is shown with a package of its own, and a
second package. -/
def outline : View where
  nodes := ["a.f", "a.T.g", "a.T.h", "a.U.i", "b.k"].map fun id =>
    { id := .text id, name := .text id, label := .text id, package := .text "a"
      packageName := .text "a" }
  edges := [{ caller := .text "a.f", callee := .text "b.k", sites := [.text "a.go:3:2"] }]
  clusters := [
    { kind := "pkg", key := .text "a", label := .text "a", package := .text "a"
      members := [.text "a.f"]
      clusters := [
        { kind := "type", key := .text "a.T", label := .text "T", package := .text "a"
          members := [.text "a.T.g"]
          clusters := [{ kind := "pkg", key := .text "a", label := .text "a", package := .text "a"
                         members := [.text "a.T.h"] }] },
        { kind := "type", key := .text "a.U", label := .text "U", package := .text "a"
          members := [.text "a.U.i"] }] },
    { kind := "pkg", key := .text "b", label := .text "b", package := .text "b"
      members := [.text "b.k"] }]

theorem textual_outline : outline.Textual where
  program := by decide
  nodes := by decide
  edges := by decide
  clusters := Cluster.forall_every_iff.2 (by decide)

theorem closed_outline : outline.Closed where
  clusters := Cluster.forall_every_iff.2 (by decide)
  loose := by decide

theorem traversals_agree_outline :
    outline.Textual ∧ outline.Closed ∧
      outline.occurrences.map Cluster.Occurrence.position = [[0], [0, 0], [0, 0, 0], [0, 1], [1]] ∧
      (outline.visits.map fun p => (p.1.key, p.2.map Cluster.key)) =
        [(.text "a", none), (.text "a.T", some (.text "a")), (.text "a", some (.text "a.T")),
          (.text "a.U", some (.text "a")), (.text "b", none)] ∧
      (outline.chain? (.text "a.T.h")).map (List.map Cluster.key) =
        some [.text "a", .text "a.T", .text "a"] ∧
      ∃ d elements, Dot.write outline = .ok d.render ∧ Dot.Document.read d.render = some d ∧
        outline.elements = .ok elements ∧ outline.Traversed d elements := by
  have positions : outline.occurrences.map Cluster.Occurrence.position =
      [[0], [0, 0], [0, 0, 0], [0, 1], [1]] := by decide
  have agree := traversals_agree textual_outline closed_outline
  exact ⟨textual_outline, closed_outline, positions, by cbv, by cbv, agree⟩

end View

end CallAtlas
