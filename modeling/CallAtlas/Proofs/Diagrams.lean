import CallAtlas.Proofs.ElementIds

set_option autoImplicit false

/-!
# Diagrams of a view

The elements of a diagram are its clusters, nodes and edges, and clusters and nodes name the cluster
that they stand in. Two walks make these names, and the chains around the nodes come from a third
one; `View.Mirrored` says what they agree on.
-/

namespace CallAtlas

theorem Forest.trail?_of_concat {α : Type} {inside : α → List α} {forest trail : List α} {t : α}
    {position : List Nat} {i : Nat}
    (h : trail? inside forest (position ++ [i]) = some (trail ++ [t])) :
    trail? inside forest position = some trail := by
  induction position generalizing forest trail with
  | nil =>
    have length := length_of_trail? h
    simp only [List.length_append, List.length_nil, List.length_singleton] at length
    rw [List.length_eq_zero_iff.1 (by omega : trail.length = 0)]
    rfl
  | cons j position ih =>
    simp only [List.cons_append, trail?, Option.bind_eq_some_iff, Option.map_eq_some_iff] at h
    obtain ⟨u, hu, rest, hr, split⟩ := h
    cases trail with
    | nil =>
      have length := length_of_trail? hr
      rw [(List.cons.inj split).2] at length
      simp at length
    | cons _ trail =>
      obtain ⟨rfl, rfl⟩ := List.cons.inj split
      simp [trail?, hu, ih hr]

theorem lt_concat (p : List Nat) (i : Nat) : p < p ++ [i] := by
  induction p with
  | nil => exact List.nil_lt_cons _ _
  | cons j p ih => exact List.cons_lt_cons_iff.2 (.inr ⟨rfl, ih⟩)

namespace Cluster

variable {forest : List Cluster} {o : Occurrence}

theorem Occurrence.In.around (h : o.In forest) (some : o.outer ≠ []) :
    ∃ p : Occurrence, p.In forest ∧ p.chain = o.outer ∧ p.position < o.position := by
  obtain ⟨outer, c, around⟩ := (List.eq_nil_or_concat o.outer).resolve_left some
  have length := Forest.length_of_trail? h
  have long : o.position ≠ [] := by
    intro none
    simp [none, Occurrence.chain] at length
  obtain ⟨position, i, way⟩ := (List.eq_nil_or_concat o.position).resolve_left long
  rw [List.concat_eq_append] at around way
  rw [Occurrence.In, Occurrence.chain, way, around] at h
  refine ⟨⟨position, outer, c⟩, Forest.trail?_of_concat h, around.symm, ?_⟩
  rw [way]
  exact lt_concat position i

theorem Occurrence.In.exists_root (h : o.In forest) : ∃ c ∈ forest, ∃ rest, o.chain = c :: rest := by
  obtain ⟨position, outer, cluster⟩ := o
  cases position with
  | nil => simp [Occurrence.In, Occurrence.chain, Forest.trail?] at h
  | cons i position =>
    simp only [Occurrence.In, Forest.trail?, Option.bind_eq_some_iff, Option.map_eq_some_iff] at h
    obtain ⟨c, hc, rest, -, chain⟩ := h
    exact ⟨c, List.mem_of_getElem? hc, rest, chain.symm⟩

theorem mem_of_position_lt {before after : List Occurrence} {p : Occurrence}
    (split : forestOccurrences 0 forest = before ++ o :: after) (hp : p.In forest)
    (up : p.position < o.position) : p ∈ before := by
  have ordered := pairwise_forestOccurrences forest
  have listed := mem_forestOccurrences_iff.2 hp
  rw [split] at ordered listed
  rw [List.pairwise_map, List.pairwise_append, List.pairwise_cons] at ordered
  rcases List.mem_append.1 listed with here | there
  · exact here
  · rcases List.mem_cons.1 there with rfl | there
    · exact absurd up (List.lt_irrefl _)
    · exact absurd (List.lt_trans up (ordered.2.1.1 p there)) (List.lt_irrefl _)

end Cluster

namespace Element

theorem forestHomes_eq (parent : Option String) (cs : List Cluster) :
    forestHomes parent cs = cs.flatMap (homes parent) := by
  induction cs with
  | nil => rfl
  | cons c cs ih => rw [forestHomes, ih, List.flatMap_cons]

theorem homes_eq (parent : Option String) (c : Cluster) :
    homes parent c = c.members.map (fun member => (member, clusterId parent c.kind c.key)) ++
      c.clusters.flatMap (homes (some (clusterId parent c.kind c.key))) := by
  obtain ⟨kind, key, label, package, members, clusters, focused⟩ := c
  rw [homes, forestHomes_eq]

theorem forestHomes_none (cs : List Cluster) :
    forestHomes none cs = (Cluster.forestPlacements [] cs).map fun p => (p.1, pathId p.2) := by
  rw [forestHomes_eq, Cluster.forest_walk_eq homes_eq, Cluster.forestPlacements_nil,
    List.map_flatMap]
  refine List.flatMap_congr fun o _ => ?_
  rw [foldl_clusterId, clusterId_parentId, List.map_map]
  rfl

theorem home?_eq (v : View) (id : Atom) : home? v id = (v.chain? id).map pathId := by
  rw [home?, View.chain?, View.chains, Atom.Table.find?_ofList, forestHomes_none, ← List.map_reverse,
    List.find?_map, Option.map_map, Option.map_map]
  rfl

def parent? : Element → Option String
  | .cluster _ _ _ _ parent => parent
  | .function _ _ parent => parent
  | .call .. => none

def isFunction : Element → Bool
  | .function .. => true
  | _ => false

end Element

/-- Names that take the colours of a palette in turn are told apart by them, unless there are more
names than colours. -/
theorem palette_getD_eq_iff {α : Type} {palette : List α} (distinct : palette.Nodup)
    {names : List Atom} (texts : ∀ name ∈ names, name.isText)
    (few : names.eraseDups.length ≤ palette.length) {x y : Atom} (hx : x ∈ names) (hy : y ∈ names)
    (other : α) :
    palette.getD ((Atom.sorted (names.map Atom.key).eraseDups).idxOf x.key % palette.length) other =
      palette.getD ((Atom.sorted (names.map Atom.key).eraseDups).idxOf y.key % palette.length)
        other ↔ x = y := by
  have keys : names.map Atom.key = names :=
    (List.map_congr_left fun name hname => Atom.key_of_isText (texts name hname)).trans
      (List.map_id _)
  rw [keys, Atom.key_of_isText (texts x hx), Atom.key_of_isText (texts y hy)]
  have known {z : Atom} (hz : z ∈ names) : z ∈ Atom.sorted names.eraseDups := by
    rwa [Atom.mem_sorted, List.mem_eraseDups]
  have place {z : Atom} (hz : z ∈ names) :
      (Atom.sorted names.eraseDups).idxOf z < palette.length := by
    rw [← (Atom.sorted_perm _).length_eq] at few
    exact Nat.lt_of_lt_of_le (List.idxOf_lt_length_of_mem (known hz)) few
  have color {z : Atom} (hz : z ∈ names) :
      palette.getD ((Atom.sorted names.eraseDups).idxOf z % palette.length) other =
        palette.get ⟨(Atom.sorted names.eraseDups).idxOf z, place hz⟩ := by
    rw [Nat.mod_eq_of_lt (place hz), List.getD_eq_getElem _ _ (place hz), List.get_eq_getElem]
  rw [color hx, color hy, distinct.get_inj_iff, Fin.mk.injEq, List.idxOf_inj (known hx)]

namespace View

variable {v : View}

section

variable (arranged : v.Arranged) (texts : ∀ n ∈ v.nodes, n.id.isText)

include arranged

theorem Arranged.occurs_once :
    (v.loose ++ v.occurrences.flatMap fun o => o.cluster.members).Perm v.ids := by
  have members : v.clustersWithParents.flatMap (fun p => p.1.members) =
      v.occurrences.flatMap fun o => o.cluster.members := by
    rw [clustersWithParents, Cluster.forestWithParents_none, List.flatMap_map]
    rfl
  exact members ▸ arranged.once

include texts

theorem Arranged.chain?_eq_some_iff {id : Atom} {chain : List Cluster} :
    v.chain? id = some chain ↔
      ∃ o ∈ v.occurrences, id ∈ o.cluster.members ∧ chain = o.outer ++ [o.cluster] := by
  have once := arranged.occurs_once
  refine CallAtlas.View.chain?_eq_some_iff (fun o ho id hid => ?_) ?_
  · have known : id ∈ v.ids :=
      once.mem_iff.1 (List.mem_append_right _ (List.mem_flatMap.2 ⟨o, ho, hid⟩))
    obtain ⟨n, hn, rfl⟩ := List.mem_map.1 known
    exact texts n hn
  · exact (List.nodup_append'.1 (once.nodup_iff.2 arranged.nodup_ids)).2.1

theorem Arranged.chain?_eq_none_iff {id : Atom} (hid : id ∈ v.ids) :
    v.chain? id = none ↔ id ∈ v.loose := by
  have once := arranged.occurs_once
  have apart := (List.nodup_append'.1 (once.nodup_iff.2 arranged.nodup_ids)).2.2
  constructor
  · intro none
    refine (List.mem_append.1 (once.mem_iff.2 hid)).resolve_right fun inside => ?_
    obtain ⟨o, ho, member⟩ := List.mem_flatMap.1 inside
    rw [(arranged.chain?_eq_some_iff texts).2 ⟨o, ho, member, rfl⟩] at none
    cases none
  · intro loose
    rw [Option.eq_none_iff_forall_ne_some]
    intro chain some
    obtain ⟨o, ho, member, -⟩ := (arranged.chain?_eq_some_iff texts).1 some
    exact apart loose (List.mem_flatMap.2 ⟨o, ho, member⟩)

end

/-- What the elements of a diagram have from the view that they are made of, where packages have
colours. -/
structure Mirrored (v : View) (elements : List Element) (color : Atom → String) : Prop where
  /-- The clusters come first, then the nodes, then the edges. A cluster is named by itself and all
  clusters around it, a node names the clusters around it and has the colour of its package. -/
  listed : elements = v.occurrences.map Element.ofOccurrence ++
    v.nodes.map (fun n => .function n (color n.package) ((v.chain? n.id).map Element.pathId)) ++
      v.edges.zipIdx.map fun e => Element.ofEdge e.1 e.2
  /-- Clusters are listed as they are met, outer before inner. -/
  preorder : v.visits = v.occurrences.map fun o => (o.cluster, o.outer.getLast?)
  /-- What stands in a cluster is listed behind it. -/
  parents : ∀ before e after, elements = before ++ e :: after → ∀ id, e.parent? = some id →
    ∃ d ∈ before, d.isCluster = true ∧ d.id = .text id
  innermost : ∀ id chain, v.chain? id = some chain ↔
    ∃ o ∈ v.occurrences, id ∈ o.cluster.members ∧ chain = o.outer ++ [o.cluster]
  clustered : ∀ n ∈ v.nodes, v.chain? n.id = none ↔ n.id ∈ v.loose
  ends : ∀ e ∈ v.edges, ∀ id ∈ [e.caller, e.callee],
    ∃ d ∈ elements, d.isFunction = true ∧ d.id = id
  /-- Packages are told apart by their colours as long as there are enough. -/
  colors : (v.nodes.map ViewNode.package).eraseDups.length ≤ Element.palette.length →
    ∀ n ∈ v.nodes, ∀ m ∈ v.nodes, color n.package = color m.package ↔ n.package = m.package

/-- What stands in a cluster is listed behind all clusters, or it is a cluster and listed behind the
one around it. -/
theorem exists_parent {others before after : List Element} {e : Element} {id : String}
    (inside : ∀ d ∈ others, ∀ id, d.parent? = some id → ∃ o ∈ v.occurrences,
      Element.pathId o.chain = id)
    (split : v.occurrences.map Element.ofOccurrence ++ others = before ++ e :: after)
    (parent : e.parent? = some id) :
    ∃ d ∈ before, d.isCluster = true ∧ d.id = .text id := by
  rcases List.append_eq_append_iff.1 split with ⟨rest, clusters, split⟩ | ⟨rest, clusters, split⟩
  · obtain ⟨o, ho, rfl⟩ := inside e (split ▸ List.mem_append_right rest List.mem_cons_self) id parent
    exact ⟨_, clusters ▸ List.mem_append_left rest (List.mem_map_of_mem ho), rfl, rfl⟩
  · cases rest with
    | nil =>
      rw [List.nil_append] at split
      rw [List.append_nil] at clusters
      obtain ⟨o, ho, rfl⟩ := inside e (split ▸ List.mem_cons_self) id parent
      exact ⟨_, clusters ▸ List.mem_map_of_mem ho, rfl, rfl⟩
    | cons d rest =>
      obtain ⟨rfl, -⟩ := List.cons.inj split
      obtain ⟨above, below, occurrences, rfl, tail⟩ := List.map_eq_append_iff.1 clusters
      obtain ⟨o, after, rfl, rfl, -⟩ := List.map_eq_cons_iff.1 tail
      have here : o ∈ v.occurrences := occurrences ▸ List.mem_append_right above List.mem_cons_self
      change Element.parentId o.outer = some id at parent
      unfold Element.parentId at parent
      split at parent
      · cases parent
      · rename_i some
        obtain ⟨p, hp, chain, up⟩ := (Cluster.mem_forestOccurrences_iff.1 here).around
          fun none => some (List.isEmpty_iff.2 none)
        refine ⟨Element.ofOccurrence p,
          List.mem_map_of_mem (Cluster.mem_of_position_lt occurrences hp up), rfl, ?_⟩
        rw [← Option.some.inj parent, ← chain]
        rfl

theorem Arranged.mirrored (arranged : v.Arranged) (texts : ∀ n ∈ v.nodes, n.id.isText)
    (packages : ∀ n ∈ v.nodes, n.package.isText) (sites : ∀ e ∈ v.edges, ∀ x ∈ e.sites, x.isText) :
    ∃ elements, v.elements = .ok elements ∧
      v.Mirrored elements (Element.color (v.nodes.map ViewNode.package)) := by
  refine ⟨_, elements_of_texts packages sites, ?_⟩
  have nodes : v.nodes.map (Element.ofNode v) = v.nodes.map fun n =>
      .function n (Element.color (v.nodes.map ViewNode.package) n.package)
        ((v.chain? n.id).map Element.pathId) := by
    refine List.map_congr_left fun n _ => ?_
    rw [Element.ofNode, Element.home?_eq]
  have inside : ∀ d ∈ v.nodes.map (Element.ofNode v) ++
      v.edges.zipIdx.map (fun e => Element.ofEdge e.1 e.2), ∀ id, d.parent? = some id →
        ∃ o ∈ v.occurrences, Element.pathId o.chain = id := by
    intro d hd id parent
    rcases List.mem_append.1 hd with hd | hd
    · obtain ⟨n, -, rfl⟩ := List.mem_map.1 hd
      change Element.home? v n.id = some id at parent
      rw [Element.home?_eq, Option.map_eq_some_iff] at parent
      obtain ⟨chain, found, rfl⟩ := parent
      obtain ⟨o, ho, -, rfl⟩ := (arranged.chain?_eq_some_iff texts).1 found
      exact ⟨o, ho, rfl⟩
    · -- Only clusters and nodes stand in clusters.
      obtain ⟨e, -, rfl⟩ := List.mem_map.1 hd
      cases parent
  have named {id : Atom} (hid : id ∈ v.ids) :
      ∃ d ∈ v.nodes.map (Element.ofNode v), d.isFunction = true ∧ d.id = id := by
    obtain ⟨n, hn, rfl⟩ := List.mem_map.1 hid
    exact ⟨_, List.mem_map_of_mem hn, rfl, rfl⟩
  exact {
    listed := by
      rw [Element.ofForest_none, nodes]
      rfl
    preorder := visits_eq v
    parents := by
      rw [Element.ofForest_none, List.append_assoc]
      exact fun before e after split id => exists_parent inside split
    innermost := fun id chain => arranged.chain?_eq_some_iff texts
    clustered := fun n hn => arranged.chain?_eq_none_iff texts (List.mem_map_of_mem hn)
    ends := by
      intro e he id hid
      have known : id ∈ v.ids := by
        rcases List.mem_pair.1 hid with rfl | rfl
        · exact (arranged.ends e he).1
        · exact (arranged.ends e he).2
      obtain ⟨d, hd, function, same⟩ := named known
      exact ⟨d, List.mem_append_left _ (List.mem_append_right _ hd), function, same⟩
    colors := by
      intro few n hn m hm
      have texts : ∀ name ∈ v.nodes.map ViewNode.package, name.isText := by
        intro name hname
        obtain ⟨n, hn, rfl⟩ := List.mem_map.1 hname
        exact packages n hn
      exact palette_getD_eq_iff (by decide) texts few (List.mem_map_of_mem hn)
        (List.mem_map_of_mem hm) "" }

end View

namespace Analysis

variable {a : Analysis}

theorem isText_of_view (ha : a.WellFormed) (ht : a.Textual) {s : Selection} {focus : Option Atom}
    {v : View} (hv : a.view s focus = .ok v) :
    ∀ n ∈ v.nodes, n.id.isText ∧ n.package.isText := by
  obtain ⟨-, rfl⟩ := (view_eq_ok_iff ha ht s focus).1 hv
  intro n hn
  obtain ⟨f, hf, rfl⟩ := List.mem_map.1 hn
  have known := Stages.mem_functions_shown ha s focus (CallGraph.mem_orderedFunctions.1 hf)
  exact ⟨ht.ids f known, ht.packages f known⟩

/-- Every view has elements, and they mirror it. -/
theorem elements_of_view (ha : a.WellFormed) (ht : a.Textual) {s : Selection}
    {focus : Option Atom} {v : View} (hv : a.view s focus = .ok v) :
    ∃ elements color, v.elements = .ok elements ∧ v.Mirrored elements color := by
  have arranged := arranged_of_view ha ht hv
  have texts := isText_of_view ha ht hv
  have sites : ∀ e ∈ v.edges, ∀ x ∈ e.sites, x.isText := by
    obtain ⟨-, rfl⟩ := (view_eq_ok_iff ha ht s focus).1 hv
    intro e he
    obtain ⟨d, hd, rfl⟩ := List.mem_map.1 he
    have direct := Stages.direct_of_shown ha s focus (CallGraph.mem_orderedEdges.1 hd)
    exact (Stages.neat_direct ha ht s focus direct).texts
  obtain ⟨elements, made, mirrored⟩ := arranged.mirrored (fun n hn => (texts n hn).1)
    (fun n hn => (texts n hn).2) sites
  exact ⟨elements, _, made, mirrored⟩

theorem elements_of_view_ledger :
    ledger.WellFormed ∧ ledger.Textual ∧
      ∃ v, ledger.view { group := [.package, .receiver] } none = .ok v ∧
        ∃ elements color, v.elements = .ok elements ∧ v.Mirrored elements color ∧
          elements.map (fun e => (e.id, e.parent?)) =
            [(.text "cluster:pkg:app", none),
              (.text "cluster:pkg:app/cluster:type:app.Book", some "cluster:pkg:app"),
              (.text "(*app.Book).Add", some "cluster:pkg:app/cluster:type:app.Book"),
              (.text "app.main", some "cluster:pkg:app"), (.text "edge-0", none)] := by
  refine ⟨wellFormed_ledger, textual_ledger, ?_⟩
  have listed : (ledger.view { group := [.package, .receiver] } none).toOption.map (fun v =>
      v.elements.toOption.map fun elements => elements.map fun e => (e.id, e.parent?)) =
      some (some [(.text "cluster:pkg:app", none),
        (.text "cluster:pkg:app/cluster:type:app.Book", some "cluster:pkg:app"),
        (.text "(*app.Book).Add", some "cluster:pkg:app/cluster:type:app.Book"),
        (.text "app.main", some "cluster:pkg:app"), (.text "edge-0", none)]) := by cbv
  obtain ⟨v, hv, listed⟩ := exists_ok_of_map listed
  obtain ⟨elements, color, made, mirrored⟩ :=
    elements_of_view wellFormed_ledger textual_ledger hv
  rw [made] at listed
  exact ⟨v, hv, elements, color, made, mirrored, Option.some.inj listed⟩

end Analysis

end CallAtlas
