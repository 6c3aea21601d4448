import CallAtlas.Proofs.Diagrams
import CallAtlas.Proofs.Homogeneity
import CallAtlas.View.Picture

set_option autoImplicit false

/-!
# Pictures of a view

A picture is drawn of a copy of the view, a graph that lists its edges by the nodes they leave.
Since the edges of a view are in order, the copy lists what the view lists. The colour of a node is
that of the label of its outermost cluster, so two clusters with one label have one colour.
-/

namespace CallAtlas

theorem nodup_eraseDups {α : Type} [DecidableEq α] (xs : List α) : xs.eraseDups.Nodup := by
  induction h : xs.length using Nat.strong_induction_on generalizing xs with
  | _ n ih =>
  cases xs with
  | nil => exact .nil
  | cons x xs =>
    rw [List.eraseDups_cons, List.nodup_cons, List.mem_eraseDups]
    refine ⟨by simp, ih _ ?_ _ rfl⟩
    rw [← h, List.length_cons]
    exact Nat.lt_succ_of_le (List.length_filter_le _ _)

namespace View.Arranged

variable {v : View} (arranged : v.Arranged)

include arranged

theorem pairwise_ends :
    v.edges.Pairwise fun e d => Atom.PairBefore (e.caller, e.callee) (d.caller, d.callee) :=
  arranged.edges.imp fun h => Prod.lex_iff.2 h

theorem isText_ends (texts : ∀ n ∈ v.nodes, n.id.isText) {e : ViewEdge} (he : e ∈ v.edges) :
    e.caller.isText ∧ e.callee.isText := by
  have text {id : Atom} (hid : id ∈ v.ids) : id.isText := by
    obtain ⟨n, hn, rfl⟩ := List.mem_map.1 hid
    exact texts n hn
  exact ⟨text (arranged.ends e he).1, text (arranged.ends e he).2⟩

end View.Arranged

namespace Digraph

theorem leaving_of_texts {edges : List ViewEdge} (callers : ∀ e ∈ edges, e.caller.isText)
    {id : Atom} (hid : id.isText) : leaving edges id = edges.filter fun e => e.caller = id := by
  have same (e : ViewEdge) (he : e ∈ edges) : e.caller.same id = decide (e.caller = id) := by
    rw [Atom.same, Atom.key_of_isText (callers e he), Atom.key_of_isText hid]
  rw [leaving, List.filter_congr same]
  refine (List.map_congr_left fun e he => ?_).trans (List.map_id _)
  obtain rfl := of_decide_eq_true (List.mem_filter.1 he).2
  rfl

variable {v : View} (arranged : v.Arranged) (texts : ∀ n ∈ v.nodes, n.id.isText)

include arranged texts

theorem edgesOf_of_arranged : edgesOf v = v.edges := by
  refine Roster.foldl_putWith_of_nodup (List.pairwise_map.2 ?_)
  refine arranged.pairwise_ends.imp_of_mem fun {e d} he hd before same => ?_
  have key {e : ViewEdge} (he : e ∈ v.edges) : e.key = (e.caller, e.callee) := by
    obtain ⟨caller, callee⟩ := arranged.isText_ends texts he
    rw [ViewEdge.key, Atom.key_of_isText caller, Atom.key_of_isText callee]
  rw [key he, key hd] at same
  exact irrefl_of Atom.PairBefore _ (same ▸ before)

/-- Listed by the nodes they leave, the edges are in the order that they were in. -/
theorem edges_ofView : (ofView v).edges = v.edges := by
  have grouped : (ofView v).edges =
      v.nodes.flatMap fun n => v.edges.filter fun e => e.caller = n.id := by
    change ((nodesOf v).flatMap fun n => leaving (edgesOf v) n.1) = _
    rw [nodesOf_of_arranged arranged texts, edgesOf_of_arranged arranged texts, List.flatMap_map]
    exact List.flatMap_congr fun n hn =>
      leaving_of_texts (fun e he => (arranged.isText_ends texts he).1) (texts n hn)
  have ordered : (v.nodes.flatMap fun n => v.edges.filter fun e => e.caller = n.id).Pairwise
      fun e d => Atom.PairBefore (e.caller, e.callee) (d.caller, d.callee) := by
    refine List.pairwise_flatMap.2 ⟨fun n _ => arranged.pairwise_ends.filter _, ?_⟩
    refine arranged.nodes.imp fun {n m} before e he d hd => Prod.lex_iff.2 (.inl ?_)
    rw [of_decide_eq_true (List.mem_filter.1 he).2, of_decide_eq_true (List.mem_filter.1 hd).2]
    exact before
  -- Both lists are in strict order, so they are the same if they hold the same edges.
  rw [grouped]
  refine eq_of_pairwise_of_mem_iff ordered arranged.pairwise_ends fun e => ?_
  rw [List.mem_flatMap]
  constructor
  · rintro ⟨n, -, he⟩
    exact (List.mem_filter.1 he).1
  · intro he
    obtain ⟨n, hn, id⟩ := List.mem_map.1 (arranged.ends e he).1
    exact ⟨n, hn, List.mem_filter.2 ⟨he, decide_eq_true id.symm⟩⟩

end Digraph

theorem Picture.color_mem (groups : List Atom) (group : Atom) : color groups group ∈ palette := by
  unfold color
  dsimp only
  rw [List.getD_eq_getElem _ _ (Nat.mod_lt _ (by decide))]
  exact List.getElem_mem _

theorem Cluster.before_irrefl (c : Cluster) : ¬ c.before c = true := by
  simp [before, Atom.before_irrefl]

namespace View

variable (v : View)

def outermost? (id : Atom) : Option Cluster := (v.chain? id).bind List.head?

/-- The classes that nodes fall into: one for each outermost cluster, and one for the nodes that
stand in no cluster. -/
def classes : List (Option Cluster) :=
  if v.loose.isEmpty then v.clusters.map some else none :: v.clusters.map some

def className (c : Option Cluster) : Atom := (c.map Cluster.label).getD Picture.ungrouped

def classNames : List Atom := v.nodes.map fun n => className (v.outermost? n.id)

theorem groupOf_eq (id : Atom) : Picture.groupOf v.chains id = className (v.outermost? id) := by
  have found : v.chains.find? id = v.chain? id := rfl
  rw [Picture.groupOf, found, outermost?]
  cases v.chain? id with
  | none => rfl
  | some chain => cases chain <;> rfl

variable {v}

@[simp] theorem none_mem_classes : none ∈ v.classes ↔ v.loose ≠ [] := by
  unfold classes
  split <;> simp_all

@[simp] theorem some_mem_classes {c : Cluster} : some c ∈ v.classes ↔ c ∈ v.clusters := by
  unfold classes
  split <;> simp

section

variable (arranged : v.Arranged) (texts : ∀ n ∈ v.nodes, n.id.isText)

include arranged

theorem Arranged.nodup_classes : v.classes.Nodup := by
  have roots : (v.clusters.map some).Nodup := by
    refine List.pairwise_map.2 (arranged.roots.imp fun {c d} before same => ?_)
    rw [Option.some.inj same] at before
    exact d.before_irrefl before
  unfold classes
  split
  · exact roots
  · exact List.nodup_cons.2 ⟨by simp, roots⟩

include texts

theorem Arranged.root_of_outermost? {id : Atom} {c : Cluster} (h : v.outermost? id = some c) :
    c ∈ v.clusters := by
  obtain ⟨chain, found, head⟩ := Option.bind_eq_some_iff.1 h
  obtain ⟨o, ho, -, rfl⟩ := (arranged.chain?_eq_some_iff texts).1 found
  obtain ⟨root, hroot, rest, split⟩ := (Cluster.mem_forestOccurrences_iff.1 ho).exists_root
  rw [← Option.some.inj ((congrArg List.head? split).symm.trans head)]
  exact hroot

theorem Arranged.exists_outermost? {c : Cluster} (hc : c ∈ v.clusters) :
    ∃ id ∈ v.ids, v.outermost? id = some c := by
  have listed : (c, none) ∈ v.clustersWithParents := by
    rw [clustersWithParents, Cluster.forestWithParents_eq]
    refine List.mem_flatMap.2 ⟨c, hc, ?_⟩
    rw [Cluster.withParents_eq]
    exact List.mem_cons_self
  -- The node may stand in a cluster further inside.
  obtain ⟨id, hid⟩ := List.exists_mem_of_ne_nil _ (arranged.filled _ listed)
  obtain ⟨q, hq, rfl⟩ := List.mem_map.1 hid
  obtain ⟨chain, around⟩ := Cluster.exists_eq_cons_of_mem_placements hq
  have placed : q ∈ Cluster.forestPlacements [] v.clusters := by
    rw [Cluster.forestPlacements_eq]
    exact List.mem_flatMap.2 ⟨c, hc, hq⟩
  rw [Cluster.forestPlacements_nil] at placed
  obtain ⟨o, ho, stands⟩ := List.mem_flatMap.1 placed
  obtain ⟨id, member, rfl⟩ := List.mem_map.1 stands
  have known : id ∈ v.ids := arranged.occurs_once.mem_iff.1
    (List.mem_append_right _ (List.mem_flatMap.2 ⟨o, ho, member⟩))
  refine ⟨id, known, ?_⟩
  rw [outermost?, (arranged.chain?_eq_some_iff texts).2 ⟨o, ho, member, rfl⟩]
  exact congrArg List.head? around

theorem Arranged.outermost?_eq_none_iff {id : Atom} (hid : id ∈ v.ids) :
    v.outermost? id = none ↔ id ∈ v.loose := by
  rw [← arranged.chain?_eq_none_iff texts hid]
  unfold outermost?
  cases found : v.chain? id with
  | none => simp
  | some chain =>
    obtain ⟨o, -, -, rfl⟩ := (arranged.chain?_eq_some_iff texts).1 found
    simp

theorem Arranged.mem_classes_iff {x : Option Cluster} :
    x ∈ v.classes ↔ ∃ id ∈ v.ids, v.outermost? id = x := by
  cases x with
  | none =>
    rw [none_mem_classes]
    constructor
    · intro some
      obtain ⟨id, loose⟩ := List.exists_mem_of_ne_nil _ some
      have known : id ∈ v.ids := arranged.occurs_once.mem_iff.1 (List.mem_append_left _ loose)
      exact ⟨id, known, (arranged.outermost?_eq_none_iff texts known).2 loose⟩
    · rintro ⟨id, hid, none⟩
      exact List.ne_nil_of_mem ((arranged.outermost?_eq_none_iff texts hid).1 none)
  | some c =>
    rw [some_mem_classes]
    constructor
    · exact arranged.exists_outermost? texts
    · rintro ⟨id, -, some⟩
      exact arranged.root_of_outermost? texts some

end

def Labelled (v : View) : Prop := ∀ c ∈ v.clusters, c.label.isText

theorem isText_className (labelled : v.Labelled) {x : Option Cluster} (hx : x ∈ v.classes) :
    (className x).isText := by
  cases x with
  | none => rfl
  | some c => exact labelled c (some_mem_classes.1 hx)

/-- The graph that is made of a view lists what the view lists. -/
structure Copied (v : View) : Prop where
  nodes : (Digraph.ofView v).nodes = v.nodes.map fun n => (n.id, some n)
  edges : (Digraph.ofView v).edges = v.edges
  program : (Digraph.ofView v).program = v.program
  focus : (Digraph.ofView v).focus = v.focus

structure Pictured (v : View) (request : PictureRequest) (p : Picture) : Prop where
  nodes : p.nodes.map Prod.fst = v.ids
  solid : p.solid = (v.edges.filter fun e => !e.dynamic).map fun e => (e.caller, e.callee)
  dashed : p.dashed = (v.edges.filter fun e => e.dynamic).map fun e => (e.caller, e.callee)
  drawn : (p.solid ++ p.dashed).Perm (v.edges.map fun e => (e.caller, e.callee))
  /-- Every node has a group, and the group a colour. -/
  colors : ∀ e ∈ p.nodes, ∃ group ∈ (Picture.groups v).map Prod.snd,
    (Picture.groups v).find? e.1 = some group ∧
      e.2 = Picture.color ((Picture.groups v).map Prod.snd) group ∧ e.2 ∈ Picture.palette
  outlined : p.outlined = (v.nodes.filter fun n => n.focused).map ViewNode.id
  labels : p.labels = if request.showLabels && v.nodes.length ≤ Picture.labelLimit then
    some (v.nodes.map fun n => (n.id, n.label)) else none

section

variable (arranged : v.Arranged) (texts : ∀ n ∈ v.nodes, n.id.isText) (labelled : v.Labelled)

include arranged texts

theorem nodup_keys {α : Type} (said : ViewNode → α) :
    ((v.nodes.map fun n => (n.id, said n)).map Atom.Table.keyOf).Nodup := by
  rw [keys_eq_ids texts]
  exact arranged.nodup_ids

theorem groups_eq :
    Picture.groups v = v.nodes.map fun n => (n.id, className (v.outermost? n.id)) := by
  rw [Picture.groups, Atom.Table.ofList_of_nodup (nodup_keys arranged texts _)]
  exact List.map_congr_left fun n _ => congrArg (n.id, ·) (groupOf_eq v n.id)

theorem names_groups : (Picture.groups v).map Prod.snd = v.classNames := by
  rw [groups_eq arranged texts, List.map_map]
  rfl

theorem find?_groups {n : ViewNode} (hn : n ∈ v.nodes) :
    (Picture.groups v).find? n.id = some (className (v.outermost? n.id)) := by
  have listed : (n.id, className (v.outermost? n.id)) ∈
      v.nodes.map fun n => (n.id, className (v.outermost? n.id)) :=
    List.mem_map_of_mem (f := fun n : ViewNode => (n.id, className (v.outermost? n.id))) hn
  rw [groups_eq arranged texts]
  exact congrArg (Option.map Prod.snd)
    ((Roster.find?_eq_some_iff (nodup_keys arranged texts _)).2 ⟨listed, rfl⟩)

include labelled

theorem isText_classNames : ∀ name ∈ v.classNames, name.isText := by
  intro name hname
  obtain ⟨n, hn, rfl⟩ := List.mem_map.1 hname
  exact isText_className labelled
    ((arranged.mem_classes_iff texts).2 ⟨n.id, List.mem_map_of_mem hn, rfl⟩)

theorem picture_eq (request : PictureRequest) :
    Picture.ofView v request = .ok
      { layout := request.layout
        nodes := v.nodes.map fun n =>
          (n.id, Picture.color v.classNames (className (v.outermost? n.id)))
        solid := (v.edges.filter fun e => !e.dynamic).map fun e => (e.caller, e.callee)
        dashed := (v.edges.filter fun e => e.dynamic).map fun e => (e.caller, e.callee)
        outlined := (v.nodes.filter fun n => n.focused).map ViewNode.id
        labels :=
          if request.showLabels && v.nodes.length ≤ Picture.labelLimit then
            some (v.nodes.map fun n => (n.id, n.label))
          else none
        title := request.title.getD (Picture.summary v.classNames) } := by
  have names := names_groups arranged texts
  have kinds : Atom.ofOneKind v.classNames = true :=
    Atom.ofOneKind_of_texts (isText_classNames arranged texts labelled)
  have nodes : (Digraph.ofView v).nodes = v.nodes.map fun n => (n.id, some n) :=
    Digraph.nodesOf_of_arranged arranged texts
  have edges := Digraph.edges_ofView arranged texts
  have nonempty : v.nodes.isEmpty = false := by simpa using arranged.nonempty
  have missing : (v.nodes.map fun n => (n.id, some n)).find? (fun n => n.2.isNone) = none := by
    simp
  have known : (v.nodes.map fun n => (n.id, some n)).filterMap (fun n => n.2.map fun node =>
      (n.1, node)) = v.nodes.map fun n => (n.id, n) := by
    simp [List.filterMap_map]
  unfold Picture.ofView
  dsimp only
  rw [names, nodes, edges, missing, known, kinds, nonempty]
  simp only [List.map_map, List.filter_map, List.length_map, groupOf_eq]
  rfl

theorem exists_pictured (request : PictureRequest) :
    ∃ p, Picture.ofView v request = .ok p ∧ v.Pictured request p := by
  refine ⟨_, picture_eq arranged texts labelled request, ?_⟩
  exact {
    nodes := by
      rw [List.map_map]
      rfl
    solid := rfl
    dashed := rfl
    drawn := by
      rw [← List.map_append]
      have parts := List.filter_append_perm (fun e : ViewEdge => !e.dynamic) v.edges
      simp only [Bool.not_not] at parts
      exact parts.map _
    colors := by
      intro e he
      obtain ⟨n, hn, rfl⟩ := List.mem_map.1 he
      rw [names_groups arranged texts]
      exact ⟨_, List.mem_map_of_mem hn, find?_groups arranged texts hn, rfl, Picture.color_mem _ _⟩
    outlined := rfl
    labels := rfl }

theorem color_eq_iff (few : v.classes.length ≤ Picture.palette.length) {x y : Option Cluster}
    (hx : x ∈ v.classes) (hy : y ∈ v.classes) :
    Picture.color v.classNames (className x) = Picture.color v.classNames (className y) ↔
      className x = className y := by
  have named {x : Option Cluster} (hx : x ∈ v.classes) : className x ∈ v.classNames := by
    obtain ⟨id, hid, rfl⟩ := (arranged.mem_classes_iff texts).1 hx
    obtain ⟨n, hn, rfl⟩ := List.mem_map.1 hid
    exact List.mem_map_of_mem hn
  have fewer : v.classNames.eraseDups.length ≤ Picture.palette.length := by
    have classes : v.classNames.eraseDups ⊆ v.classes.map className := by
      intro name hname
      obtain ⟨n, hn, rfl⟩ := List.mem_map.1 (List.mem_eraseDups.1 hname)
      exact List.mem_map_of_mem
        ((arranged.mem_classes_iff texts).2 ⟨n.id, List.mem_map_of_mem hn, rfl⟩)
    have length := (List.subperm_of_subset (nodup_eraseDups _) classes).length_le
    rw [List.length_map] at length
    exact length.trans few
  exact palette_getD_eq_iff (by decide) (isText_classNames arranged texts labelled) fewer (named hx)
    (named hy) default

end

/-- What the colours of nodes tell of the outermost clusters around them. -/
structure Separated (v : View) (color : Atom → Color) : Prop where
  nodup : v.classes.Nodup
  mem : ∀ x, x ∈ v.classes ↔ ∃ id ∈ v.ids, v.outermost? id = x
  same : ∀ i j, v.outermost? i = v.outermost? j → color i = color j
  names : v.classes.length ≤ Picture.palette.length → ∀ i ∈ v.ids, ∀ j ∈ v.ids,
    (color i = color j ↔ className (v.outermost? i) = className (v.outermost? j))
  /-- So the colours tell the classes apart if and only if their names do. -/
  classes : v.classes.length ≤ Picture.palette.length →
    ((∀ i ∈ v.ids, ∀ j ∈ v.ids, (color i = color j ↔ v.outermost? i = v.outermost? j)) ↔
      (v.classes.map className).Nodup)

theorem Arranged.separated (arranged : v.Arranged) (texts : ∀ n ∈ v.nodes, n.id.isText)
    (labelled : v.Labelled) :
    v.Separated fun id => Picture.color v.classNames (className (v.outermost? id)) := by
  have fallen {id : Atom} (hid : id ∈ v.ids) : v.outermost? id ∈ v.classes :=
    (arranged.mem_classes_iff texts).2 ⟨id, hid, rfl⟩
  have names (few : v.classes.length ≤ Picture.palette.length) {i j : Atom} (hi : i ∈ v.ids)
      (hj : j ∈ v.ids) := color_eq_iff arranged texts labelled few (fallen hi) (fallen hj)
  exact {
    nodup := arranged.nodup_classes
    mem := fun x => arranged.mem_classes_iff texts
    same := fun i j same => by rw [same]
    names := fun few i hi j hj => names few hi hj
    classes := by
      intro few
      rw [List.nodup_map_iff_inj_on arranged.nodup_classes]
      constructor
      · intro apart x hx y hy same
        obtain ⟨i, hi, rfl⟩ := (arranged.mem_classes_iff texts).1 hx
        obtain ⟨j, hj, rfl⟩ := (arranged.mem_classes_iff texts).1 hy
        exact (apart i hi j hj).1 ((names few hi hj).2 same)
      · intro injective i hi j hj
        rw [names few hi hj]
        exact ⟨injective _ (fallen hi) _ (fallen hj), congrArg className⟩ }

section

variable {group : List GroupKey} {focus : Option Atom} {functions : List Function}
  (packages : ∀ f ∈ functions, f.package.isText) (outermost : group.head? ≠ some .receiver)

include packages outermost

theorem tag_eq_of_packages :
    ∀ r ∈ clustersOf group focus [] functions, r.tag = ("pkg", r.label) := by
  intro r hr
  obtain ⟨f, hf, head, asked⟩ := (every_founded_clustersOf r hr).here
  cases group with
  | nil => cases head
  | cons k ks =>
    cases k with
    | receiver => exact absurd rfl outermost
    | package =>
      have tag : ("pkg", f.package.key) = r.tag := Option.some.inj head
      rcases Function.cases_clusterPath asked with pkg | ⟨recv, -, type⟩
      · have label : r.label = f.package := congrArg Cluster.label pkg
        rw [← tag, label, Atom.key_of_isText (packages f hf)]
      · -- The cluster of a type may stand below that of its package, but not be a root.
        have kind : r.kind = "type" := congrArg Cluster.kind type
        exact absurd ((congrArg Prod.fst tag).trans kind) (show "pkg" ≠ "type" by decide)

omit packages in
theorem loose_of_packages (some : clustersOf group focus [] functions ≠ []) :
    looseOf group focus [] functions = [] := by
  cases group with
  | nil =>
    obtain ⟨r, hr⟩ := List.exists_mem_of_ne_nil _ some
    obtain ⟨f, -, head, -⟩ := (every_founded_clustersOf r hr).here
    cases head
  | cons k ks =>
    cases k with
    | receiver => exact absurd rfl outermost
    | package => simp [looseOf, Function.clusterPath]

theorem nodup_names_of_packages {v : View}
    (clusters : v.clusters = clustersOf group focus [] functions)
    (loose : v.loose = looseOf group focus [] functions) : (v.classes.map className).Nodup := by
  have labels : (v.clusters.map Cluster.label).Nodup := by
    have tags : v.clusters.map Cluster.tag =
        (v.clusters.map Cluster.label).map fun label => ("pkg", label) := by
      rw [List.map_map]
      exact List.map_congr_left fun r hr => tag_eq_of_packages packages outermost r (clusters ▸ hr)
    have nodup : (v.clusters.map Cluster.tag).Nodup := clusters ▸ nodup_tags_clustersOf
    rw [tags] at nodup
    exact nodup.of_map _
  have names : (v.clusters.map some).map className = v.clusters.map Cluster.label := by
    rw [List.map_map]
    rfl
  unfold classes
  split
  · rwa [names]
  · rename_i given
    have none : v.clusters = [] := by
      by_contra some
      rw [loose, loose_of_packages outermost (clusters ▸ some)] at given
      exact given rfl
    rw [none]
    decide

end

end View

namespace Analysis

section

variable {a : Analysis} (ha : a.WellFormed) (ht : a.Textual) {s : Selection} {focus : Option Atom}
  {v : View} (hv : a.view s focus = .ok v)

include ha ht hv

theorem labelled_of_view : v.Labelled := by
  obtain ⟨-, rfl⟩ := (view_eq_ok_iff ha ht s focus).1 hv
  intro c hc
  have packages : ∀ f ∈ (Stages.run a s focus).shown.orderedFunctions, f.package.isText :=
    fun f hf => Stages.isText_package ha ht s focus (CallGraph.mem_orderedFunctions.1 hf)
  exact (View.clusters_of_texts packages s.group focus [] c hc).here.1

/-- The copy of a view lists the nodes and the edges of the view in their order, and every picture
shows them. -/
theorem picture_of_view :
    v.Copied ∧ ∀ request, ∃ p, Picture.ofView v request = .ok p ∧ v.Pictured request p := by
  have arranged := arranged_of_view ha ht hv
  have texts (n : ViewNode) (hn : n ∈ v.nodes) := (isText_of_view ha ht hv n hn).1
  refine ⟨?_, View.exists_pictured arranged texts (labelled_of_view ha ht hv)⟩
  exact {
    nodes := Digraph.nodesOf_of_arranged arranged texts
    edges := Digraph.edges_ofView arranged texts
    program := rfl
    focus := rfl }

end

/-- Every function calls another one, some dynamically, and nothing is listed in order. -/
def exchange : Analysis where
  packages := [{ path := .text "m", name := .text "main" }]
  functions := [
    { id := .text "c", name := .text "main", package := .text "m" },
    { id := .text "a", name := .text "ring", package := .text "m" },
    { id := .text "b", name := .text "dial", package := .text "m" }]
  calls := [
    { caller := .text "c", callee := .text "b", site := .text "9:2" },
    { caller := .text "b", callee := .text "a", site := .text "5:2" },
    { caller := .text "c", callee := .text "a", dynamic := true },
    { caller := .text "a", callee := .text "b", dynamic := true }]
  entryPoints := [.text "c"]
  program := .text "m"

theorem wellFormed_exchange : exchange.WellFormed where
  nodup_ids := by decide
  caller_mem := by decide
  callee_mem := by decide
  start_mem := by decide

theorem textual_exchange : exchange.Textual where
  ids := by decide
  packages := by decide
  names := by decide
  receivers := by decide
  sites := by decide

theorem picture_of_view_exchange :
    exchange.WellFormed ∧ exchange.Textual ∧
      ∃ v, exchange.view { group := [.package] } none = .ok v ∧
        v.Copied ∧ (∀ request, ∃ p, Picture.ofView v request = .ok p ∧ v.Pictured request p) ∧
        (Digraph.ofView v).nodes.map Prod.fst = [.text "a", .text "b", .text "c"] ∧
        (Digraph.ofView v).edges.map (fun e => (e.caller, e.callee)) =
          [(.text "a", .text "b"), (.text "b", .text "a"), (.text "c", .text "a"),
            (.text "c", .text "b")] ∧
        ∃ p, Picture.ofView v {} = .ok p ∧
          p.solid = [(.text "b", .text "a"), (.text "c", .text "b")] ∧
          p.dashed = [(.text "a", .text "b"), (.text "c", .text "a")] := by
  refine ⟨wellFormed_exchange, textual_exchange, ?_⟩
  have parts : (exchange.view { group := [.package] } none).toOption.map (fun v =>
      (v.ids, v.edges.map fun e => (e.dynamic, e.caller, e.callee))) =
      some ([.text "a", .text "b", .text "c"],
        [(true, .text "a", .text "b"), (false, .text "b", .text "a"),
          (true, .text "c", .text "a"), (false, .text "c", .text "b")]) := by cbv
  obtain ⟨v, hv, parts⟩ := exists_ok_of_map parts
  obtain ⟨ids, edges⟩ := Prod.mk.inj parts
  obtain ⟨copied, pictured⟩ := picture_of_view wellFormed_exchange textual_exchange hv
  obtain ⟨p, hp, shown⟩ := pictured {}
  have ends : v.edges.map (fun e => (e.caller, e.callee)) =
      (v.edges.map fun e => (e.dynamic, e.caller, e.callee)).map Prod.snd := by
    rw [List.map_map]
    rfl
  -- The lines of one kind are read off the calls with their kinds.
  have lines (kind : Bool → Bool) :
      (v.edges.filter fun e => kind e.dynamic).map (fun e => (e.caller, e.callee)) =
        ((v.edges.map fun e => (e.dynamic, e.caller, e.callee)).filter fun e => kind e.1).map
          Prod.snd := by
    rw [List.filter_map, List.map_map]
    rfl
  refine ⟨v, hv, copied, pictured, ?_, ?_, p, hp, ?_, ?_⟩
  · rw [copied.nodes, List.map_map]
    exact ids
  · rw [copied.edges, ends, edges]
    rfl
  · exact (shown.solid.trans (lines (!·))).trans (by rw [edges]; rfl)
  · exact (shown.dashed.trans (lines id)).trans (by rw [edges]; rfl)

def namesakes : Analysis where
  packages := [
    { path := .text "a", name := .text "main" },
    { path := .text "b", name := .text "b" }]
  functions := [
    { id := .text "a.T.f", name := .text "f", package := .text "a", recv := some (.text "T") },
    { id := .text "b.T.g", name := .text "g", package := .text "b", recv := some (.text "T") }]
  calls := [{ caller := .text "a.T.f", callee := .text "b.T.g" }]
  entryPoints := [.text "a.T.f"]
  program := .text "a"

theorem wellFormed_namesakes : namesakes.WellFormed where
  nodup_ids := by decide
  caller_mem := by decide
  callee_mem := by decide
  start_mem := by decide

theorem textual_namesakes : namesakes.Textual where
  ids := by decide
  packages := by decide
  names := by decide
  receivers := by decide
  sites := by decide

/-- The colours of a picture tell the outermost clusters apart if and only if their names do, and
packages always do. -/
theorem colors_of_view {a : Analysis} (ha : a.WellFormed) (ht : a.Textual) {s : Selection}
    {focus : Option Atom} {v : View} (hv : a.view s focus = .ok v) (request : PictureRequest) :
    ∃ p color, Picture.ofView v request = .ok p ∧ p.nodes = v.ids.map (fun id => (id, color id)) ∧
      v.Separated color ∧
      (s.group.head? ≠ some .receiver → (v.classes.map View.className).Nodup) := by
  have arranged := arranged_of_view ha ht hv
  have texts (n : ViewNode) (hn : n ∈ v.nodes) := (isText_of_view ha ht hv n hn).1
  have labelled := labelled_of_view ha ht hv
  refine ⟨_, _, View.picture_eq arranged texts labelled request, ?_,
    arranged.separated texts labelled, fun outermost => ?_⟩
  · rw [View.ids, List.map_map]
    rfl
  · obtain ⟨-, rfl⟩ := (view_eq_ok_iff ha ht s focus).1 hv
    exact View.nodup_names_of_packages (fun f hf =>
      Stages.isText_package ha ht s focus (CallGraph.mem_orderedFunctions.1 hf)) outermost rfl rfl

theorem colors_of_view_namesakes :
    namesakes.WellFormed ∧ namesakes.Textual ∧
      ∃ v, namesakes.view { group := [.package] } none = .ok v ∧
        v.classes.map View.className = [.text "a", .text "b"] ∧
        ∃ p color, Picture.ofView v {} = .ok p ∧
          p.nodes = v.ids.map (fun id => (id, color id)) ∧ v.Separated color ∧
          ∀ i ∈ v.ids, ∀ j ∈ v.ids, (color i = color j ↔ v.outermost? i = v.outermost? j) := by
  refine ⟨wellFormed_namesakes, textual_namesakes, ?_⟩
  have names : (namesakes.view { group := [.package] } none).toOption.map (fun v =>
      v.classes.map View.className) = some [.text "a", .text "b"] := by cbv
  obtain ⟨v, hv, names⟩ := exists_ok_of_map names
  obtain ⟨p, color, drawn, nodes, separated, packages⟩ :=
    colors_of_view wellFormed_namesakes textual_namesakes hv {}
  have few : v.classes.length ≤ Picture.palette.length := by
    rw [← v.classes.length_map View.className, names]
    decide
  exact ⟨v, hv, names, p, color, drawn, nodes, separated,
    (separated.classes few).2 (packages (by decide))⟩

/-- Two outermost clusters of types with one name have one colour. -/
theorem namesakes_share_color :
    (∃ v p, namesakes.view { group := [.receiver] } none = .ok v ∧ Picture.ofView v {} = .ok p ∧
      v.classes.map (Option.map Cluster.key) = [some (.text "a.T"), some (.text "b.T")] ∧
      p.nodes.map (fun e => (v.outermost? e.1).map Cluster.key) =
        [some (.text "a.T"), some (.text "b.T")] ∧
      p.nodes = [(.text "a.T.f", ⟨31, 119, 180, 255⟩), (.text "b.T.g", ⟨31, 119, 180, 255⟩)]) ∧
    ¬ ∀ (a : Analysis) (s : Selection) (focus : Option Atom) (v : View) (request : PictureRequest)
      (p : Picture), a.WellFormed → a.Textual → a.view s focus = .ok v →
        Picture.ofView v request = .ok p → v.classes.length ≤ Picture.palette.length →
          ∀ e ∈ p.nodes, ∀ d ∈ p.nodes, (e.2 = d.2 ↔ v.outermost? e.1 = v.outermost? d.1) := by
  have parts : (namesakes.view { group := [.receiver] } none).toOption.map (fun v =>
      (v.classes.map (Option.map Cluster.key), (Picture.ofView v {}).toOption.map fun p =>
        (p.nodes.map fun e => (v.outermost? e.1).map Cluster.key, p.nodes))) =
      some ([some (.text "a.T"), some (.text "b.T")],
        some ([some (.text "a.T"), some (.text "b.T")],
        [(.text "a.T.f", ⟨31, 119, 180, 255⟩), (.text "b.T.g", ⟨31, 119, 180, 255⟩)])) := by cbv
  obtain ⟨v, hv, parts⟩ := exists_ok_of_map parts
  obtain ⟨classes, parts⟩ := Prod.mk.inj parts
  obtain ⟨p, drawn, parts⟩ := exists_ok_of_map parts
  obtain ⟨keys, nodes⟩ := Prod.mk.inj parts
  refine ⟨⟨v, p, hv, drawn, classes, keys, nodes⟩, fun claim => ?_⟩
  have few : v.classes.length ≤ Picture.palette.length := by
    rw [← v.classes.length_map (Option.map Cluster.key), classes]
    decide
  have same := claim _ _ _ v _ p wellFormed_namesakes textual_namesakes hv drawn few
  rw [nodes] at same keys
  have one := (same _ List.mem_cons_self _ (List.mem_cons_of_mem _ List.mem_cons_self)).1 rfl
  simp only [List.map_cons, List.map_nil, List.cons.injEq] at keys
  rw [one, keys.2.1] at keys
  exact absurd keys.1 (by decide)

end Analysis

end CallAtlas
