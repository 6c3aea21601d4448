import CallAtlas.Proofs.Arrangement

set_option autoImplicit false

/-!
# What clusters have in common

A cluster takes its package, its label and its outline from the function that it was made for, its
founder. The functions that join it later have the same key to it. Inside the cluster of a package
that is enough for them to have the same package. On the outermost level the key of a type is the
path of its package and its name with a dot between, and where paths or names have dots in them two
types of different packages can have the same key: these end up in one cluster.
-/

namespace CallAtlas

namespace Cluster

theorem exists_eq_cons_of_mem_placements {r : Cluster} {q : Atom × List Cluster}
    (hq : q ∈ placements [] r) : ∃ chain, q.2 = r :: chain := by
  rw [placements_eq, List.mem_append] at hq
  rcases hq with hq | hq
  · obtain ⟨id, -, rfl⟩ := List.mem_map.1 hq
    exact ⟨[], rfl⟩
  · obtain ⟨d, -, hq⟩ := List.mem_flatMap.1 hq
    rw [List.nil_append, placements_outer] at hq
    obtain ⟨q, -, rfl⟩ := List.mem_map.1 hq
    exact ⟨q.2, rfl⟩

theorem mem_placements_of_inside {r d : Cluster} (hd : d ∈ r.clusters) {q : Atom × List Cluster}
    (hq : q ∈ placements [] d) : (q.1, r :: q.2) ∈ placements [] r := by
  rw [placements_eq, List.mem_append]
  refine .inr (List.mem_flatMap.2 ⟨d, hd, ?_⟩)
  rw [List.nil_append, placements_outer]
  exact List.mem_map_of_mem hq

theorem exists_placement {r : Cluster} {parent : Option Cluster}
    {p : Cluster × Option Cluster} (hp : p ∈ withParents parent r) {id : Atom}
    (hid : id ∈ p.1.functions) :
    ∃ chain, (id, r :: chain) ∈ placements [] r ∧ p.1 ∈ r :: chain := by
  induction r using of_inside generalizing parent with
  | _ r ih =>
  rw [withParents_eq, List.mem_cons] at hp
  rcases hp with rfl | hp
  · obtain ⟨q, hq, rfl⟩ := List.mem_map.1 hid
    obtain ⟨chain, around⟩ := exists_eq_cons_of_mem_placements hq
    exact ⟨chain, around ▸ hq, List.mem_cons_self⟩
  · obtain ⟨d, hd, hp⟩ := List.mem_flatMap.1 hp
    obtain ⟨chain, placed, mem⟩ := ih d hd hp
    exact ⟨d :: chain, mem_placements_of_inside hd placed, List.mem_cons_of_mem r mem⟩

theorem every_roots_place {P : String × Atom → Cluster → Prop} {ids : List Atom}
    (stable : ∀ t, Local (P t) ids) {id : Atom} (hi : id ∈ ids) {path : List Cluster}
    (hp : ∀ t, path.head?.map tag = some t → ∀ c ∈ path, P t c ∧ c.clusters = [])
    {forest : List Cluster} (hf : ∀ r ∈ forest, Every (P r.tag) r) :
    ∀ r ∈ place id path forest, Every (P r.tag) r := by
  cases path with
  | nil => exact hf
  | cons c path =>
    obtain ⟨founded, empty⟩ := hp c.tag rfl c List.mem_cons_self
    cases path with
    | nil =>
      refine forall_modify (P := fun r => Every (P r.tag) r) ?_ (fun r _ h => ?_) (fun _ h => h) hf
      · exact .intro ((stable _).member c id hi founded) (by simp [empty])
      · exact .intro ((stable _).member r id hi h.here) h.inside
    | cons c' path =>
      have inside (r : Cluster) (same : r.tag = c.tag) (d : Cluster) (hd : d ∈ c' :: path) :
          P r.tag d ∧ d.clusters = [] := hp r.tag (same ▸ rfl) d (List.mem_cons_of_mem c hd)
      refine forall_modify (P := fun r => Every (P r.tag) r) ?_ (fun r same h => ?_) (fun _ h => h) hf
      · refine .intro ((stable _).clusters c _ founded) ?_
        exact every_place (stable _) hi (inside c rfl) (by simp [empty])
      · refine .intro ((stable _).clusters r _ h.here) ?_
        exact every_place (stable _) hi (inside r (same_iff.1 same)) h.inside

theorem every_roots_sortedForest {P : String × Atom → Cluster → Prop} {ids : List Atom}
    (stable : ∀ t, Local (P t) ids) {forest : List Cluster}
    (hf : ∀ r ∈ forest, Every (P r.tag) r) : ∀ r ∈ sortedForest forest, Every (P r.tag) r := by
  intro r hr
  rw [sortedForest, mem_sortedSiblings, forestSortedInside_eq_map] at hr
  obtain ⟨d, hd, rfl⟩ := List.mem_map.1 hr
  rw [tag_sortedInside]
  exact (hf d hd).sortedInside (stable _)

def emptied (c : Cluster) : Cluster := { c with members := [], clusters := [] }

/-- A cluster was made for a function, its founder, that asked for it in the root with a tag. -/
def Founded (group : List GroupKey) (focus : Option Atom) (functions : List Function)
    (root : String × Atom) (c : Cluster) : Prop :=
  ∃ f ∈ functions, (f.clusterPath group focus).head?.map tag = some root ∧
    c.emptied ∈ f.clusterPath group focus

end Cluster

namespace Function

variable {f g : Function} {group : List GroupKey} {focus : Option Atom} {d e : Cluster}

theorem package_of_mem_clusterPath (hd : d ∈ f.clusterPath group focus) :
    d.package = f.package ∧ d.focused = f.isIn focus := by
  rcases cases_clusterPath hd with rfl | ⟨recv, -, rfl⟩ <;> exact ⟨rfl, rfl⟩

theorem fresh_of_mem_clusterPath (hd : d ∈ f.clusterPath group focus) :
    d.emptied = d ∧ d.clusters = [] := by
  rcases cases_clusterPath hd with rfl | ⟨recv, -, rfl⟩ <;> exact ⟨rfl, rfl⟩

/-- Functions that share a cluster have the same package, unless it is the cluster of types that are
known by the same text. -/
theorem package_eq_of_tag (hf : f.package.isText) (hg : g.package.isText)
    (hd : d ∈ f.clusterPath group focus) (he : e ∈ g.clusterPath group focus)
    (same : d.tag = e.tag)
    (apart : ∀ x y, f.recv = some x → g.recv = some y →
      typeKey f.package x = typeKey g.package y → f.package = g.package) :
    f.package = g.package := by
  rcases cases_clusterPath hd with rfl | ⟨x, hx, rfl⟩ <;>
    rcases cases_clusterPath he with rfl | ⟨y, hy, rfl⟩
  · have keys := congrArg Prod.snd same
    rwa [Cluster.tag, Cluster.tag, Atom.key_of_isText hf, Atom.key_of_isText hg] at keys
  · exact absurd (congrArg Prod.fst same) (show "pkg" ≠ "type" by decide)
  · exact absurd (congrArg Prod.fst same) (show "type" ≠ "pkg" by decide)
  · have keys := congrArg Prod.snd same
    exact apart x y hx hy (Atom.text.inj keys)

theorem exists_receiver_of_tag (hd : d ∈ f.clusterPath group focus)
    (he : e ∈ g.clusterPath group focus) (same : d.tag = e.tag) (package : f.package = g.package)
    (kind : d.kind = "type") :
    ∃ recv, g.recv = some recv ∧ d.label = .text (receiverType recv.inSentence) := by
  rcases cases_clusterPath hd with rfl | ⟨x, hx, rfl⟩
  · exact absurd kind (show "pkg" ≠ "type" by decide)
  rcases cases_clusterPath he with rfl | ⟨y, hy, rfl⟩
  · exact absurd (congrArg Prod.fst same) (show "type" ≠ "pkg" by decide)
  · have keys := congrArg Prod.snd same
    have keys : typeKey f.package x = typeKey g.package y := Atom.text.inj keys
    rw [typeKey, typeKey, package, String.append_right_inj] at keys
    exact ⟨y, hy, congrArg Atom.text keys⟩

/-- Functions in one root have the same package, unless types stand on the outermost level. -/
theorem package_eq_of_head (hf : f.package.isText) (hg : g.package.isText)
    (outermost : group.head? ≠ some .receiver) {t : String × Atom}
    (hd : (f.clusterPath group focus).head?.map Cluster.tag = some t)
    (he : (g.clusterPath group focus).head?.map Cluster.tag = some t) :
    f.package = g.package := by
  cases group with
  | nil => cases hd
  | cons k ks =>
    cases k with
    | package =>
      have keys := congrArg Prod.snd (Option.some.inj (hd.trans he.symm))
      exact (Atom.key_of_isText hf).symm.trans (keys.trans (Atom.key_of_isText hg))
    | receiver => exact absurd rfl outermost

theorem head_clusterPath_of_receiver (outermost : group.head? = some .receiver) {recv : Json}
    (hr : f.recv = some recv) :
    (f.clusterPath group focus).head?.map Cluster.tag =
      some ("type", .text (typeKey f.package recv)) := by
  obtain ⟨ks, rfl⟩ := List.head?_eq_some_iff.1 outermost
  simp only [clusterPath, List.filterMap_cons, hr]
  rfl

end Function

namespace View

variable {group : List GroupKey} {focus : Option Atom} {functions : List Function}

theorem nodup_tags_clustersOf :
    ((clustersOf group focus [] functions).map Cluster.tag).Nodup := by
  rw [clustersOf_nil, Cluster.sortedForest, Cluster.forestSortedInside_eq_map]
  refine ((Cluster.sortedSiblings_perm _).map Cluster.tag).nodup_iff.2 ?_
  rw [List.map_map, Function.comp_def, List.map_congr_left fun c _ => Cluster.tag_sortedInside c]
  exact nodup_tags_forestOf

theorem every_founded_clustersOf :
    ∀ r ∈ clustersOf group focus [] functions,
      Cluster.Every (Cluster.Founded group focus functions r.tag) r := by
  have stable (t : String × Atom) :
      Cluster.Local (Cluster.Founded group focus functions t) (functions.map Function.id) :=
    ⟨fun _ _ h => h, fun _ _ _ h => h⟩
  rw [clustersOf_nil]
  refine Cluster.every_roots_sortedForest stable ?_
  refine List.foldlRecOn (motive := fun forest : List Cluster =>
    ∀ r ∈ forest, Cluster.Every (Cluster.Founded group focus functions r.tag) r) _ _ nofun ?_
  intro forest ih f hf
  refine Cluster.every_roots_place stable (List.mem_map_of_mem hf) (fun t head c hc => ?_) ih
  obtain ⟨emptied, clusters⟩ := Function.fresh_of_mem_clusterPath hc
  exact ⟨⟨f, hf, head, emptied.symm ▸ hc⟩, clusters⟩

variable (texts : ∀ f ∈ functions, f.package.isText)

include texts

theorem exists_function_of_mem {r : Cluster} (hr : r ∈ clustersOf group focus [] functions)
    {p : Cluster × Option Cluster} (hp : p ∈ Cluster.withParents none r) {id : Atom}
    (hid : id ∈ p.1.functions) :
    ∃ f ∈ functions, f.id = id ∧ (f.clusterPath group focus).head?.map Cluster.tag = some r.tag ∧
      p.1.tag ∈ (f.clusterPath group focus).map Cluster.tag := by
  obtain ⟨chain, placed, mem⟩ := Cluster.exists_placement hp hid
  have stands : (id, (r :: chain).map Cluster.tag) ∈
      (clustersOf group focus [] functions).flatMap (Cluster.stands []) := by
    refine List.mem_flatMap.2 ⟨r, hr, ?_⟩
    exact List.mem_map.2 ⟨_, placed, rfl⟩
  obtain ⟨f, hf, asked⟩ := List.mem_map.1 ((flatMap_stands_clustersOf_perm texts).mem_iff.1 stands)
  obtain ⟨rfl, path⟩ := Prod.mk.inj asked
  refine ⟨f, (List.mem_filter.1 hf).1, rfl, ?_, ?_⟩
  · rw [← List.head?_map, path, List.map_cons, List.head?_cons]
  · rw [path]
    exact List.mem_map_of_mem mem

theorem exists_root_of_head {f : Function} (hf : f ∈ functions) {t : String × Atom}
    (head : (f.clusterPath group focus).head?.map Cluster.tag = some t) :
    ∃ r ∈ clustersOf group focus [] functions, r.tag = t ∧ f.id ∈ r.functions := by
  have some : f.clusterPath group focus ≠ [] := by
    rintro none
    rw [none] at head
    cases head
  have asked : (f.id, (f.clusterPath group focus).map Cluster.tag) ∈
      askedOf group focus functions :=
    List.mem_map.2 ⟨f, List.mem_filter.2 ⟨hf, by simpa using some⟩, rfl⟩
  have stands := (flatMap_stands_clustersOf_perm texts).mem_iff.2 asked
  obtain ⟨r, hr, stands⟩ := List.mem_flatMap.1 stands
  obtain ⟨q, hq, stand⟩ := List.mem_map.1 stands
  obtain ⟨id, path⟩ := Prod.mk.inj stand
  obtain ⟨chain, around⟩ := Cluster.exists_eq_cons_of_mem_placements hq
  refine ⟨r, hr, ?_, id ▸ List.mem_map_of_mem hq⟩
  rw [← List.head?_map, ← path, around] at head
  exact Option.some.inj head

end View

namespace Cluster

/-- What a cluster tells of the functions in it, at any depth, is true of all of them. -/
structure Homogeneous (v : View) (c : Cluster) : Prop where
  package : ∀ n ∈ v.nodes, n.id ∈ c.functions → n.package = c.package
  receiver : c.kind = "type" → ∀ n ∈ v.nodes, n.id ∈ c.functions →
    ∃ recv, n.recv = some (.text recv) ∧ c.label = .text (Function.receiverType recv)

end Cluster

namespace View

/-- Two types of different packages are known by the same text. -/
def Confuses (v : View) : Prop :=
  ∃ n ∈ v.nodes, ∃ m ∈ v.nodes, ∃ x y, n.recv = some x ∧ m.recv = some y ∧
    Function.typeKey n.package x = Function.typeKey m.package y ∧ n.package ≠ m.package

/-- The outermost clusters are those of types, and two types are confused. -/
def Mixes (v : View) (group : List GroupKey) : Prop :=
  group.head? = some .receiver ∧ v.Confuses

variable {a : Analysis} {group : List GroupKey} {focus : Option Atom} {g : CallGraph}
  (texts : ∀ f ∈ g.functions, f.package.isText)

include texts

theorem exists_function_of_node (hg : g.WellFormed) {r : Cluster}
    (hr : r ∈ (ofGraph a group focus [] g).clusters) {p : Cluster × Option Cluster}
    (hp : p ∈ Cluster.withParents none r) {n : ViewNode}
    (hn : n ∈ (ofGraph a group focus [] g).nodes) (hid : n.id ∈ p.1.functions) :
    ∃ f ∈ g.functions, nodeOf a group focus [] f = n ∧
      (f.clusterPath group focus).head?.map Cluster.tag = some r.tag ∧
      p.1.tag ∈ (f.clusterPath group focus).map Cluster.tag := by
  obtain ⟨f, hf, rfl⟩ := List.mem_map.1 hn
  obtain ⟨k, hk, same, head, tag⟩ :=
    exists_function_of_mem (fun f hf => texts f (CallGraph.mem_orderedFunctions.1 hf)) hr hp hid
  have hf := CallGraph.mem_orderedFunctions.1 hf
  have hk := CallGraph.mem_orderedFunctions.1 hk
  rw [CallGraph.function_unique hg.nodup_ids hk hf same] at head tag
  exact ⟨f, hf, rfl, head, tag⟩

theorem package_eq_of_founded (apart : ¬ (ofGraph a group focus [] g).Mixes group) {f k : Function}
    (hf : f ∈ g.functions) (hk : k ∈ g.functions) {root : String × Atom}
    (headf : (f.clusterPath group focus).head?.map Cluster.tag = some root)
    (headk : (k.clusterPath group focus).head?.map Cluster.tag = some root) {d e : Cluster}
    (hd : d ∈ f.clusterPath group focus) (he : e ∈ k.clusterPath group focus)
    (same : d.tag = e.tag) : f.package = k.package := by
  -- In the root of a package there is only that package; in the root of a type the texts decide.
  by_cases outermost : group.head? = some .receiver
  · refine Function.package_eq_of_tag (texts f hf) (texts k hk) hd he same ?_
    intro x y hx hy keys
    by_contra other
    have node {h : Function} (hh : h ∈ g.functions) :
        nodeOf a group focus [] h ∈ (ofGraph a group focus [] g).nodes :=
      List.mem_map_of_mem (CallGraph.mem_orderedFunctions.2 hh)
    exact apart ⟨outermost, _, node hf, _, node hk, x, y, hx, hy, keys, other⟩
  · exact Function.package_eq_of_head (texts f hf) (texts k hk) outermost headf headk

theorem homogeneous_of_not_mixes (hg : g.WellFormed)
    (receivers : ∀ f ∈ g.functions, f.recv.all Json.isText = true)
    (apart : ¬ (ofGraph a group focus [] g).Mixes group) :
    ∀ p ∈ (ofGraph a group focus [] g).clustersWithParents,
      p.1.Homogeneous (ofGraph a group focus [] g) := by
  intro p hp
  rw [clustersWithParents, Cluster.forestWithParents_eq] at hp
  obtain ⟨r, hr, hp⟩ := List.mem_flatMap.1 hp
  obtain ⟨f, hf, headf, founded⟩ :=
    ((every_founded_clustersOf r hr).every_of_mem_withParents hp).here
  have hf := CallGraph.mem_orderedFunctions.1 hf
  have shares {n : ViewNode} (hn : n ∈ (ofGraph a group focus [] g).nodes)
      (hid : n.id ∈ p.1.functions) :
      ∃ k ∈ g.functions, nodeOf a group focus [] k = n ∧ f.package = k.package ∧
        ∃ e ∈ k.clusterPath group focus, e.tag = p.1.emptied.tag := by
    obtain ⟨k, hk, node, headk, tag⟩ := exists_function_of_node texts hg hr hp hn hid
    obtain ⟨e, he, same⟩ := List.mem_map.1 tag
    exact ⟨k, hk, node, package_eq_of_founded texts apart hf hk headf headk founded he same.symm, e,
      he, same⟩
  constructor
  · intro n hn hid
    obtain ⟨k, -, rfl, package, -⟩ := shares hn hid
    exact package.symm.trans (Function.package_of_mem_clusterPath founded).1.symm
  · intro kind n hn hid
    obtain ⟨k, hk, rfl, package, e, he, same⟩ := shares hn hid
    obtain ⟨recv, hr, label⟩ :=
      Function.exists_receiver_of_tag founded he same.symm package kind
    have text := receivers k hk
    rw [hr, Option.all_some] at text
    obtain ⟨s, rfl⟩ := Json.isText_iff.1 text
    exact ⟨s, hr, label⟩

theorem not_homogeneous_of_mixes (mixes : (ofGraph a group focus [] g).Mixes group) :
    ∃ p ∈ (ofGraph a group focus [] g).clustersWithParents,
      ¬ p.1.Homogeneous (ofGraph a group focus [] g) := by
  obtain ⟨outermost, n, hn, m, hm, x, y, hx, hy, keys, other⟩ := mixes
  have root {n : ViewNode} (hn : n ∈ (ofGraph a group focus [] g).nodes) {x : Json}
      (hx : n.recv = some x) : ∃ r ∈ (ofGraph a group focus [] g).clusters,
        r.tag = ("type", .text (Function.typeKey n.package x)) ∧ n.id ∈ r.functions := by
    obtain ⟨f, hf, rfl⟩ := List.mem_map.1 hn
    exact exists_root_of_head (fun f hf => texts f (CallGraph.mem_orderedFunctions.1 hf)) hf
      (Function.head_clusterPath_of_receiver outermost hx)
  obtain ⟨r, hr, tag, first⟩ := root hn hx
  obtain ⟨r', hr', tag', second⟩ := root hm hy
  have one : r' = r :=
    List.inj_on_of_nodup_map nodup_tags_clustersOf hr' hr (by rw [tag, tag', keys])
  have listed : (r, none) ∈ (ofGraph a group focus [] g).clustersWithParents := by
    rw [clustersWithParents, Cluster.forestWithParents_eq]
    refine List.mem_flatMap.2 ⟨r, hr, ?_⟩
    rw [Cluster.withParents_eq]
    exact List.mem_cons_self
  refine ⟨_, listed, fun same => other ?_⟩
  exact (same.package n hn first).trans (same.package m hm (one ▸ second)).symm

/-- The outline around a homogeneous cluster is that of its nodes. -/
theorem focused_iff_of_homogeneous {p : Cluster × Option Cluster}
    (hp : p ∈ (ofGraph a group focus [] g).clustersWithParents)
    (same : p.1.Homogeneous (ofGraph a group focus [] g)) :
    p.1.focused = true ↔ ∀ n ∈ (ofGraph a group focus [] g).nodes,
      n.id ∈ p.1.functions → n.focused = true := by
  rw [clustersWithParents, Cluster.forestWithParents_eq] at hp
  obtain ⟨r, hr, hp⟩ := List.mem_flatMap.1 hp
  have ordered (f : Function) (hf : f ∈ g.orderedFunctions) : f.package.isText :=
    texts f (CallGraph.mem_orderedFunctions.1 hf)
  have outline {n : ViewNode} (hn : n ∈ (ofGraph a group focus [] g).nodes)
      (hid : n.id ∈ p.1.functions) : n.focused = p.1.focused := by
    obtain ⟨f, -, -, founded⟩ :=
      ((every_founded_clustersOf r hr).every_of_mem_withParents hp).here
    obtain ⟨package, focused⟩ := Function.package_of_mem_clusterPath founded
    obtain ⟨k, hk, rfl⟩ := List.mem_map.1 hn
    have shared : k.package = f.package := (same.package _ hn hid).trans package
    change k.isIn focus = p.1.emptied.focused
    rw [focused, Function.isIn, Function.isIn, shared]
  have some := ((every_sorted_clustersOf ordered r hr).every_of_mem_withParents hp).functions_ne_nil
  obtain ⟨id, hid⟩ := List.exists_mem_of_ne_nil _ some
  obtain ⟨f, hf, rfl, -⟩ := exists_function_of_mem ordered hr hp hid
  have hn : nodeOf a group focus [] f ∈ (ofGraph a group focus [] g).nodes :=
    List.mem_map_of_mem hf
  constructor
  · exact fun focused n hn hid => (outline hn hid).trans focused
  · exact fun all => (outline hn hid).symm.trans (all _ hn hid)

end View

namespace Analysis

variable {a : Analysis}

/-- The clusters of a view are homogeneous unless types of different packages are mixed in it. A
homogeneous cluster is in focus if all its nodes are, and only then. -/
theorem view_homogeneous (ha : a.WellFormed) (ht : a.Textual) {s : Selection}
    {focus : Option Atom} {v : View} (hv : a.view s focus = .ok v) :
    ((∀ p ∈ v.clustersWithParents, p.1.Homogeneous v) ↔ ¬ v.Mixes s.group) ∧
    ∀ p ∈ v.clustersWithParents, p.1.Homogeneous v →
      (p.1.focused = true ↔ ∀ n ∈ v.nodes, n.id ∈ p.1.functions → n.focused = true) := by
  have texts (f : Function) := Stages.isText_package ha ht s focus (f := f)
  obtain ⟨-, rfl⟩ := (view_eq_ok_iff ha ht s focus).1 hv
  refine ⟨⟨fun all mixes => ?_, ?_⟩, fun p hp => View.focused_iff_of_homogeneous texts hp⟩
  · obtain ⟨p, hp, other⟩ := View.not_homogeneous_of_mixes texts mixes
    exact other (all p hp)
  · exact View.homogeneous_of_not_mixes texts (Stages.wellFormed_shown ha s focus)
      fun f hf => ht.receivers f (Stages.mem_functions_shown ha s focus hf)

def homonyms : Analysis where
  packages := [{ path := .text "yaml", name := .text "yaml" },
    { path := .text "yaml.v2", name := .text "yaml" }]
  functions := [
    { id := .text "yaml.Read", name := .text "Read", package := .text "yaml"
      recv := some (.text "v2.Node") },
    { id := .text "yaml.v2.Line", name := .text "Line", package := .text "yaml.v2"
      recv := some (.text "*Node") }]
  calls := [{ caller := .text "yaml.Read", callee := .text "yaml.v2.Line", site := .text "4:2" }]
  entryPoints := [.text "yaml.Read"]
  program := .text "yaml"

theorem wellFormed_homonyms : homonyms.WellFormed where
  nodup_ids := by decide
  caller_mem := by decide
  callee_mem := by decide
  start_mem := by decide

theorem textual_homonyms : homonyms.Textual where
  ids := by decide
  packages := by decide
  names := by decide
  receivers := by decide
  sites := by decide

theorem view_homogeneous_homonyms :
    homonyms.WellFormed ∧ homonyms.Textual ∧
      ∃ v, homonyms.view { group := [.package, .receiver] } (some (.text "yaml")) = .ok v ∧
        v.clustersWithParents.map (fun p => (p.1.kind, p.1.label, p.1.focused)) =
          [("pkg", .text "yaml", true), ("type", .text "v2.Node", true),
            ("pkg", .text "yaml.v2", false), ("type", .text "Node", false)] ∧
        ∀ p ∈ v.clustersWithParents, p.1.Homogeneous v ∧
          (p.1.focused = true ↔ ∀ n ∈ v.nodes, n.id ∈ p.1.functions → n.focused = true) := by
  have clusters : (homonyms.view { group := [.package, .receiver] } (some (.text "yaml"))).toOption.map
      (fun v => v.clustersWithParents.map fun p => (p.1.kind, p.1.label, p.1.focused)) =
        some [("pkg", .text "yaml", true), ("type", .text "v2.Node", true),
          ("pkg", .text "yaml.v2", false), ("type", .text "Node", false)] := by cbv
  obtain ⟨v, hv, clusters⟩ := exists_ok_of_map clusters
  obtain ⟨same, focused⟩ := view_homogeneous wellFormed_homonyms textual_homonyms hv
  have same := same.2 fun mixes => absurd mixes.1 (by decide)
  exact ⟨wellFormed_homonyms, textual_homonyms, v, hv, clusters,
    fun p hp => ⟨same p hp, focused p hp (same p hp)⟩⟩

/-- Without the clusters of packages around them, the two types are one cluster. It has the package,
the label and the outline of the one, and the method of the other stands in it. -/
theorem homonyms_share_cluster :
    ∃ v, homonyms.view { group := [.receiver] } (some (.text "yaml")) = .ok v ∧
      ∃ p ∈ v.clustersWithParents, p.1.kind = "type" ∧ p.1.package = .text "yaml" ∧
        p.1.label = .text "v2.Node" ∧ p.1.focused = true ∧
        ∃ n ∈ v.nodes, n.id ∈ p.1.functions ∧ n.package = .text "yaml.v2" ∧
          n.recv = some (.text "*Node") ∧ n.focused = false := by
  have parts : (homonyms.view { group := [.receiver] } (some (.text "yaml"))).toOption.map
      (fun v => (v.clustersWithParents.map Prod.fst, v.nodes)) =
        some ([⟨"type", .text "yaml.v2.Node", .text "v2.Node", .text "yaml",
            [.text "yaml.Read", .text "yaml.v2.Line"], [], true⟩],
          [⟨.text "yaml.Read", .text "Read", .text "yaml.Read", .text "yaml", .text "yaml",
              some (.text "v2.Node"), false, false, true⟩,
            ⟨.text "yaml.v2.Line", .text "Line", .text "yaml.Line", .text "yaml.v2", .text "yaml",
              some (.text "*Node"), false, false, false⟩]) := by cbv
  obtain ⟨v, hv, parts⟩ := exists_ok_of_map parts
  obtain ⟨clusters, nodes⟩ := Prod.mk.inj parts
  obtain ⟨p, hp, cluster⟩ := List.mem_map.1 (clusters ▸ List.mem_cons_self)
  refine ⟨v, hv, p, hp, ?_⟩
  rw [cluster]
  refine ⟨rfl, rfl, rfl, rfl, _, nodes ▸ List.mem_cons_of_mem _ List.mem_cons_self, ?_⟩
  exact ⟨by decide, rfl, rfl, rfl⟩

end Analysis

end CallAtlas
