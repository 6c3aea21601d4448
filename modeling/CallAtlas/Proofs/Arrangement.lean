import CallAtlas.Proofs.Placement
import CallAtlas.Proofs.Views

set_option autoImplicit false

/-!
# How views are arranged

`View.Arranged` says what every view of a well formed analysis has: its nodes, edges, siblings and
members stand in strict order, and each node stands once, loose or in a cluster. `Function.grouping`
is the path that a function asks for, and `Analysis.view_arranged` finds every function of a view
there.
-/

namespace CallAtlas

/-- The kinds and keys of the clusters that a function stands in, outermost first. -/
def Function.grouping (f : Function) (group : List GroupKey) : List (String × Atom) :=
  group.filterMap fun
    | .package => some ("pkg", f.package)
    | .receiver => f.recv.map fun recv =>
        ("type", .text (f.package.inSentence ++ "." ++ Text.dropLeading '*' recv.inSentence))

namespace Function

theorem map_clusterPath (f : Function) (group : List GroupKey) (focus : Option Atom) :
    (f.clusterPath group focus).map (fun c => (c.kind, c.key)) = f.grouping group := by
  rw [clusterPath, grouping, List.map_filterMap]
  refine List.filterMap_congr fun k _ => ?_
  cases k with
  | package => rfl
  | receiver => cases f.recv <;> rfl

theorem clusterPath_eq_nil (f : Function) (group : List GroupKey) (focus : Option Atom) :
    f.clusterPath group focus = [] ↔ f.grouping group = [] := by
  rw [← f.map_clusterPath group focus, List.map_eq_nil_iff]

end Function

theorem Cluster.map_tag_of_texts {cs : List Cluster} (h : ∀ c ∈ cs, c.key.isText) :
    cs.map tag = cs.map fun c => (c.kind, c.key) :=
  List.map_congr_left fun c hc => by rw [tag, Atom.key_of_isText (h c hc)]

namespace CallGraph

variable {g : CallGraph}

theorem pairwise_orderedFunctions (nodup : g.ids.Nodup) :
    g.orderedFunctions.Pairwise fun f h => f.id.before h.id = true := by
  have sorts : SortsBy Atom.Before Function.id fun f h => f.id.le h.id := fun _ _ => Atom.le_iff
  exact sorts.pairwise_mergeSort nodup

theorem pairwise_orderedEdges (nodup : (g.edges.map Edge.ends).Nodup) :
    g.orderedEdges.Pairwise fun e d => Atom.PairBefore e.ends d.ends := by
  have sorts : SortsBy Atom.PairBefore Edge.ends fun e d =>
      e.caller.before d.caller || (e.caller = d.caller && e.callee.le d.callee) :=
    fun _ _ => Atom.pair_le_iff
  exact sorts.pairwise_mergeSort nodup

end CallGraph

namespace View

/-- What every view of a well formed analysis has. -/
structure Arranged (v : View) : Prop where
  nonempty : v.nodes ≠ []
  nodes : v.nodes.Pairwise fun n m => n.id.before m.id = true
  edges : v.edges.Pairwise fun e d =>
    e.caller.before d.caller = true ∨ e.caller = d.caller ∧ e.callee.before d.callee = true
  ends : ∀ e ∈ v.edges, e.caller ∈ v.ids ∧ e.callee ∈ v.ids
  /-- Each node stands once, loose or as a member of a cluster. -/
  once : (v.loose ++ v.clustersWithParents.flatMap fun p => p.1.members).Perm v.ids
  filled : ∀ p ∈ v.clustersWithParents, p.1.functions ≠ []
  roots : v.clusters.Pairwise fun c d => c.before d = true
  siblings : ∀ p ∈ v.clustersWithParents, p.1.clusters.Pairwise fun c d => c.before d = true
  members : ∀ p ∈ v.clustersWithParents, p.1.members.Pairwise fun i j => i.before j = true

theorem Arranged.nodup_ids {v : View} (h : v.Arranged) : v.ids.Nodup := by
  refine List.pairwise_map.2 (h.nodes.imp fun {n m} before same => ?_)
  rw [same] at before
  exact Atom.before_irrefl m.id before

variable (group : List GroupKey) (focus : Option Atom) (functions : List Function)

def forestOf : List Cluster :=
  functions.foldl (fun forest f => Cluster.place f.id (f.clusterPath group focus) forest) []

def askedOf : List (Atom × List (String × Atom)) :=
  (functions.filter fun f => !(f.clusterPath group focus).isEmpty).map fun f =>
    (f.id, (f.clusterPath group focus).map Cluster.tag)

theorem clustersOf_nil :
    clustersOf group focus [] functions = Cluster.sortedForest (forestOf group focus functions) :=
  rfl

theorem forestOf_concat (f : Function) :
    forestOf group focus (functions ++ [f]) =
      Cluster.place f.id (f.clusterPath group focus) (forestOf group focus functions) := by
  rw [forestOf, List.foldl_append]
  rfl

theorem askedOf_concat (f : Function) :
    askedOf group focus (functions ++ [f]) = askedOf group focus functions ++
      if f.clusterPath group focus = [] then []
      else [(f.id, (f.clusterPath group focus).map Cluster.tag)] := by
  rw [askedOf, List.filter_append, List.map_append]
  refine congrArg _ ?_
  by_cases h : f.clusterPath group focus = [] <;> simp [h]

variable {group focus functions} (texts : ∀ f ∈ functions, f.package.isText)

include texts

theorem flatMap_stands_forestOf_perm :
    ((forestOf group focus functions).flatMap (Cluster.stands [])).Perm
      (askedOf group focus functions) := by
  induction functions using List.reverseRecOn with
  | nil => exact .nil
  | append_singleton fs f ih =>
    have ih := ih fun h hh => texts h (List.mem_append_left _ hh)
    have fresh (c : Cluster) (hc : c ∈ f.clusterPath group focus) :
        c.members = [] ∧ c.clusters = [] :=
      (Function.of_mem_clusterPath (texts f (by simp)) hc).2.2
    rw [forestOf_concat, askedOf_concat]
    by_cases none : f.clusterPath group focus = []
    · rw [if_pos none, List.append_nil, none]
      exact ih
    · rw [if_neg none]
      refine (Cluster.flatMap_stands_place_perm none fresh [] (forestOf group focus fs)).trans ?_
      exact (ih.cons _).trans (List.perm_append_singleton _ _).symm

theorem every_tidy_forestOf :
    ∀ c ∈ forestOf group focus functions,
      Cluster.Every (Cluster.Tidy (functions.map Function.id)) c := by
  induction functions using List.reverseRecOn with
  | nil => exact fun c hc => nomatch hc
  | append_singleton fs f ih =>
    have ih := ih fun h hh => texts h (List.mem_append_left _ hh)
    rw [forestOf_concat, List.map_append]
    refine Cluster.every_tidy_place (fun c hc => ?_) ih
    obtain ⟨key, -, empty⟩ := Function.of_mem_clusterPath (texts f (by simp)) hc
    exact ⟨key, empty⟩

omit texts in
theorem nodup_tags_forestOf : ((forestOf group focus functions).map Cluster.tag).Nodup :=
  List.foldlRecOn (motive := fun forest : List Cluster => (forest.map Cluster.tag).Nodup) _ _ .nil
    fun _ h _ _ => Cluster.nodup_tags_place h

theorem every_sorted_clustersOf :
    ∀ c ∈ clustersOf group focus [] functions,
      Cluster.Every (Cluster.Sorted (functions.map Function.id)) c := by
  intro c hc
  rw [clustersOf_nil, Cluster.sortedForest, Cluster.mem_sortedSiblings,
    Cluster.forestSortedInside_eq_map] at hc
  obtain ⟨d, hd, rfl⟩ := List.mem_map.1 hc
  exact (every_tidy_forestOf texts d hd).sorted

theorem pairwise_clustersOf :
    (clustersOf group focus [] functions).Pairwise fun c d => c.before d = true := by
  rw [clustersOf_nil, Cluster.sortedForest, Cluster.forestSortedInside_eq_map]
  exact Cluster.pairwise_sortedForest (fun c hc => (every_tidy_forestOf texts c hc).here.key)
    nodup_tags_forestOf

theorem flatMap_stands_clustersOf_perm :
    ((clustersOf group focus [] functions).flatMap (Cluster.stands [])).Perm
      (askedOf group focus functions) := by
  rw [clustersOf_nil]
  exact (Cluster.flatMap_stands_sortedForest_perm _ []).trans (flatMap_stands_forestOf_perm texts)

theorem loose_append_members_perm :
    (looseOf group focus [] functions ++ (Cluster.forestWithParents none
      (clustersOf group focus [] functions)).flatMap fun p => p.1.members).Perm
        (functions.map Function.id) := by
  have members : ((Cluster.forestWithParents none
      (clustersOf group focus [] functions)).flatMap fun p => p.1.members) =
        ((clustersOf group focus [] functions).flatMap (Cluster.stands [])).map Prod.fst := by
    rw [← Cluster.map_fst_forestPlacements [] none, Cluster.forestPlacements_eq, List.map_flatMap,
      List.map_flatMap]
    refine List.flatMap_congr fun c _ => ?_
    rw [Cluster.stands, List.map_map]
    rfl
  have asked : (askedOf group focus functions).map Prod.fst =
      (functions.filter fun f => !(f.clusterPath group focus).isEmpty).map Function.id := by
    rw [askedOf, List.map_map]
    rfl
  rw [members]
  refine (((flatMap_stands_clustersOf_perm texts).map Prod.fst).append_left _).trans ?_
  have loose : looseOf group focus [] functions =
      (functions.filter fun f => (f.clusterPath group focus).isEmpty).map Function.id := rfl
  rw [asked, loose, ← List.map_append]
  exact (List.filter_append_perm _ functions).map Function.id

theorem placements_clustersOf_perm {v : View}
    (hv : v.clusters = clustersOf group focus [] functions) :
    ((Cluster.forestPlacements [] v.clusters).map fun p => (p.1, p.2.map Cluster.tag)).Perm
      (askedOf group focus functions) := by
  rw [Cluster.forestPlacements_eq, hv, List.map_flatMap]
  exact flatMap_stands_clustersOf_perm texts

theorem tags_chain? (nodup : (functions.map Function.id).Nodup)
    (ids : ∀ f ∈ functions, f.id.isText) {v : View}
    (hv : v.clusters = clustersOf group focus [] functions) {f : Function} (hf : f ∈ functions) :
    ((v.chain? f.id).getD []).map Cluster.tag = (f.clusterPath group focus).map Cluster.tag := by
  have placed := placements_clustersOf_perm texts hv
  cases chain : v.chain? f.id with
  | none =>
    by_contra some
    have some : f.clusterPath group focus ≠ [] := fun none => some (by rw [none]; rfl)
    have asked : (f.id, (f.clusterPath group focus).map Cluster.tag) ∈
        askedOf group focus functions :=
      List.mem_map.2 ⟨f, List.mem_filter.2 ⟨hf, by simpa using some⟩, rfl⟩
    obtain ⟨p, hp, hpf⟩ := List.mem_map.1 (placed.mem_iff.2 asked)
    have id : p.1 = f.id := congrArg Prod.fst hpf
    exact Atom.Table.find?_ofList_eq_none.1 chain p hp (by simp [id, Atom.same])
  | some clusters =>
    obtain ⟨p, hp, same, rfl⟩ := Atom.Table.exists_of_find?_ofList chain
    obtain ⟨d, hd, hpd⟩ := List.mem_map.1 (placed.mem_iff.1 (List.mem_map_of_mem hp))
    obtain ⟨id, path⟩ := Prod.mk.inj hpd
    have mem := (List.mem_filter.1 hd).1
    rw [Atom.same, decide_eq_true_iff, ← id, Atom.key_of_isText (ids d mem),
      Atom.key_of_isText (ids f hf)] at same
    rw [List.inj_on_of_nodup_map nodup mem hf same] at path
    exact path.symm

theorem isText_of_mem_chain? {v : View} (hv : v.clusters = clustersOf group focus [] functions)
    {id : Atom} : ∀ c ∈ (v.chain? id).getD [], c.key.isText := by
  cases chain : v.chain? id with
  | none => exact fun c hc => nomatch hc
  | some clusters =>
    obtain ⟨p, hp, -, rfl⟩ := Atom.Table.exists_of_find?_ofList chain
    rw [Cluster.forestPlacements_eq, hv] at hp
    obtain ⟨d, hd, hp⟩ := List.mem_flatMap.1 hp
    exact fun c hc => ((every_sorted_clustersOf texts d hd).of_mem_placements hp c hc).key

/-- The clusters around a function are those of its grouping. -/
theorem chain_eq_grouping (nodup : (functions.map Function.id).Nodup)
    (ids : ∀ f ∈ functions, f.id.isText) {v : View}
    (hv : v.clusters = clustersOf group focus [] functions) {f : Function} (hf : f ∈ functions) :
    ((v.chain? f.id).getD []).map (fun c => (c.kind, c.key)) = f.grouping group := by
  have path (c : Cluster) (hc : c ∈ f.clusterPath group focus) : c.key.isText :=
    (Function.of_mem_clusterPath (texts f hf) hc).1
  rw [← Cluster.map_tag_of_texts (isText_of_mem_chain? texts hv), tags_chain? texts nodup ids hv hf,
    Cluster.map_tag_of_texts path, Function.map_clusterPath]

omit texts in
theorem mem_looseOf (nodup : (functions.map Function.id).Nodup) {f : Function}
    (hf : f ∈ functions) :
    f.id ∈ looseOf group focus [] functions ↔ f.grouping group = [] := by
  rw [← f.clusterPath_eq_nil group focus, looseOf, List.mem_map]
  constructor
  · rintro ⟨h, hh, id⟩
    obtain ⟨mem, none⟩ := List.mem_filter.1 hh
    rw [← List.inj_on_of_nodup_map nodup mem hf id]
    exact List.isEmpty_iff.1 none
  · exact fun none => ⟨f, List.mem_filter.2 ⟨hf, List.isEmpty_iff.2 none⟩, rfl⟩

omit texts in
theorem arranged_ofGraph {a : Analysis} {g : CallGraph} (hg : g.WellFormed)
    (some : g.functions ≠ []) (packages : ∀ f ∈ g.functions, f.package.isText)
    (callees : ∀ e ∈ g.edges, e.callee.isText) : (ofGraph a group focus [] g).Arranged := by
  have texts (f : Function) (hf : f ∈ g.orderedFunctions) : f.package.isText :=
    packages f (CallGraph.mem_orderedFunctions.1 hf)
  have ordered := CallGraph.pairwise_orderedFunctions hg.nodup_ids
  have sorted : ∀ p ∈ (ofGraph a group focus [] g).clustersWithParents,
      Cluster.Every (Cluster.Sorted (g.orderedFunctions.map Function.id)) p.1 := by
    intro p hp
    rw [clustersWithParents, Cluster.forestWithParents_eq] at hp
    obtain ⟨c, hc, hp⟩ := List.mem_flatMap.1 hp
    exact (every_sorted_clustersOf texts c hc).every_of_mem_withParents hp
  exact {
    nonempty := by
      intro none
      refine some (List.Perm.nil_eq ?_).symm
      rw [← List.map_eq_nil_iff.1 none]
      exact g.orderedFunctions_perm
    nodes := List.pairwise_map.2 ordered
    edges := by
      refine List.pairwise_map.2 ((CallGraph.pairwise_orderedEdges hg.nodup_ends).imp_of_mem ?_)
      intro e d he hd h
      rw [edgeOf_of_isText (callees e (CallGraph.mem_orderedEdges.1 he)),
        edgeOf_of_isText (callees d (CallGraph.mem_orderedEdges.1 hd))]
      exact Prod.lex_iff.1 h
    ends := by
      intro e he
      obtain ⟨d, hd, rfl⟩ := List.mem_map.1 he
      have hd := CallGraph.mem_orderedEdges.1 hd
      rw [edgeOf_of_isText (callees d hd)]
      exact ⟨mem_ids_ofGraph.2 (hg.caller_mem d hd), mem_ids_ofGraph.2 (hg.callee_mem d hd)⟩
    once := by
      rw [ids_ofGraph]
      exact loose_append_members_perm texts
    filled := fun p hp => (sorted p hp).functions_ne_nil
    roots := pairwise_clustersOf texts
    siblings := fun p hp => (sorted p hp).here.siblings
    members := fun p hp =>
      List.Pairwise.sublist (sorted p hp).here.members (List.pairwise_map.2 ordered) }

end View

namespace Analysis

theorem arranged_of_view {a : Analysis} (ha : a.WellFormed) (ht : a.Textual) {s : Selection}
    {focus : Option Atom} {v : View} (hv : a.view s focus = .ok v) : v.Arranged := by
  obtain ⟨⟨id, names⟩, rfl⟩ := (view_eq_ok_iff ha ht s focus).1 hv
  obtain ⟨f, hf, -⟩ := CallGraph.mem_ids.1 ((Stages.fits_shown ha s focus).names.1 names)
  exact View.arranged_ofGraph (Stages.wellFormed_shown ha s focus) (List.ne_nil_of_mem hf)
    (fun _ => Stages.isText_package ha ht s focus) fun e he => (Stages.isText_ends ha ht s focus he).2

/-- A view is arranged, and every function in it stands where its grouping says. -/
theorem view_arranged {a : Analysis} (ha : a.WellFormed) (ht : a.Textual) {s : Selection}
    {focus : Option Atom} {v : View} (hv : a.view s focus = .ok v) :
    v.Arranged ∧ ∀ id ∈ v.ids, ∃ f ∈ a.functions, f.id = id ∧
      ((v.chain? id).getD []).map (fun c => (c.kind, c.key)) = f.grouping s.group ∧
      (id ∈ v.loose ↔ f.grouping s.group = []) := by
  have wellFormed := Stages.wellFormed_shown ha s focus
  have known (f : Function) (hf : f ∈ (Stages.run a s focus).shown.orderedFunctions) :
      f ∈ a.functions :=
    Stages.mem_functions_shown ha s focus (CallGraph.mem_orderedFunctions.1 hf)
  refine ⟨arranged_of_view ha ht hv, fun id hid => ?_⟩
  obtain ⟨-, rfl⟩ := (view_eq_ok_iff ha ht s focus).1 hv
  rw [View.ids_ofGraph, List.mem_map] at hid
  obtain ⟨f, hf, rfl⟩ := hid
  have nodup : ((Stages.run a s focus).shown.orderedFunctions.map Function.id).Nodup :=
    ((CallGraph.orderedFunctions_perm _).map Function.id).nodup_iff.2 wellFormed.nodup_ids
  refine ⟨f, known f hf, rfl, ?_, View.mem_looseOf nodup hf⟩
  have texts (h : Function) (hh : h ∈ (Stages.run a s focus).shown.orderedFunctions) :
      h.package.isText := ht.packages h (known h hh)
  exact View.chain_eq_grouping texts nodup (fun h hh => ht.ids h (known h hh)) rfl hf

/-- A program with a method, which stands in the cluster of its type, and a plain function. -/
def ledger : Analysis where
  packages := [{ path := .text "app", name := .text "main" }]
  functions := [
    { id := .text "(*app.Book).Add", name := .text "Add", package := .text "app"
      recv := some (.text "*Book") },
    { id := .text "app.main", name := .text "main", package := .text "app" }]
  calls := [{ caller := .text "app.main", callee := .text "(*app.Book).Add", site := .text "4:2" }]
  entryPoints := [.text "app.main"]
  program := .text "app"

theorem wellFormed_ledger : ledger.WellFormed where
  nodup_ids := by decide
  caller_mem := by decide
  callee_mem := by decide
  start_mem := by decide

theorem textual_ledger : ledger.Textual where
  ids := by decide
  packages := by decide
  names := by decide
  receivers := by decide
  sites := by decide

/-- Types hold packages: the package `app` stands in the type `Book` and beside it. -/
theorem view_arranged_ledger :
    ledger.WellFormed ∧ ledger.Textual ∧
      ∃ v, ledger.view { group := [.receiver, .package] } none = .ok v ∧ v.Arranged ∧
        ((v.chain? (.text "(*app.Book).Add")).getD []).map (fun c => (c.kind, c.key)) =
          [("type", .text "app.Book"), ("pkg", .text "app")] ∧
        ((v.chain? (.text "app.main")).getD []).map (fun c => (c.kind, c.key)) =
          [("pkg", .text "app")] := by
  refine ⟨wellFormed_ledger, textual_ledger, ?_⟩
  have ids : (ledger.view { group := [.receiver, .package] } none).toOption.map View.ids =
      some [.text "(*app.Book).Add", .text "app.main"] := by cbv
  obtain ⟨v, hv, ids⟩ := exists_ok_of_map ids
  obtain ⟨arranged, chains⟩ := view_arranged wellFormed_ledger textual_ledger hv
  have chain {id : Atom} (hid : id ∈ v.ids) {path : List (String × Atom)}
      (hpath : ∀ f ∈ ledger.functions, f.id = id → f.grouping [.receiver, .package] = path) :
      ((v.chain? id).getD []).map (fun c => (c.kind, c.key)) = path := by
    obtain ⟨f, hf, rfl, chain, -⟩ := chains id hid
    exact chain.trans (hpath f hf rfl)
  exact ⟨v, hv, arranged, chain (by simp [ids]) (by decide), chain (by simp [ids]) (by decide)⟩

end Analysis

end CallAtlas
