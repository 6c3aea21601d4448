import CallAtlas.Proofs.Placement
import CallAtlas.View.Element
import Mathlib.Data.List.Induction

set_option autoImplicit false

/-!
# Occurrences of clusters

A cluster occurs in a forest at a position: which root leads to it, which cluster of the root, and
so on. The occurrences of a forest are listed with outer clusters before inner ones, and every walk
through the forest is told by that list: a walk is what it does at one cluster, and what it takes
along from a cluster to those in it.
-/

namespace CallAtlas

/-- What is met on the way to a position, from the root on. -/
def Forest.trail? {α : Type} (inside : α → List α) : List α → List Nat → Option (List α)
  | _, [] => some []
  | forest, i :: position =>
    forest[i]?.bind fun t => (trail? inside (inside t) position).map (t :: ·)

theorem Forest.length_of_trail? {α : Type} {inside : α → List α} {forest trail : List α}
    {position : List Nat} (h : trail? inside forest position = some trail) :
    trail.length = position.length := by
  induction position generalizing forest trail with
  | nil =>
    cases h
    rfl
  | cons i position ih =>
    simp only [trail?, Option.bind_eq_some_iff, Option.map_eq_some_iff] at h
    obtain ⟨t, -, rest, hr, rfl⟩ := h
    simp [ih hr]

namespace Cluster

structure Occurrence where
  position : List Nat
  outer : List Cluster
  cluster : Cluster

namespace Occurrence

def inside (c : Cluster) (o : Occurrence) : Occurrence := { o with outer := c :: o.outer }

def under (i : Nat) (o : Occurrence) : Occurrence := { o with position := i :: o.position }

def chain (o : Occurrence) : List Cluster := o.outer ++ [o.cluster]

def In (forest : List Cluster) (o : Occurrence) : Prop :=
  Forest.trail? clusters forest o.position = some o.chain

end Occurrence

mutual

def occurrences : Cluster → List Occurrence
  | ⟨kind, key, label, package, members, clusters, focused⟩ =>
    let c : Cluster := ⟨kind, key, label, package, members, clusters, focused⟩
    ⟨[], [], c⟩ :: (forestOccurrences 0 clusters).map (.inside c)

def forestOccurrences (i : Nat) : List Cluster → List Occurrence
  | [] => []
  | c :: cs => (occurrences c).map (.under i) ++ forestOccurrences (i + 1) cs

end

theorem occurrences_eq (c : Cluster) :
    c.occurrences = ⟨[], [], c⟩ :: (forestOccurrences 0 c.clusters).map (.inside c) := by
  obtain ⟨kind, key, label, package, members, clusters, focused⟩ := c
  rw [occurrences]

theorem mem_forestOccurrences {cs : List Cluster} {i : Nat} {o : Occurrence} :
    o ∈ forestOccurrences i cs ↔
      ∃ j, ∃ c, cs[j]? = some c ∧ ∃ p ∈ occurrences c, p.under (i + j) = o := by
  induction cs generalizing i with
  | nil => simp [forestOccurrences]
  | cons c cs ih =>
    rw [forestOccurrences, List.mem_append, List.mem_map, ih]
    constructor
    · rintro (h | ⟨j, d, hd, h⟩)
      · exact ⟨0, c, rfl, h⟩
      · exact ⟨j + 1, d, hd, by rwa [← Nat.add_assoc, Nat.add_right_comm]⟩
    · rintro ⟨j, d, hd, h⟩
      cases j with
      | zero =>
        cases hd
        exact .inl h
      | succ j => exact .inr ⟨j, d, hd, by rwa [Nat.add_assoc, Nat.add_comm 1]⟩

theorem mem_forest_of_each {cs : List Cluster}
    (each : ∀ c ∈ cs, ∀ o, o ∈ c.occurrences ↔
      ∃ trail, Forest.trail? clusters c.clusters o.position = some trail ∧ o.chain = c :: trail)
    (o : Occurrence) : o ∈ forestOccurrences 0 cs ↔ o.In cs := by
  rw [mem_forestOccurrences]
  constructor
  · rintro ⟨i, c, hc, p, hp, rfl⟩
    obtain ⟨trail, ht, chain⟩ := (each c (List.mem_of_getElem? hc) p).1 hp
    have under : (p.under (0 + i)).chain = c :: trail := chain
    rw [Occurrence.In, under]
    simp [Occurrence.under, Forest.trail?, hc, ht]
  · intro h
    obtain ⟨position, outer, cluster⟩ := o
    cases position with
    | nil => simp [Occurrence.In, Occurrence.chain, Forest.trail?] at h
    | cons i position =>
      simp only [Occurrence.In, Forest.trail?, Option.bind_eq_some_iff, Option.map_eq_some_iff] at h
      obtain ⟨c, hc, trail, ht, chain⟩ := h
      exact ⟨i, c, hc, ⟨position, outer, cluster⟩,
        (each c (List.mem_of_getElem? hc) _).2 ⟨trail, ht, chain.symm⟩, by simp [Occurrence.under]⟩

theorem mem_occurrences (c : Cluster) (o : Occurrence) :
    o ∈ c.occurrences ↔ ∃ trail, Forest.trail? clusters c.clusters o.position = some trail ∧
      o.chain = c :: trail := by
  induction c using of_inside generalizing o with
  | _ c ih =>
  rw [occurrences_eq, List.mem_cons, List.mem_map]
  constructor
  · rintro (rfl | ⟨p, hp, rfl⟩)
    · exact ⟨[], rfl, rfl⟩
    · exact ⟨p.chain, (mem_forest_of_each ih p).1 hp, rfl⟩
  · rintro ⟨trail, ht, chain⟩
    obtain ⟨position, outer, cluster⟩ := o
    cases outer with
    | nil =>
      have length := Forest.length_of_trail? ht
      simp only [Occurrence.chain, List.nil_append, List.cons.injEq] at chain
      obtain ⟨rfl, rfl⟩ := chain
      exact .inl (by simpa using length.symm)
    | cons d outer =>
      simp only [Occurrence.chain, List.cons_append, List.cons.injEq] at chain
      obtain ⟨rfl, rfl⟩ := chain
      exact .inr ⟨⟨position, outer, cluster⟩, (mem_forest_of_each ih _).2 ht, rfl⟩

theorem mem_forestOccurrences_iff {forest : List Cluster} {o : Occurrence} :
    o ∈ forestOccurrences 0 forest ↔ o.In forest :=
  mem_forest_of_each (fun c _ => mem_occurrences c) o

theorem pairwise_forest_of_each {cs : List Cluster}
    (each : ∀ c ∈ cs, (c.occurrences.map Occurrence.position).Pairwise (· < ·)) (i : Nat) :
    ((forestOccurrences i cs).map Occurrence.position).Pairwise (· < ·) := by
  induction cs generalizing i with
  | nil => exact .nil
  | cons c cs ih =>
    rw [List.forall_mem_cons] at each
    rw [forestOccurrences, List.map_append, List.map_map, List.pairwise_append]
    refine ⟨?_, ih each.2 (i + 1), ?_⟩
    · have here := each.1
      rw [List.pairwise_map] at here ⊢
      exact here.imp fun h => List.cons_lt_cons_iff.2 (.inr ⟨rfl, h⟩)
    · -- Positions below different siblings differ in their first index.
      intro p hp q hq
      obtain ⟨o, ho, rfl⟩ := List.mem_map.1 hp
      obtain ⟨_, h, rfl⟩ := List.mem_map.1 hq
      obtain ⟨j, d, -, o', -, rfl⟩ := mem_forestOccurrences.1 h
      exact List.cons_lt_cons_iff.2 (.inl (by omega))

theorem pairwise_occurrences (c : Cluster) :
    (c.occurrences.map Occurrence.position).Pairwise (· < ·) := by
  induction c using of_inside with
  | _ c ih =>
  rw [occurrences_eq, List.map_cons, List.pairwise_cons, List.map_map]
  refine ⟨fun p hp => ?_, pairwise_forest_of_each ih 0⟩
  obtain ⟨o, ho, rfl⟩ := List.mem_map.1 hp
  obtain ⟨j, d, -, o', -, rfl⟩ := mem_forestOccurrences.1 ho
  exact List.nil_lt_cons _ _

theorem pairwise_forestOccurrences (forest : List Cluster) :
    ((forestOccurrences 0 forest).map Occurrence.position).Pairwise (· < ·) :=
  pairwise_forest_of_each (fun c _ => pairwise_occurrences c) 0

section Walk

variable {σ β : Type} {walk here : σ → Cluster → List β} {next : σ → Cluster → σ}

/-- A walk through a forest does at each occurrence what it does at the cluster, with what it takes
along from the clusters around. -/
theorem flatMap_walk_eq
    {cs : List Cluster} (each : ∀ c ∈ cs, ∀ s, walk s c =
      c.occurrences.flatMap fun o => here (o.outer.foldl next s) o.cluster) (i : Nat) (s : σ) :
    cs.flatMap (walk s) =
      (forestOccurrences i cs).flatMap fun o => here (o.outer.foldl next s) o.cluster := by
  induction cs generalizing i with
  | nil => rfl
  | cons c cs ih =>
    rw [List.flatMap_cons, each c List.mem_cons_self, forestOccurrences, List.flatMap_append,
      List.flatMap_map, ih (fun d hd => each d (List.mem_cons_of_mem c hd))]
    rfl

theorem walk_eq
    (step : ∀ s c, walk s c = here s c ++ c.clusters.flatMap (walk (next s c))) (s : σ)
    (c : Cluster) :
    walk s c = c.occurrences.flatMap fun o => here (o.outer.foldl next s) o.cluster := by
  induction c using of_inside generalizing s with
  | _ c ih =>
  rw [step, flatMap_walk_eq ih 0, occurrences_eq, List.flatMap_cons, List.flatMap_map]
  rfl

theorem forest_walk_eq
    (step : ∀ s c, walk s c = here s c ++ c.clusters.flatMap (walk (next s c))) (s : σ)
    (cs : List Cluster) : cs.flatMap (walk s) =
      (forestOccurrences 0 cs).flatMap fun o => here (o.outer.foldl next s) o.cluster :=
  flatMap_walk_eq (fun c _ s => walk_eq step s c) 0 s

end Walk

theorem visit_eq (waiting : List (Cluster × Option Cluster)) :
    visit waiting = waiting.flatMap fun p => withParents p.2 p.1 := by
  fun_induction visit waiting with
  | case1 => rfl
  | case2 c parent waiting ih =>
    rw [ih, push_eq, List.flatMap_append, List.flatMap_map, List.flatMap_cons, withParents_eq]
    rfl

theorem foldl_parent (outer : List Cluster) :
    outer.foldl (fun _ c => some c) none = outer.getLast? := by
  induction outer using List.reverseRecOn with
  | nil => rfl
  | append_singleton cs c _ => simp

theorem forestWithParents_none (cs : List Cluster) :
    forestWithParents none cs =
      (forestOccurrences 0 cs).map fun o => (o.cluster, o.outer.getLast?) := by
  have step (parent : Option Cluster) (c : Cluster) :
      withParents parent c = (fun parent c => [(c, parent)]) parent c ++
        c.clusters.flatMap (withParents (some c)) := withParents_eq parent c
  rw [forestWithParents_eq, forest_walk_eq step, List.map_eq_flatMap]
  simp only [foldl_parent]

theorem foldl_outer (outer : List Cluster) : outer.foldl (fun cs c => cs ++ [c]) [] = outer := by
  induction outer using List.reverseRecOn with
  | nil => rfl
  | append_singleton cs c ih => simp [ih]

theorem forestPlacements_nil (cs : List Cluster) :
    forestPlacements [] cs =
      (forestOccurrences 0 cs).flatMap fun o => o.cluster.members.map fun id => (id, o.chain) := by
  rw [forestPlacements_eq, forest_walk_eq placements_eq]
  simp only [foldl_outer, Occurrence.chain]

def name (c : Cluster) : String := "cluster:" ++ c.kind ++ ":" ++ c.key.inSentence

end Cluster

namespace Element

/-- The id of the innermost one of some clusters, outermost first. -/
def pathId (chain : List Cluster) : String := "/".intercalate (chain.map Cluster.name)

def parentId (outer : List Cluster) : Option String :=
  if outer.isEmpty then none else some (pathId outer)

def ofOccurrence (o : Cluster.Occurrence) : Element :=
  .cluster (pathId o.chain) o.cluster.label o.cluster.kind o.cluster.focused (parentId o.outer)

theorem clusterId_parentId (outer : List Cluster) (c : Cluster) :
    clusterId (parentId outer) c.kind c.key = pathId (outer ++ [c]) := by
  unfold pathId
  cases outer with
  | nil => simp [parentId, clusterId, Cluster.name]
  | cons d outer =>
    have some : (d :: outer).map Cluster.name ≠ [] := by simp
    rw [List.map_append, String.intercalate_append_of_ne_nil some (by simp)]
    apply String.toList_injective
    simp [parentId, pathId, clusterId, Cluster.name]

theorem foldl_clusterId (outer : List Cluster) :
    outer.foldl (fun parent c => some (clusterId parent c.kind c.key)) none = parentId outer := by
  induction outer using List.reverseRecOn with
  | nil => rfl
  | append_singleton cs c ih =>
    rw [List.foldl_append, ih, List.foldl_cons, List.foldl_nil, clusterId_parentId]
    simp [parentId]

theorem ofForest_eq (parent : Option String) (cs : List Cluster) :
    ofForest parent cs = cs.flatMap (ofCluster parent) := by
  induction cs with
  | nil => rfl
  | cons c cs ih => rw [ofForest, ih, List.flatMap_cons]

theorem ofCluster_eq (parent : Option String) (c : Cluster) :
    ofCluster parent c =
      [.cluster (clusterId parent c.kind c.key) c.label c.kind c.focused parent] ++
        c.clusters.flatMap (ofCluster (some (clusterId parent c.kind c.key))) := by
  obtain ⟨kind, key, label, package, members, clusters, focused⟩ := c
  rw [ofCluster, ofForest_eq]
  rfl

theorem ofForest_none (cs : List Cluster) :
    ofForest none cs = (Cluster.forestOccurrences 0 cs).map ofOccurrence := by
  rw [ofForest_eq, Cluster.forest_walk_eq ofCluster_eq, List.map_eq_flatMap]
  simp only [foldl_clusterId, clusterId_parentId]
  rfl

end Element

end CallAtlas
