import CallAtlas.View.Cluster
import Mathlib.Data.List.Basic

set_option autoImplicit false

/-!
# What holds of every cluster

`Cluster.Every` says that something holds of a cluster and of all clusters in it. Functions are put
into a forest one after the other and the forest is sorted in the end; what holds of the clusters
that functions ask for holds of all clusters of the sorted forest.
-/

namespace CallAtlas.Cluster

inductive Every (P : Cluster → Prop) : Cluster → Prop where
  | intro {c : Cluster} : P c → (∀ d ∈ c.clusters, Every P d) → Every P c

/-- A property of a cluster that says nothing of the clusters in it, and that a function with one of
some ids does not break when it becomes a member. -/
structure Local (P : Cluster → Prop) (ids : List Atom) : Prop where
  clusters : ∀ c cs, P c → P { c with clusters := cs }
  member : ∀ c, ∀ id ∈ ids, P c → P { c with members := c.members ++ [id] }

variable {P : Cluster → Prop} {ids : List Atom}

theorem Every.here {c : Cluster} (h : Every P c) : P c := by
  cases h with
  | intro hc _ => exact hc

theorem Every.inside {c : Cluster} (h : Every P c) : ∀ d ∈ c.clusters, Every P d := by
  cases h with
  | intro _ hd => exact hd

theorem Every.imp {Q : Cluster → Prop} (h : ∀ d, P d → Q d) {c : Cluster} (hc : Every P c) :
    Every Q c := by
  induction hc with
  | intro hc _ ih => exact .intro (h _ hc) ih

theorem Every.and {Q : Cluster → Prop} {c : Cluster} (hp : Every P c) (hq : Every Q c) :
    Every (fun d => P d ∧ Q d) c := by
  induction hp with
  | intro h _ ih => exact .intro ⟨h, hq.here⟩ fun d hd => ih d hd (hq.inside d hd)

theorem forall_modify {P Q : Cluster → Prop} {c : Cluster} {change : Cluster → Cluster}
    (hc : Q (change c)) (changes : ∀ d, d.same c = true → P d → Q (change d))
    (keeps : ∀ d, P d → Q d)
    {ds : List Cluster} (hd : ∀ d ∈ ds, P d) : ∀ d ∈ modify c change ds, Q d := by
  induction ds with
  | nil =>
    intro d h
    rw [modify, List.mem_singleton] at h
    exact h ▸ hc
  | cons e es ih =>
    have he := hd e List.mem_cons_self
    have hes (d : Cluster) (h : d ∈ es) : P d := hd d (List.mem_cons_of_mem e h)
    intro d h
    rw [modify] at h
    split at h
    · rename_i same
      rcases List.mem_cons.1 h with rfl | h
      · exact changes e same he
      · exact keeps d (hes d h)
    · rcases List.mem_cons.1 h with rfl | h
      · exact keeps d he
      · exact ih hes d h

/-- What every cluster of a forest has when a function was put into it, if the clusters had enough
for that before: those that are passed on the way get the function inside, and the last one gets it
as a member. -/
theorem every_place_of {P Q : Cluster → Prop} {id : Atom} {path : List Cluster}
    (fresh : ∀ c ∈ path, c.clusters = []) (keeps : ∀ d, P d → Q d)
    (inside : ∀ d, P d ∨ d ∈ path → ∀ rest, rest ≠ [] →
      Q { d with clusters := place id rest d.clusters })
    (member : ∀ d, P d ∨ d ∈ path → Q { d with members := d.members ++ [id] })
    {forest : List Cluster} (hf : ∀ d ∈ forest, Every P d) :
    ∀ d ∈ place id path forest, Every Q d := by
  induction path generalizing forest with
  | nil => exact fun d hd => (hf d hd).imp keeps
  | cons c path ih =>
    have empty := fresh c List.mem_cons_self
    cases path with
    | nil =>
      refine forall_modify ?_ (fun d _ h => ?_) (fun d h => h.imp keeps) hf
      · exact .intro (member c (.inr List.mem_cons_self)) (by simp [empty])
      · exact .intro (member d (.inl h.here)) fun e he => (h.inside e he).imp keeps
    | cons c' path =>
      have ih := @ih (fun d hd => fresh d (List.mem_cons_of_mem c hd))
        (fun d hd => inside d (hd.imp_right (List.mem_cons_of_mem c)))
        (fun d hd => member d (hd.imp_right (List.mem_cons_of_mem c)))
      have some : c' :: path ≠ [] := List.cons_ne_nil c' path
      refine forall_modify ?_ (fun d _ h => ?_) (fun d h => h.imp keeps) hf
      · exact .intro (inside c (.inr List.mem_cons_self) _ some) (ih (by simp [empty]))
      · exact .intro (inside d (.inl h.here) _ some) (ih h.inside)

theorem every_place (stable : Local P ids) {id : Atom} (hi : id ∈ ids) {path : List Cluster}
    (hp : ∀ c ∈ path, P c ∧ c.clusters = []) {forest : List Cluster}
    (hf : ∀ d ∈ forest, Every P d) : ∀ d ∈ place id path forest, Every P d := by
  have known (d : Cluster) (hd : P d ∨ d ∈ path) : P d := hd.elim (fun h => h) fun h => (hp d h).1
  refine every_place_of (fun c hc => (hp c hc).2) (fun _ h => h) ?_ ?_ hf
  · exact fun d hd _ _ => stable.clusters d _ (known d hd)
  · exact fun d hd => stable.member d id hi (known d hd)

theorem sortedSiblings_perm (cs : List Cluster) : (sortedSiblings cs).Perm cs := by
  unfold sortedSiblings
  split
  · exact Run.sort_perm _ _
  · exact List.mergeSort_perm _ _

theorem mem_sortedSiblings {cs : List Cluster} {c : Cluster} : c ∈ sortedSiblings cs ↔ c ∈ cs :=
  (sortedSiblings_perm cs).mem_iff

theorem forestSortedInside_eq_map (cs : List Cluster) :
    forestSortedInside cs = cs.map sortedInside := by
  induction cs with
  | nil => rfl
  | cons d ds ih => rw [forestSortedInside, ih, List.map_cons]

theorem sortedInside_eq (c : Cluster) :
    c.sortedInside = { c with clusters := sortedSiblings (c.clusters.map sortedInside) } := by
  obtain ⟨kind, key, label, package, members, clusters, focused⟩ := c
  rw [sortedInside, forestSortedInside_eq_map]

/-- What every cluster has when the clusters in it are sorted, if it and the clusters in it had
enough for that before. -/
theorem Every.sortedInside_of {P Q : Cluster → Prop}
    (sorts : ∀ d, P d → (∀ e ∈ d.clusters, P e) →
      Q { d with clusters := sortedSiblings (d.clusters.map Cluster.sortedInside) })
    {c : Cluster} (h : Every P c) : Every Q c.sortedInside := by
  induction h with
  | @intro c hc hd ih =>
    rw [sortedInside_eq]
    refine .intro (sorts c hc fun e he => (hd e he).here) ?_
    intro d hd
    obtain ⟨e, he, rfl⟩ := List.mem_map.1 (mem_sortedSiblings.1 hd)
    exact ih e he

theorem Every.sortedInside (stable : Local P ids) {c : Cluster} (h : Every P c) :
    Every P c.sortedInside := h.sortedInside_of fun d hd _ => stable.clusters d _ hd

theorem every_sortedForest (stable : Local P ids) {forest : List Cluster}
    (h : ∀ c ∈ forest, Every P c) : ∀ c ∈ sortedForest forest, Every P c := by
  intro c hc
  rw [sortedForest, mem_sortedSiblings, forestSortedInside_eq_map] at hc
  obtain ⟨d, hd, rfl⟩ := List.mem_map.1 hc
  exact (h d hd).sortedInside stable

theorem siblingsOrdered_of_texts {cs : List Cluster} (h : ∀ c ∈ cs, c.key.isText) :
    siblingsOrdered cs = true := by
  rw [siblingsOrdered, List.all_eq_true]
  intro c _
  exact Atom.ofOneKind_map fun d hd => h d (List.mem_filter.1 hd).1

theorem forestOrdered_iff {cs : List Cluster} :
    forestOrdered cs = true ↔ ∀ c ∈ cs, isOrdered c = true := by
  induction cs with
  | nil => simp [forestOrdered]
  | cons c cs ih => rw [forestOrdered, Bool.and_eq_true, ih, List.forall_mem_cons]

theorem isOrdered_of_texts {c : Cluster} (h : Every (fun d => d.key.isText) c) :
    isOrdered c = true := by
  induction h with
  | @intro c _ hd ih =>
    obtain ⟨kind, key, label, package, members, clusters, focused⟩ := c
    rw [isOrdered, Bool.and_eq_true, forestOrdered_iff]
    exact ⟨siblingsOrdered_of_texts fun d h => (hd d h).here, ih⟩

theorem inOrder_of_texts {forest : List Cluster}
    (h : ∀ c ∈ forest, Every (fun d => d.key.isText) c) : inOrder forest = true := by
  rw [inOrder, Bool.and_eq_true, forestOrdered_iff]
  exact ⟨siblingsOrdered_of_texts fun c hc => (h c hc).here, fun c hc => isOrdered_of_texts (h c hc)⟩

end CallAtlas.Cluster
