import CallAtlas.Json.AtomTable
import CallAtlas.Proofs.Forest
import CallAtlas.Proofs.Sorting
import Mathlib.Data.List.Perm.Basic

set_option autoImplicit false

/-!
# Where functions stand in a forest

Among its siblings a cluster is known by its tag. `Cluster.stands` walks through a cluster and tells
of each function in it the tags of the clusters around it. Putting a function into a forest adds one
place to those, and sorting the forest adds and takes none; so in the end every function stands
once, and at the path that it asked for. `Tidy` is what the clusters keep meanwhile, `Sorted` what
they have in the end.
-/

namespace CallAtlas

namespace Cluster

/-- What a cluster is known by among its siblings. -/
def tag (c : Cluster) : String × Atom := (c.kind, c.key.key)

@[simp] theorem tag_members (c : Cluster) (ids : List Atom) :
    ({ c with members := ids } : Cluster).tag = c.tag := rfl

@[simp] theorem tag_clusters (c : Cluster) (cs : List Cluster) :
    ({ c with clusters := cs } : Cluster).tag = c.tag := rfl

theorem same_iff {c d : Cluster} : c.same d = true ↔ c.tag = d.tag := by
  simp [same, tag, Atom.same]

/-- What holds of a cluster if it holds of all clusters in it holds of every cluster. -/
@[elab_as_elim]
theorem of_inside {P : Cluster → Prop} (c : Cluster)
    (inside : ∀ c : Cluster, (∀ d ∈ c.clusters, P d) → P c) : P c :=
  inside c fun d _ => of_inside d inside
termination_by c
decreasing_by
  rename_i hd
  obtain ⟨kind, key, label, package, members, clusters, focused⟩ := c
  have smaller : sizeOf d < sizeOf clusters := List.sizeOf_lt_of_mem hd
  simp only [mk.sizeOf_spec]
  omega

theorem forestPlacements_eq (outer cs : List Cluster) :
    forestPlacements outer cs = cs.flatMap (placements outer) := by
  induction cs with
  | nil => rfl
  | cons c cs ih => rw [forestPlacements, ih, List.flatMap_cons]

theorem placements_eq (outer : List Cluster) (c : Cluster) :
    placements outer c = c.members.map (fun id => (id, outer ++ [c])) ++
      c.clusters.flatMap (placements (outer ++ [c])) := by
  obtain ⟨kind, key, label, package, members, clusters, focused⟩ := c
  rw [placements, forestPlacements_eq]

theorem forestWithParents_eq (parent : Option Cluster) (cs : List Cluster) :
    forestWithParents parent cs = cs.flatMap (withParents parent) := by
  induction cs with
  | nil => rfl
  | cons c cs ih => rw [forestWithParents, ih, List.flatMap_cons]

theorem withParents_eq (parent : Option Cluster) (c : Cluster) :
    withParents parent c = (c, parent) :: c.clusters.flatMap (withParents (some c)) := by
  obtain ⟨kind, key, label, package, members, clusters, focused⟩ := c
  rw [withParents, forestWithParents_eq]

theorem placements_outer (outer : List Cluster) (c : Cluster) :
    placements outer c = (placements [] c).map fun p => (p.1, outer ++ p.2) := by
  induction c using of_inside generalizing outer with
  | _ c ih =>
  have inner : c.clusters.flatMap (placements (outer ++ [c])) =
      (c.clusters.flatMap (placements [c])).map fun p => (p.1, outer ++ p.2) := by
    rw [List.map_flatMap]
    refine List.flatMap_congr fun d hd => ?_
    rw [ih d hd, ih d hd [c], List.map_map]
    simp only [Function.comp_def, List.append_assoc]
  rw [placements_eq, placements_eq, inner, List.map_append, List.map_map]
  rfl

theorem map_fst_placements (outer : List Cluster) (parent : Option Cluster) (c : Cluster) :
    (placements outer c).map Prod.fst = (withParents parent c).flatMap fun p => p.1.members := by
  induction c using of_inside generalizing outer parent with
  | _ c ih =>
  rw [placements_eq, withParents_eq, List.map_append, List.map_flatMap, List.flatMap_cons,
    List.flatMap_assoc, List.map_map]
  refine congrArg₂ _ (List.map_id _) (List.flatMap_congr fun d hd => ih d hd _ _)

theorem map_fst_forestPlacements (outer : List Cluster) (parent : Option Cluster)
    (cs : List Cluster) : (forestPlacements outer cs).map Prod.fst =
      (forestWithParents parent cs).flatMap fun p => p.1.members := by
  rw [forestPlacements_eq, forestWithParents_eq, List.flatMap_assoc, List.map_flatMap]
  exact List.flatMap_congr fun c _ => map_fst_placements outer parent c

theorem Every.every_of_mem_withParents {P : Cluster → Prop} {c : Cluster} (h : Every P c)
    {parent : Option Cluster} {p : Cluster × Option Cluster} (hp : p ∈ withParents parent c) :
    Every P p.1 := by
  induction h generalizing parent with
  | @intro c hc inside ih =>
    rw [withParents_eq, List.mem_cons] at hp
    rcases hp with rfl | hp
    · exact .intro hc inside
    · obtain ⟨d, hd, hp⟩ := List.mem_flatMap.1 hp
      exact ih d hd hp

theorem Every.of_mem_placements {P : Cluster → Prop} {c : Cluster} (h : Every P c)
    {p : Atom × List Cluster} (hp : p ∈ placements [] c) : ∀ d ∈ p.2, P d := by
  induction h generalizing p with
  | @intro c hc _ ih =>
    rw [placements_eq, List.mem_append] at hp
    rcases hp with hp | hp
    · obtain ⟨id, -, rfl⟩ := List.mem_map.1 hp
      simpa using hc
    · obtain ⟨d, hd, hp⟩ := List.mem_flatMap.1 hp
      rw [List.nil_append, placements_outer] at hp
      obtain ⟨q, hq, rfl⟩ := List.mem_map.1 hp
      exact List.forall_mem_cons.2 ⟨hc, ih d hd hq⟩

/-- The functions of a cluster and of all clusters in it, each with the tags of the clusters around
it, outermost first. -/
def stands (outer : List (String × Atom)) (c : Cluster) : List (Atom × List (String × Atom)) :=
  (placements [] c).map fun p => (p.1, outer ++ p.2.map tag)

theorem stands_eq (outer : List (String × Atom)) (c : Cluster) :
    c.stands outer = c.members.map (fun id => (id, outer ++ [c.tag])) ++
      c.clusters.flatMap (stands (outer ++ [c.tag])) := by
  rw [stands, placements_eq, List.map_append, List.map_map, List.map_flatMap]
  refine congrArg₂ _ rfl (List.flatMap_congr fun d _ => ?_)
  rw [placements_outer, List.map_map, stands]
  simp [Function.comp_def]

theorem stands_of_empty {c : Cluster} (h : c.members = [] ∧ c.clusters = [])
    (outer : List (String × Atom)) : c.stands outer = [] := by
  rw [stands_eq, h.1, h.2]
  rfl

variable {id : Atom} {path : List Cluster}

/-- If changing a cluster adds one result to a walk through it, changing it among its siblings adds
one to the walk through all. -/
theorem flatMap_modify_perm {β : Type} {walk : Cluster → List β} {c : Cluster}
    {change : Cluster → Cluster} {x : β} (fresh : walk c = [])
    (adds : ∀ d, d.tag = c.tag → (walk (change d)).Perm (x :: walk d)) (cs : List Cluster) :
    ((modify c change cs).flatMap walk).Perm (x :: cs.flatMap walk) := by
  induction cs with
  | nil => simpa [modify, fresh] using adds c rfl
  | cons d ds ih =>
    rw [modify, List.flatMap_cons]
    split
    · rename_i h
      exact (adds d (same_iff.1 h)).append_right _
    · exact (ih.append_left _).trans List.perm_middle

theorem flatMap_stands_place_perm (some : path ≠ [])
    (fresh : ∀ c ∈ path, c.members = [] ∧ c.clusters = []) (outer : List (String × Atom))
    (forest : List Cluster) :
    ((place id path forest).flatMap (stands outer)).Perm
      ((id, outer ++ path.map tag) :: forest.flatMap (stands outer)) := by
  induction path generalizing outer forest with
  | nil => exact absurd rfl some
  | cons c path ih =>
    have empty := fresh c List.mem_cons_self
    cases path with
    | nil =>
      refine flatMap_modify_perm (stands_of_empty empty outer) (fun d hd => ?_) forest
      rw [stands_eq, stands_eq outer d, tag_members, List.map_append, List.append_assoc,
        List.map_singleton, hd]
      exact List.perm_middle
    | cons c' path =>
      have inner := ih (List.cons_ne_nil c' path) fun d hd => fresh d (List.mem_cons_of_mem c hd)
      refine flatMap_modify_perm (stands_of_empty empty outer) (fun d hd => ?_) forest
      rw [stands_eq, stands_eq outer d, tag_clusters]
      refine ((inner _ d.clusters).append_left _).trans (List.perm_middle.trans (.of_eq ?_))
      rw [hd, List.append_assoc]
      rfl

theorem mem_tags_modify {c : Cluster} {change : Cluster → Cluster}
    (keeps : ∀ d, (change d).tag = d.tag) {cs : List Cluster} {t : String × Atom} :
    t ∈ (modify c change cs).map tag ↔ t = c.tag ∨ t ∈ cs.map tag := by
  induction cs with
  | nil => simp [modify, keeps]
  | cons d ds ih =>
    rw [modify]
    split
    · rename_i h
      simp [keeps, same_iff.1 h]
    · rw [List.map_cons, List.mem_cons, ih, List.map_cons, List.mem_cons]
      exact or_left_comm

theorem nodup_tags_modify {c : Cluster} {change : Cluster → Cluster}
    (keeps : ∀ d, (change d).tag = d.tag) {cs : List Cluster} (h : (cs.map tag).Nodup) :
    ((modify c change cs).map tag).Nodup := by
  induction cs with
  | nil => exact List.nodup_singleton _
  | cons d ds ih =>
    rw [List.map_cons, List.nodup_cons] at h
    rw [modify]
    split
    · rw [List.map_cons, List.nodup_cons, keeps]
      exact h
    · rename_i other
      rw [List.map_cons, List.nodup_cons, mem_tags_modify keeps]
      exact ⟨fun hm => hm.elim (fun e => other (same_iff.2 e)) h.1, ih h.2⟩

theorem nodup_tags_place {cs : List Cluster} (h : (cs.map tag).Nodup) :
    ((place id path cs).map tag).Nodup := by
  unfold place
  split
  · exact h
  · exact nodup_tags_modify (by exact fun _ => rfl) h
  · exact nodup_tags_modify (by exact fun _ => rfl) h

theorem place_ne_nil (some : path ≠ []) (cs : List Cluster) : place id path cs ≠ [] := by
  have modified (c : Cluster) (change : Cluster → Cluster) : modify c change cs ≠ [] := by
    cases cs with
    | nil => exact List.cons_ne_nil _ _
    | cons d ds =>
      rw [modify]
      split <;> exact List.cons_ne_nil _ _
  unfold place
  split
  · exact absurd rfl some
  · exact modified _ _
  · exact modified _ _

/-- What a cluster keeps while functions are put into it in order: it holds some of those put so
far, siblings in it are told apart by their tags, and it is not empty. -/
structure Tidy (put : List Atom) (c : Cluster) : Prop where
  key : c.key.isText
  members : c.members.Sublist put
  tags : (c.clusters.map tag).Nodup
  filled : c.members ≠ [] ∨ c.clusters ≠ []

theorem every_tidy_place {put : List Atom}
    (fresh : ∀ c ∈ path, c.key.isText ∧ c.members = [] ∧ c.clusters = []) {forest : List Cluster}
    (h : ∀ c ∈ forest, Every (Tidy put) c) :
    ∀ c ∈ place id path forest, Every (Tidy (put ++ [id])) c := by
  have key (d : Cluster) (hd : Tidy put d ∨ d ∈ path) : d.key.isText :=
    hd.elim Tidy.key fun h => (fresh d h).1
  have members (d : Cluster) (hd : Tidy put d ∨ d ∈ path) : d.members.Sublist put :=
    hd.elim Tidy.members fun h => (fresh d h).2.1 ▸ List.nil_sublist put
  have tags (d : Cluster) (hd : Tidy put d ∨ d ∈ path) : (d.clusters.map tag).Nodup :=
    hd.elim Tidy.tags fun h => (fresh d h).2.2 ▸ List.nodup_nil
  have longer : put.Sublist (put ++ [id]) := List.sublist_append_left put [id]
  refine every_place_of (fun c hc => (fresh c hc).2.2) ?_ ?_ ?_ h
  · exact fun d hd => ⟨hd.key, hd.members.trans longer, hd.tags, hd.filled⟩
  · exact fun d hd rest some => ⟨key d hd, (members d hd).trans longer,
      nodup_tags_place (tags d hd), .inr (place_ne_nil some _)⟩
  · exact fun d hd => ⟨key d hd, (members d hd).append_right [id], tags d hd, .inl (by simp)⟩

theorem stands_sortedInside_perm (c : Cluster) (outer : List (String × Atom)) :
    (c.sortedInside.stands outer).Perm (c.stands outer) := by
  induction c using of_inside generalizing outer with
  | _ c ih =>
  rw [sortedInside_eq, stands_eq, stands_eq outer c]
  refine .append_left _ (((sortedSiblings_perm _).flatMap_right _).trans ?_)
  rw [List.flatMap_map]
  exact List.Perm.flatMap_left _ fun d hd => ih d hd _

theorem flatMap_stands_sortedForest_perm (forest : List Cluster) (outer : List (String × Atom)) :
    ((sortedForest forest).flatMap (stands outer)).Perm (forest.flatMap (stands outer)) := by
  rw [sortedForest, forestSortedInside_eq_map]
  refine ((sortedSiblings_perm _).flatMap_right _).trans ?_
  rw [List.flatMap_map]
  exact List.Perm.flatMap_left _ fun d _ => stands_sortedInside_perm d outer

theorem before_iff {c d : Cluster} :
    c.before d = true ↔ Prod.Lex (· < ·) Atom.Before (c.kind, c.key) (d.kind, d.key) := by
  simp [before, Prod.lex_iff, Atom.Before]

theorem pairwise_sortedSiblings {cs : List Cluster} (texts : ∀ c ∈ cs, c.key.isText)
    (nodup : (cs.map tag).Nodup) : (sortedSiblings cs).Pairwise fun c d => c.before d = true := by
  have numbers : ¬ cs.any (fun c => c.key.isNotANumber) = true := by
    rw [List.any_eq_true]
    rintro ⟨c, hc, hn⟩
    rw [Atom.isNotANumber_of_isText (texts c hc)] at hn
    cases hn
  have nodup : (cs.map fun c => (c.kind, c.key)).Nodup := by
    rwa [List.map_congr_left fun c hc => by rw [tag, Atom.key_of_isText (texts c hc)]] at nodup
  rw [sortedSiblings, if_neg numbers]
  simp only [before_iff]
  have : IsStrictTotalOrder (String × Atom) (Prod.Lex (· < ·) Atom.Before) := {}
  have sorts : SortsBy (Prod.Lex (· < ·) Atom.Before) (fun c : Cluster => (c.kind, c.key))
      fun c d => !d.before c := by
    intro c d
    rw [Bool.not_eq_true', ← Bool.not_eq_true, before_iff]
  exact sorts.pairwise_mergeSort nodup

structure Sorted (put : List Atom) (c : Cluster) : Prop where
  key : c.key.isText
  members : c.members.Sublist put
  siblings : c.clusters.Pairwise fun d e => d.before e = true
  filled : c.members ≠ [] ∨ c.clusters ≠ []

theorem tag_sortedInside (c : Cluster) : c.sortedInside.tag = c.tag := by
  rw [sortedInside_eq]
  rfl

theorem pairwise_sortedForest {cs : List Cluster} (texts : ∀ c ∈ cs, c.key.isText)
    (nodup : (cs.map tag).Nodup) :
    (sortedSiblings (cs.map sortedInside)).Pairwise fun c d => c.before d = true := by
  refine pairwise_sortedSiblings (fun c hc => ?_) ?_
  · obtain ⟨d, hd, rfl⟩ := List.mem_map.1 hc
    rw [sortedInside_eq]
    exact texts d hd
  · rwa [List.map_map, Function.comp_def, List.map_congr_left fun c _ => tag_sortedInside c]

theorem Every.sorted {put : List Atom} {c : Cluster} (h : Every (Tidy put) c) :
    Every (Sorted put) c.sortedInside := by
  refine h.sortedInside_of fun d hd inside => ⟨hd.key, hd.members, ?_, ?_⟩
  · exact pairwise_sortedForest (fun e he => (inside e he).key) hd.tags
  · refine hd.filled.imp_right fun some none => some ?_
    have none := (sortedSiblings_perm _).symm.trans (.of_eq none)
    exact List.map_eq_nil_iff.1 none.eq_nil

theorem Every.functions_ne_nil {put : List Atom} {c : Cluster} (h : Every (Sorted put) c) :
    c.functions ≠ [] := by
  induction h with
  | @intro c hc _ ih =>
    rw [functions, placements_eq, List.map_append, ne_eq, List.append_eq_nil_iff]
    rintro ⟨members, inner⟩
    rcases hc.filled with some | some
    · exact some (by simpa using members)
    · obtain ⟨d, hd⟩ := List.exists_mem_of_ne_nil _ some
      refine ih d hd ?_
      rw [functions, List.map_eq_nil_iff]
      have inner := List.flatMap_eq_nil_iff.1 (List.map_eq_nil_iff.1 inner) d hd
      rw [placements_outer] at inner
      exact List.map_eq_nil_iff.1 inner

end Cluster

end CallAtlas
