import CallAtlas.Proofs.Depiction
import CallAtlas.Proofs.Traversals

set_option autoImplicit false

/-!
# Ids of elements

Functions keep their ids as elements; clusters and calls get ids that start with a word of their
own, and the id of a cluster holds the names of the clusters around it. Since ids of functions and
keys of clusters may be any texts, that does not keep all ids apart. Two clusters can only have the
same id if the key of one continues the key of a sibling in the way that the id of an inner cluster
continues that of an outer one.
-/

namespace CallAtlas

def Element.id : Element → Atom
  | .cluster id .. => .text id
  | .function node .. => node.id
  | .call id .. => .text id

namespace Cluster

def word : List Char := ['c', 'l', 'u', 's', 't', 'e', 'r', ':']

/-- What stands between the name of a cluster and the rest of the name of one in it. -/
def joint : List Char := '/' :: word

theorem toList_word : "cluster:".toList = word := by decide

theorem toList_name (c : Cluster) :
    c.name.toList = word ++ (c.kind.toList ++ ':' :: c.key.inSentence.toList) := by
  rw [name, String.toList_append, String.toList_append, String.toList_append, toList_word]
  simp only [List.append_assoc]
  rfl

def Tail (t : List Char) : Prop := t = [] ∨ ∃ rest, t = joint ++ rest

/-- A tail that is cut leaves a joint in front of another tail: there is one slash in a joint. -/
theorem Tail.cut {s t : List Char} (some : s ≠ []) (whole : Tail (s ++ t)) (tail : Tail t) :
    ∃ rest, s = joint ++ rest := by
  obtain ⟨rest, split⟩ := whole.resolve_left (by simp [some])
  rw [List.append_eq_append_iff] at split
  -- The cut goes through the joint, or it stands behind the joint.
  rcases split with ⟨cs, inside, rfl⟩ | ⟨cs, rfl, -⟩
  · cases cs with
    | nil => exact ⟨[], by simp [inside]⟩
    | cons c cs =>
      obtain ⟨_, joined⟩ := tail.resolve_left (by simp)
      obtain ⟨a, s, rfl⟩ := List.exists_cons_of_ne_nil some
      have slash : c = '/' := (List.cons.inj joined).1
      have inner : word = s ++ c :: cs := (List.cons.inj inside).2
      have clean : '/' ∉ word := by decide
      rw [inner, slash] at clean
      exact absurd (List.mem_append_right s List.mem_cons_self) clean
  · exact ⟨cs, rfl⟩

/-- The key of a cluster is continued by the key of another one of the same kind, as if that were
the path to a cluster inside. -/
def Extends (c d : Cluster) : Prop :=
  c.kind = d.kind ∧ Text.startsWith d.key.inSentence (c.key.inSentence ++ "/cluster:") = true

instance (c d : Cluster) : Decidable (c.Extends d) := inferInstanceAs (Decidable (_ ∧ _))

def Apart (c d : Cluster) : Prop :=
  ∀ s t, Tail s → Tail t → c.name.toList ++ s ≠ d.name.toList ++ t

theorem name_append_eq {c d : Cluster} (hc : ':' ∉ c.kind.toList) (hd : ':' ∉ d.kind.toList)
    {s : List Char} (h : c.name.toList ++ s = d.name.toList) :
    c.kind = d.kind ∧ c.key.inSentence.toList ++ s = d.key.inSentence.toList := by
  have parts : c.kind.toList ++ ':' :: (c.key.inSentence.toList ++ s) =
      d.kind.toList ++ ':' :: d.key.inSentence.toList := by
    rw [toList_name, toList_name, List.append_assoc, List.append_assoc] at h
    exact List.append_cancel_left h
  have plain {kind : String} (hk : ':' ∉ kind.toList) :
      ∀ x ∈ kind.toList, decide (x ≠ ':') = true :=
    fun x hx => decide_eq_true fun colon => hk (colon ▸ hx)
  have before := congrArg (List.takeWhile (· ≠ ':')) parts
  rw [List.takeWhile_append_of_pos (plain hc), List.takeWhile_append_of_pos (plain hd)] at before
  have kinds : c.kind.toList = d.kind.toList := by simpa using before
  rw [kinds] at parts
  exact ⟨String.toList_injective kinds, List.cons.inj (List.append_cancel_left parts) |>.2⟩

/-- A name that goes on with what is cut from a tail continues the other key. -/
theorem extends_of_name_eq {c d : Cluster} (hc : ':' ∉ c.kind.toList) (hd : ':' ∉ d.kind.toList)
    (other : c.kind = d.kind → c.key.inSentence ≠ d.key.inSentence) {rest t : List Char}
    (name : d.name.toList = c.name.toList ++ rest) (whole : Tail (rest ++ t)) (tail : Tail t) :
    c.Extends d := by
  obtain ⟨kind, key⟩ := name_append_eq hc hd name.symm
  have some : rest ≠ [] := by
    rintro rfl
    rw [List.append_nil] at key
    exact other kind (String.toList_injective key)
  obtain ⟨more, rfl⟩ := whole.cut some tail
  refine ⟨kind, ?_⟩
  rw [Text.startsWith, ← key, String.toList_append, List.isPrefixOf_iff_prefix, ← List.append_assoc]
  exact List.prefix_append _ _

theorem apart_of_plain {c d : Cluster} (hc : ':' ∉ c.kind.toList) (hd : ':' ∉ d.kind.toList)
    (other : c.kind = d.kind → c.key.inSentence ≠ d.key.inSentence) (hcd : ¬ c.Extends d)
    (hdc : ¬ d.Extends c) : Apart c d := by
  -- If two ids were the same, one of the names would be the beginning of the other.
  intro s t hs ht same
  rcases List.append_eq_append_iff.1 same with ⟨rest, name, rfl⟩ | ⟨rest, name, rfl⟩
  · exact hcd (extends_of_name_eq hc hd other name hs ht)
  · exact hdc (extends_of_name_eq hd hc (fun kind => (other kind.symm).symm) name ht hs)

end Cluster

namespace Element

open Cluster

theorem pathId_cons (c : Cluster) {chain : List Cluster} (some : chain ≠ []) :
    pathId (c :: chain) = c.name ++ "/" ++ pathId chain := by
  have names : chain.map Cluster.name ≠ [] := by simpa using some
  rw [pathId, List.map_cons, String.intercalate_cons_of_ne_nil names]
  rfl

theorem exists_pathId (c : Cluster) (chain : List Cluster) :
    ∃ t, Tail t ∧ (pathId (c :: chain)).toList = c.name.toList ++ t := by
  induction chain generalizing c with
  | nil => exact ⟨[], .inl rfl, by simp [pathId]⟩
  | cons d chain ih =>
    obtain ⟨t, -, ht⟩ := ih d
    refine ⟨'/' :: (d.name.toList ++ t),
      .inr ⟨d.kind.toList ++ ':' :: d.key.inSentence.toList ++ t, ?_⟩, ?_⟩
    · rw [toList_name, List.append_assoc]
      rfl
    · rw [pathId_cons c (List.cons_ne_nil d chain), String.toList_append, String.toList_append, ht,
        List.append_assoc]
      rfl

end Element

namespace Cluster

open Element

def pathIds (occurrences : List Occurrence) : List String := occurrences.map fun o => pathId o.chain

@[simp] theorem pathIds_cons (o : Occurrence) (os : List Occurrence) :
    pathIds (o :: os) = pathId o.chain :: pathIds os := rfl

@[simp] theorem pathIds_append (os qs : List Occurrence) :
    pathIds (os ++ qs) = pathIds os ++ pathIds qs := List.map_append

@[simp] theorem pathIds_map_under (i : Nat) (os : List Occurrence) :
    pathIds (os.map (.under i)) = pathIds os := List.map_map

@[simp] theorem pathIds_map_inside (c : Cluster) (os : List Occurrence) :
    pathIds (os.map (.inside c)) = (pathIds os).map (c.name ++ "/" ++ ·) := by
  rw [pathIds, pathIds, List.map_map, List.map_map]
  exact List.map_congr_left fun o _ => pathId_cons c (by simp)

theorem exists_pathId_of_mem {c : Cluster} {o : Occurrence} (h : o ∈ c.occurrences) :
    ∃ t, Tail t ∧ (pathId o.chain).toList = c.name.toList ++ t := by
  obtain ⟨chain, -, hc⟩ := (mem_occurrences c o).1 h
  rw [hc]
  exact exists_pathId c chain

theorem nodup_pathIds_of_each {cs : List Cluster}
    (each : ∀ c ∈ cs, (pathIds c.occurrences).Nodup) (apart : cs.Pairwise Apart) (i : Nat) :
    (pathIds (forestOccurrences i cs)).Nodup := by
  induction cs generalizing i with
  | nil => exact .nil
  | cons c cs ih =>
    rw [List.forall_mem_cons] at each
    rw [List.pairwise_cons] at apart
    rw [forestOccurrences, pathIds_append, pathIds_map_under, List.nodup_append]
    refine ⟨each.1, ih each.2 apart.2 (i + 1), ?_⟩
    intro x hx y hy same
    obtain ⟨o, ho, rfl⟩ := List.mem_map.1 hx
    obtain ⟨_, listed, rfl⟩ := List.mem_map.1 hy
    obtain ⟨j, d, hd, q, hq, rfl⟩ := mem_forestOccurrences.1 listed
    obtain ⟨s, tail, hs⟩ := exists_pathId_of_mem ho
    obtain ⟨t, tail', ht⟩ := exists_pathId_of_mem hq
    refine apart.1 d (List.mem_of_getElem? hd) s t tail tail' ?_
    rw [← hs, ← ht]
    exact congrArg String.toList same

theorem Every.nodup_pathIds {c : Cluster} (h : Every (fun d => d.clusters.Pairwise Apart) c) :
    (pathIds c.occurrences).Nodup := by
  induction h with
  | @intro c apart _ ih =>
    rw [occurrences_eq, pathIds_cons, pathIds_map_inside, List.nodup_cons]
    constructor
    · intro here
      obtain ⟨id, -, same⟩ := List.mem_map.1 here
      have chars := congrArg (List.length ∘ String.toList) same
      simp [Occurrence.chain, pathId] at chars
    · exact (nodup_pathIds_of_each ih apart 0).map fun _ _ => (String.append_right_inj _).1

end Cluster

namespace View

/-- The elements of a view are told apart by their ids: functions from calls and from clusters, and
clusters from each other. -/
structure Unambiguous (v : View) : Prop where
  calls : ∀ n ∈ v.nodes, ∀ k < v.edges.length, n.id ≠ .text ("edge-" ++ toString k)
  clusters : ∀ n ∈ v.nodes, ∀ o ∈ v.occurrences, n.id ≠ .text (Element.pathId o.chain)
  occurrences : (Cluster.pathIds v.occurrences).Nodup

/-- No id of a function starts like one of a call or a cluster, and the key of no cluster is
continued by the key of a sibling. -/
structure Plain (v : View) : Prop where
  ids : ∀ id ∈ v.ids, Text.startsWith id.inSentence "edge-" = false ∧
    Text.startsWith id.inSentence "cluster:" = false
  roots : ∀ c ∈ v.clusters, ∀ d ∈ v.clusters, ¬ c.Extends d
  siblings : ∀ o ∈ v.occurrences, ∀ c ∈ o.cluster.clusters, ∀ d ∈ o.cluster.clusters,
    ¬ c.Extends d

variable {v : View}

theorem startsWith_append (s t : String) : Text.startsWith (s ++ t) s = true := by
  rw [Text.startsWith, String.toList_append, List.isPrefixOf_iff_prefix]
  exact List.prefix_append _ _

theorem startsWith_pathId (o : Cluster.Occurrence) :
    Text.startsWith (Element.pathId o.chain) "cluster:" = true := by
  have some : o.chain ≠ [] := by simp [Cluster.Occurrence.chain]
  obtain ⟨c, chain, hc⟩ := List.exists_cons_of_ne_nil some
  obtain ⟨t, -, ht⟩ := Element.exists_pathId c chain
  rw [hc, Text.startsWith, ht, Cluster.toList_name, List.append_assoc, List.isPrefixOf_iff_prefix]
  exact List.prefix_append _ _

def clusterIds (v : View) : List Atom := (Cluster.pathIds v.occurrences).map Atom.text

def callIds (v : View) : List Atom :=
  (List.range v.edges.length).map fun k => .text ("edge-" ++ toString k)

theorem map_id_eq (v : View) :
    (Element.ofForest none v.clusters ++ v.nodes.map (Element.ofNode v) ++
      v.edges.zipIdx.map fun e => Element.ofEdge e.1 e.2).map Element.id =
        v.clusterIds ++ v.ids ++ v.callIds := by
  have places : v.edges.zipIdx.map Prod.snd = List.range v.edges.length := by
    rw [List.zipIdx_map_snd, List.range_eq_range']
  rw [callIds, ← places, List.map_append, List.map_append, Element.ofForest_none, List.map_map,
    List.map_map, List.map_map, List.map_map, clusterIds, Cluster.pathIds, List.map_map]
  rfl

theorem nodup_callIds (v : View) : v.callIds.Nodup := by
  refine List.nodup_range.map fun j k same => ?_
  have numbers : "edge-" ++ j.repr = "edge-" ++ k.repr := Atom.text.inj same
  exact Nat.repr_inj.1 ((String.append_right_inj _).1 numbers)

/-- With the ids of its functions told apart, the elements of a view are told apart exactly if the
view is unambiguous: ids of clusters and of calls never meet. -/
theorem nodup_ids_iff (nodup : v.ids.Nodup) :
    (v.clusterIds ++ v.ids ++ v.callIds).Nodup ↔ v.Unambiguous := by
  have text : Function.Injective Atom.text := fun s t same => Atom.text.inj same
  rw [List.nodup_append, List.nodup_append]
  constructor
  · rintro ⟨⟨clusters, -, nodes⟩, -, calls⟩
    refine ⟨fun n hn k hk same => ?_, fun n hn o ho same => ?_, clusters.of_map⟩
    · exact calls n.id (List.mem_append_right _ (List.mem_map_of_mem hn)) _
        (List.mem_map_of_mem (List.mem_range.2 hk)) same
    · exact nodes _ (List.mem_map_of_mem (List.mem_map_of_mem ho)) n.id (List.mem_map_of_mem hn)
        same.symm
  · intro h
    refine ⟨⟨h.occurrences.map text, nodup, ?_⟩, v.nodup_callIds, ?_⟩
    · intro x hx y hy same
      obtain ⟨_, hp, rfl⟩ := List.mem_map.1 hx
      obtain ⟨o, ho, rfl⟩ := List.mem_map.1 hp
      obtain ⟨n, hn, rfl⟩ := List.mem_map.1 hy
      exact h.clusters n hn o ho same.symm
    · intro x hx y hy same
      obtain ⟨k, hk, rfl⟩ := List.mem_map.1 hy
      rcases List.mem_append.1 hx with hx | hx
      · obtain ⟨_, hp, rfl⟩ := List.mem_map.1 hx
        obtain ⟨o, -, rfl⟩ := List.mem_map.1 hp
        have start := startsWith_pathId o
        rw [Atom.text.inj same] at start
        simp [Text.startsWith] at start
      · obtain ⟨n, hn, rfl⟩ := List.mem_map.1 hx
        exact h.calls n hn k (List.mem_range.1 hk) same

end View

namespace Cluster

theorem Every.children {P : Cluster → Prop} {c : Cluster} (h : Every P c) :
    Every (fun p => ∀ d ∈ p.clusters, P d) c := by
  induction h with
  | intro _ inside ih => exact .intro (fun d hd => (inside d hd).here) ih

theorem pairwise_apart {cs : List Cluster}
    (named : ∀ c ∈ cs, ':' ∉ c.kind.toList ∧ c.key.isText)
    (ordered : cs.Pairwise fun c d => c.before d = true)
    (plain : ∀ c ∈ cs, ∀ d ∈ cs, ¬ c.Extends d) : cs.Pairwise Apart := by
  refine ordered.imp_of_mem fun {c d} hc hd before => ?_
  obtain ⟨colon, text⟩ := named c hc
  obtain ⟨colon', text'⟩ := named d hd
  refine apart_of_plain colon colon' (fun kind key => ?_) (plain c hc d hd) (plain d hd c hc)
  obtain ⟨s, hs⟩ := Atom.isText_iff.1 text
  obtain ⟨t, ht⟩ := Atom.isText_iff.1 text'
  rw [hs, ht, Atom.inSentence_text, Atom.inSentence_text] at key
  rw [Cluster.before, kind, hs, ht, key] at before
  have irrefl := Atom.before_irrefl (.text t)
  simp [irrefl] at before

end Cluster

namespace View

variable {v : View}

theorem Plain.unambiguous (plain : v.Plain) (arranged : v.Arranged)
    (named : ∀ c ∈ v.clusters, Cluster.Every (fun d => ':' ∉ d.kind.toList ∧ d.key.isText) c) :
    v.Unambiguous := by
  have ordered : ∀ c ∈ v.clusters,
      Cluster.Every (fun p => p.clusters.Pairwise fun d e => d.before e = true) c := by
    refine Cluster.forall_every_iff.2 fun o ho => arranged.siblings (o.cluster, o.outer.getLast?) ?_
    rw [clustersWithParents, Cluster.forestWithParents_none]
    exact List.mem_map_of_mem ho
  have siblings : ∀ c ∈ v.clusters, Cluster.Every
      (fun p => ∀ d ∈ p.clusters, ∀ e ∈ p.clusters, ¬ d.Extends e) c :=
    Cluster.forall_every_iff.2 plain.siblings
  have apart : ∀ c ∈ v.clusters, Cluster.Every (fun p => p.clusters.Pairwise Cluster.Apart) c := by
    intro c hc
    have parts := (named c hc).children.and ((ordered c hc).and (siblings c hc))
    exact parts.imp fun p h => Cluster.pairwise_apart h.1 h.2.1 h.2.2
  have roots := Cluster.pairwise_apart (fun c hc => (named c hc).here) arranged.roots plain.roots
  refine ⟨fun n hn k _ same => ?_, fun n hn o _ same => ?_, ?_⟩
  · have calls := (plain.ids n.id (List.mem_map_of_mem hn)).1
    rw [same, Atom.inSentence_text, startsWith_append] at calls
    cases calls
  · have clusters := (plain.ids n.id (List.mem_map_of_mem hn)).2
    rw [same, Atom.inSentence_text, startsWith_pathId o] at clusters
    cases clusters
  · exact Cluster.nodup_pathIds_of_each (fun c hc => (apart c hc).nodup_pathIds) roots 0

end View

namespace Document

theorem WellTyped.element_ids {d : Document} (hd : d.WellTyped) {a : Analysis}
    (h : d.load = .ok a) {s : Selection} {focus : Option Atom} {v : View}
    (hv : a.view s focus = .ok v) :
    ∃ elements, v.elements = .ok elements ∧
      elements.map Element.id = v.clusterIds ++ v.ids ++ v.callIds := by
  have ha := hd.wellFormed_of_load h
  have ht := hd.textual_of_load h
  have drawable := View.drawable_of_view ha ht (hd.program_of_load h) hv
  obtain ⟨-, rfl⟩ := (Analysis.view_eq_ok_iff ha ht s focus).1 hv
  refine ⟨_, View.elements_of_texts (fun n hn => ?_) fun e he => (drawable.edges e he).2.2,
    View.map_id_eq _⟩
  obtain ⟨f, hf, rfl⟩ := List.mem_map.1 hn
  exact Stages.isText_package ha ht s focus (CallGraph.mem_orderedFunctions.1 hf)

/-- The elements of a view of what is loaded have different ids exactly if the view is unambiguous,
which it is if it is plain. -/
theorem WellTyped.nodup_element_ids {d : Document} (hd : d.WellTyped) {a : Analysis}
    (h : d.load = .ok a) {s : Selection} {focus : Option Atom} {v : View}
    (hv : a.view s focus = .ok v) :
    ∃ elements, v.elements = .ok elements ∧
      ((elements.map Element.id).Nodup ↔ v.Unambiguous) ∧ (v.Plain → v.Unambiguous) := by
  have ha := hd.wellFormed_of_load h
  have ht := hd.textual_of_load h
  have arranged := Analysis.arranged_of_view ha ht hv
  have kinds := Analysis.kinds_of_view ha ht hv
  obtain ⟨elements, he, ids⟩ := hd.element_ids h hv
  refine ⟨elements, he, ids ▸ View.nodup_ids_iff arranged.nodup_ids, fun plain => ?_⟩
  have keys : ∀ c ∈ v.clusters, Cluster.Every (fun d => d.key.isText) c := by
    obtain ⟨-, rfl⟩ := (Analysis.view_eq_ok_iff ha ht s focus).1 hv
    have texts (f : Function) := Stages.isText_package ha ht s focus (f := f)
    exact fun c hc => (View.every_sorted_clustersOf
      (fun f hf => texts f (CallGraph.mem_orderedFunctions.1 hf)) c hc).imp fun _ h => h.key
  exact plain.unambiguous arranged fun c hc => (kinds c hc).and (keys c hc)

def calling (caller callee : String) : List (String × Json) :=
  [("packages", .array [.object [("path", .text "m"), ("name", .text "main")]]),
    ("functions", .array [
      .object [("id", .text caller), ("name", .text "main"), ("package", .text "m")],
      .object [("id", .text callee), ("package", .text "m")]]),
    ("edges", .array [.object [("caller", .text caller), ("callee", .text callee)]])]

theorem nodup_element_ids_calling :
    (ofFields (calling "f" "g")).WellTyped ∧
      ∃ a v elements, (ofFields (calling "f" "g")).load = .ok a ∧
        a.view { group := [.package] } none = .ok v ∧ v.ids = [.text "f", .text "g"] ∧
        v.Plain ∧ v.elements = .ok elements ∧ (elements.map Element.id).Nodup := by
  have typed : (ofFields (calling "f" "g")).WellTyped := by decide
  have parts : (ofFields (calling "f" "g")).load.toOption.map (fun a =>
      (a.view { group := [.package] } none).toOption.map fun v => (v.ids, v.clusters)) =
      some (some ([.text "f", .text "g"],
        [⟨"pkg", .text "m", .text "m", .text "m", [.text "f", .text "g"], [], false⟩])) := by
    cbv
  obtain ⟨a, ha, parts⟩ := exists_ok_of_map parts
  obtain ⟨v, hv, parts⟩ := exists_ok_of_map parts
  obtain ⟨ids, clusters⟩ := Prod.mk.inj parts
  have plain : v.Plain := by
    constructor
    · rw [ids]
      decide
    · rw [clusters]
      decide
    · rw [View.occurrences, clusters]
      decide
  obtain ⟨elements, he, distinct, plainly⟩ := typed.nodup_element_ids ha hv
  exact ⟨typed, a, v, elements, ha, hv, ids, plain, he, distinct.2 (plainly plain)⟩

/-- A function is called like the cluster it stands in, and the other one like the call. -/
theorem element_ids_not_nodup :
    (ofFields (calling "cluster:pkg:m" "edge-0")).WellTyped ∧
      (∃ a v elements, (ofFields (calling "cluster:pkg:m" "edge-0")).load = .ok a ∧
        a.view { group := [.package] } none = .ok v ∧ v.elements = .ok elements ∧
        elements.map Element.id = [.text "cluster:pkg:m", .text "cluster:pkg:m", .text "edge-0",
          .text "edge-0"]) ∧
      ¬ ∀ (d : Document) (a : Analysis) (s : Selection) (focus : Option Atom) (v : View)
        (elements : List Element), d.load = .ok a → a.view s focus = .ok v →
          v.elements = .ok elements → (elements.map Element.id).Nodup := by
  have typed : (ofFields (calling "cluster:pkg:m" "edge-0")).WellTyped := by decide
  have parts : (ofFields (calling "cluster:pkg:m" "edge-0")).load.toOption.map (fun a =>
      (a.view { group := [.package] } none).toOption.map fun v =>
        (v.clusterIds, v.ids, v.edges.length)) =
      some (some ([.text "cluster:pkg:m"], [.text "cluster:pkg:m", .text "edge-0"], 1)) := by cbv
  obtain ⟨a, ha, parts⟩ := exists_ok_of_map parts
  obtain ⟨v, hv, parts⟩ := exists_ok_of_map parts
  simp only [Prod.mk.injEq] at parts
  obtain ⟨clusters, functions, edges⟩ := parts
  have calls : v.callIds = [.text "edge-0"] := by
    rw [View.callIds, edges]
    decide
  obtain ⟨elements, he, ids⟩ := typed.element_ids ha hv
  rw [clusters, functions, calls] at ids
  refine ⟨typed, ⟨a, v, elements, ha, hv, he, ids⟩, fun distinct => ?_⟩
  have nodup := distinct _ a _ none v elements ha hv he
  rw [ids] at nodup
  revert nodup
  decide

end Document

end CallAtlas
