import CallAtlas.Proofs.Edges
import CallAtlas.Proofs.Forest
import Mathlib.Data.List.Permutation

set_option autoImplicit false

/-!
# Views of well formed analyses

Where ids, paths and sites are texts, only an empty outcome ends a run: `view_eq` names the two ways
it can be empty. A view then holds what the outline of its selection has, and its edges are those of
the last stage.
-/

namespace CallAtlas

theorem exists_ok_of_map {ε α β : Type} {x : Except ε α} {part : α → β} {y : β}
    (h : x.toOption.map part = some y) : ∃ z, x = .ok z ∧ part z = y := by
  cases x with
  | error e => cases h
  | ok z => exact ⟨z, rfl, Option.some.inj h⟩

namespace Step

theorem ending?_append (xs ys : List Step) :
    ending? (xs ++ ys) = (ending? xs).or (ending? ys) := by
  rw [ending?, List.findSome?_append]
  rfl

theorem ending?_demand (b : Bool) (e : ViewError) :
    ending? (demand b e) = if b then none else some e := by
  cases b <;> rfl

theorem ending?_reportIf (b : Bool) (e : Event) : ending? (reportIf b e) = none := by
  cases b <;> rfl

end Step

namespace Analysis

variable {a : Analysis}

theorem mem_ids_of_runs (ha : a.WellFormed) {id : Atom} (h : a.Runs id) : id ∈ a.ids := by
  obtain ⟨u, hu, hr⟩ := h
  induction hr with
  | refl => exact ha.start_mem u hu
  | tail _ hc _ =>
    obtain ⟨c, hc, -, rfl⟩ := hc
    exact ha.callee_mem c hc

theorem isText_of_mem_ids (ht : a.Textual) {id : Atom} (h : id ∈ a.ids) : id.isText := by
  obtain ⟨f, hf, rfl⟩ := List.mem_map.1 h
  exact ht.ids f hf

theorem forms_of_texts (ha : a.WellFormed) (ht : a.Textual) : a.forms = [] :=
  forms_eq_nil fun _ h => isText_of_mem_ids ht (mem_ids_of_runs ha ((mem_reachable ha).1 h))

theorem sitesAreSingle_of_texts (ht : a.Textual) : Stages.sitesAreSingle a = true := by
  rw [Stages.sitesAreSingle, List.all_eq_true]
  intro c hc
  obtain ⟨s, hs⟩ := Json.isText_iff.1 (ht.sites c (List.mem_filter.1 hc).1)
  rw [hs]
  rfl

end Analysis

namespace Function

def typeKey (package : Atom) (recv : Json) : String :=
  package.inSentence ++ "." ++ receiverType recv.inSentence

theorem cases_clusterPath {f : Function} {group : List GroupKey} {focus : Option Atom}
    {d : Cluster} (hd : d ∈ f.clusterPath group focus) :
    d = ⟨"pkg", f.package, f.package, f.package, [], [], f.isIn focus⟩ ∨
      ∃ recv, f.recv = some recv ∧
        d = ⟨"type", .text (typeKey f.package recv), .text (receiverType recv.inSentence),
          f.package, [], [], f.isIn focus⟩ := by
  obtain ⟨k, -, hk⟩ := List.mem_filterMap.1 hd
  cases k with
  | package => exact .inl (Option.some.inj hk).symm
  | receiver =>
    obtain ⟨recv, hr, rfl⟩ := Option.map_eq_some_iff.1 hk
    exact .inr ⟨recv, hr, rfl⟩

theorem of_mem_clusterPath {f : Function} {group : List GroupKey} {focus : Option Atom}
    (hf : f.package.isText) {c : Cluster} (h : c ∈ f.clusterPath group focus) :
    c.key.isText ∧ c.label.isText ∧ c.members = [] ∧ c.clusters = [] := by
  rcases cases_clusterPath h with rfl | ⟨recv, -, rfl⟩
  · exact ⟨hf, hf, rfl, rfl⟩
  · exact ⟨rfl, rfl, rfl, rfl⟩

end Function

namespace View

theorem every_clustersOf {P : Cluster → Prop} {functions : List Function} {group : List GroupKey}
    {focus : Option Atom} {forms : Forms}
    (stable : Cluster.Local P (functions.map fun f => forms.of f.id))
    (asked : ∀ f ∈ functions, ∀ c ∈ f.clusterPath group focus, P c ∧ c.clusters = []) :
    ∀ c ∈ clustersOf group focus forms functions, Cluster.Every P c := by
  refine Cluster.every_sortedForest stable ?_
  refine List.foldlRecOn (motive := fun forest => ∀ c ∈ forest, Cluster.Every P c) _ _
    (fun _ hc => nomatch hc) ?_
  intro forest hforest f hf
  exact Cluster.every_place stable (List.mem_map_of_mem hf) (asked f hf) hforest

theorem inOrder_clustersOf {functions : List Function} (hf : ∀ f ∈ functions, f.package.isText)
    (group : List GroupKey) (focus : Option Atom) (forms : Forms) :
    Cluster.inOrder (clustersOf group focus forms functions) = true := by
  refine Cluster.inOrder_of_texts (every_clustersOf ⟨?_, ?_⟩ ?_)
  · exact fun _ _ h => h
  · exact fun _ _ _ h => h
  · intro f h c hc
    obtain ⟨key, -, -, clusters⟩ := Function.of_mem_clusterPath (hf f h) hc
    exact ⟨key, clusters⟩

end View

namespace Stages

variable {a : Analysis} (ha : a.WellFormed) (ht : a.Textual) (s : Selection) (focus : Option Atom)

include ha

theorem mem_functions_authored {f : Function} (h : f ∈ (run a s focus).authored.functions) :
    f ∈ a.functions := Selection.mem_of_authored (((fits_authored ha s focus).functions f).1 h)

theorem mem_functions_direct {f : Function} (h : f ∈ (run a s focus).direct.functions) :
    f ∈ a.functions := Selection.mem_of_direct (((fits_direct ha s focus).functions f).1 h)

theorem mem_functions_shallow {f : Function} (h : f ∈ (run a s focus).shallow.functions) :
    f ∈ a.functions := Selection.mem_of_shallow (((fits_shallow ha s focus).functions f).1 h)

theorem mem_functions_shown {f : Function} (h : f ∈ (run a s focus).shown.functions) :
    f ∈ a.functions := Selection.mem_of_shown (((fits_shown ha s focus).functions f).1 h)

include ht

theorem isText_package {f : Function} (h : f ∈ (run a s focus).shown.functions) :
    f.package.isText := ht.packages f (mem_functions_shown ha s focus h)

theorem isText_ends {e : Edge} (he : e ∈ (run a s focus).shown.edges) :
    e.caller.isText ∧ e.callee.isText := by
  have wellFormed := wellFormed_shown ha s focus
  have text {id : Atom} (hid : id ∈ (run a s focus).shown.ids) : id.isText := by
    obtain ⟨f, hf, rfl⟩ := CallGraph.mem_ids.1 hid
    exact ht.ids f (mem_functions_shown ha s focus hf)
  exact ⟨text (wellFormed.caller_mem e he), text (wellFormed.callee_mem e he)⟩

theorem forms_eq_nil : (run a s focus).forms = [] := by
  cases focus with
  | none => exact Analysis.forms_of_texts ha ht
  | some path =>
    change CallGraph.formsAround _ _ _ a.forms = []
    rw [Analysis.forms_of_texts ha ht]
    rfl

theorem ending?_wrapperSteps : Step.ending? ((run a s focus).wrapperSteps s) = none := by
  have texts : Atom.ofOneKind (run a s focus).authored.synthetics = true :=
    Atom.ofOneKind_map fun f hf =>
      ht.ids f (mem_functions_authored ha s focus (List.mem_filter.1 hf).1)
  unfold wrapperSteps
  dsimp only
  split
  · rw [Step.ending?_append, Step.ending?_demand, Step.ending?_reportIf, texts]
    rfl
  · rfl

theorem ending?_limitSteps : Step.ending? ((run a s focus).limitSteps a s) = none := by
  have texts : (run a s focus).direct.hasTextPaths = true := by
    rw [CallGraph.hasTextPaths, List.all_eq_true]
    exact fun f hf => ht.packages f (mem_functions_direct ha s focus hf)
  unfold limitSteps
  dsimp only
  split
  · rfl
  · rw [Step.ending?_append, Step.ending?_demand, Step.ending?_reportIf, texts]
    rfl

theorem ending?_orderSteps : Step.ending? ((run a s focus).orderSteps s focus) = none := by
  have mem {f : Function} (h : f ∈ (run a s focus).shown.functions) : f ∈ a.functions :=
    mem_functions_shown ha s focus h
  have ids : Atom.ofOneKind (run a s focus).shown.ids = true :=
    Atom.ofOneKind_map fun f hf => ht.ids f (mem hf)
  have sites : ((run a s focus).shown.edges.all fun e => Atom.ofOneKind e.sites) = true := by
    rw [List.all_eq_true]
    intro e he
    have direct := direct_of_shown ha s focus he
    exact Atom.ofOneKind_of_texts (neat_direct ha ht s focus direct).texts
  have receivers :
      (run a s focus).shown.functions.all (fun f => f.recv.all Json.isText) = true := by
    rw [List.all_eq_true]
    exact fun f hf => ht.receivers f (mem hf)
  have clusters : Cluster.inOrder (View.clustersOf s.group focus (run a s focus).forms
      (run a s focus).shown.orderedFunctions) = true := by
    refine View.inOrder_clustersOf (fun f hf => ?_) _ _ _
    exact isText_package ha ht s focus (CallGraph.mem_orderedFunctions.1 hf)
  simp only [orderSteps, Step.ending?_append, Step.ending?_demand, ids, sites, receivers, clusters]
  simp

/-- What ends a run that shows nothing. -/
def emptiness (r : Stages) (focus : Option Atom) : Option ViewError :=
  match focus with
  | some path =>
    if (r.filtered.members path).isEmpty then some (.focusEmptied path)
    else if r.shown.functions.isEmpty then some .nothingLeft else none
  | none => if r.shown.functions.isEmpty then some .nothingLeft else none

theorem ending?_filterSteps :
    Step.ending? ((run a s focus).filterSteps s focus) = emptiness (run a s focus) focus := by
  have texts : (run a s focus).shallow.hasTextPaths = true := by
    rw [CallGraph.hasTextPaths, List.all_eq_true]
    exact fun f hf => ht.packages f (mem_functions_shallow ha s focus hf)
  have report (e : Event) : Step.ending? [.report e] = none := rfl
  cases focus with
  | none =>
    simp only [filterSteps, Step.ending?_append, Step.ending?_demand, report, texts, emptiness]
    cases (run a s none).shown.functions.isEmpty <;> simp [Step.ending?]
  | some path =>
    simp only [filterSteps, Step.ending?_append, Step.ending?_demand, report, texts, emptiness]
    cases ((run a s (some path)).filtered.members path).isEmpty <;>
      cases (run a s (some path)).shown.functions.isEmpty <;> simp

theorem ending?_steps :
    Step.ending? ((run a s focus).steps a s focus) = emptiness (run a s focus) focus := by
  rw [steps]
  simp only [Step.ending?_append, Step.ending?_demand, Analysis.sitesAreSingle_of_texts ht,
    ending?_wrapperSteps ha ht s focus, ending?_limitSteps ha ht s focus,
    ending?_filterSteps ha ht s focus, ending?_orderSteps ha ht s focus, if_true, Option.none_or,
    Option.or_none]

end Stages

namespace Analysis

variable {a : Analysis} (ha : a.WellFormed) (ht : a.Textual) (s : Selection) (focus : Option Atom)

include ha ht

theorem view_eq :
    a.view s focus =
      match (Stages.run a s focus).emptiness focus with
      | some e => .error e
      | none => .ok (View.ofGraph a s.group focus [] (Stages.run a s focus).shown) := by
  have ending := Stages.ending?_steps ha ht s focus
  cases h : (Stages.run a s focus).emptiness focus with
  | none => simp only [view, ending, h, Stages.forms_eq_nil ha ht s focus]
  | some e => simp only [view, ending, h]

omit ht in
/-- A run shows something if its outline has something: whoever stands around a focus stands around a
function that is left in it. -/
theorem emptiness_eq_none_iff :
    (Stages.run a s focus).emptiness focus = none ↔ ∃ id, (s.shown a focus).names id := by
  have shown := Stages.fits_shown ha s focus
  have filled : (Stages.run a s focus).shown.functions.isEmpty = false ↔
      ∃ id, (s.shown a focus).names id := by
    rw [List.isEmpty_eq_false_iff_exists_mem]
    constructor
    · rintro ⟨f, hf⟩
      exact ⟨f.id, f, (shown.functions f).1 hf, rfl⟩
    · rintro ⟨id, f, hf, -⟩
      exact ⟨f, (shown.functions f).2 hf⟩
  rw [← filled]
  cases focus with
  | none =>
    change (if (Stages.run a s none).shown.functions.isEmpty then some ViewError.nothingLeft
      else none) = none ↔ _
    cases (Stages.run a s none).shown.functions.isEmpty <;> simp
  | some path =>
    have members : (Stages.run a s (some path)).shown.functions.isEmpty = false →
        ((Stages.run a s (some path)).filtered.members path).isEmpty = false := by
      intro h
      obtain ⟨id, f, ⟨-, m, hm, hp, -⟩, -⟩ := filled.1 h
      rw [List.isEmpty_eq_false_iff_exists_mem]
      have filtered := Stages.fits_filtered ha s (some path)
      exact ⟨m.id, filtered.mem_members.2 ⟨m, hm, hp, rfl⟩⟩
    change (if ((Stages.run a s (some path)).filtered.members path).isEmpty then
        some (ViewError.focusEmptied path)
      else if (Stages.run a s (some path)).shown.functions.isEmpty then some ViewError.nothingLeft
      else none) = none ↔ _
    cases hs : (Stages.run a s (some path)).shown.functions.isEmpty with
    | false => simp [members hs]
    | true => cases ((Stages.run a s (some path)).filtered.members path).isEmpty <;> simp

theorem view_eq_ok_iff {v : View} :
    a.view s focus = .ok v ↔
      (∃ id, (s.shown a focus).names id) ∧
        View.ofGraph a s.group focus [] (Stages.run a s focus).shown = v := by
  rw [view_eq ha ht, ← emptiness_eq_none_iff ha s focus]
  cases (Stages.run a s focus).emptiness focus with
  | none => simp
  | some e => simp

end Analysis

namespace View

variable {a : Analysis} {group : List GroupKey} {focus : Option Atom} {g : CallGraph}

theorem ids_ofGraph :
    (ofGraph a group focus [] g).ids = g.orderedFunctions.map Function.id := by
  change (g.orderedFunctions.map (nodeOf a group focus [])).map ViewNode.id = _
  rw [List.map_map]
  rfl

theorem mem_ids_ofGraph {id : Atom} : id ∈ (ofGraph a group focus [] g).ids ↔ id ∈ g.ids := by
  rw [ids_ofGraph, CallGraph.mem_ids, List.mem_map]
  simp only [CallGraph.mem_orderedFunctions]

theorem edgeOf_of_isText {e : Edge} (h : e.callee.isText) :
    edgeOf [] e = ⟨e.caller, e.callee, e.sites, e.dynamic, e.elided⟩ := by
  rw [edgeOf, Edge.calleeAsMet, Atom.shownAs_of_isText h]
  rfl

theorem filter_ends {es : List Edge} (nodup : (es.map Edge.ends).Nodup) {e : Edge} (he : e ∈ es) :
    es.filter (fun d => d.ends = e.ends) = [e] := by
  induction es with
  | nil => cases he
  | cons d ds ih =>
    rw [List.map_cons, List.nodup_cons] at nodup
    rcases List.mem_cons.1 he with rfl | he
    · have rest : ds.filter (fun d => d.ends = e.ends) = [] := by
        rw [List.filter_eq_nil_iff]
        intro d hd hends
        exact nodup.1 (List.mem_map.2 ⟨d, hd, of_decide_eq_true hends⟩)
      rw [List.filter_cons_of_pos (by simp), rest]
    · have other : d.ends ≠ e.ends := fun h => nodup.1 (List.mem_map.2 ⟨e, he, h.symm⟩)
      rw [List.filter_cons_of_neg (by simpa using other), ih nodup.2 he]

theorem edges_between (texts : ∀ e ∈ g.edges, e.callee.isText) (u w : Atom) :
    (ofGraph a group focus [] g).edges.filter (fun e => e.caller = u && e.callee = w) =
      (g.orderedEdges.filter fun e => e.ends = (u, w)).map (edgeOf []) := by
  change (g.orderedEdges.map (edgeOf [])).filter _ = _
  rw [List.filter_map]
  refine congrArg _ (List.filter_congr fun e he => ?_)
  have text := texts e (CallGraph.mem_orderedEdges.1 he)
  rw [Function.comp_apply, edgeOf_of_isText text, Bool.eq_iff_iff, Bool.and_eq_true]
  simp only [decide_eq_true_eq, Edge.ends, Prod.mk.injEq]

end View

namespace Analysis

variable {a : Analysis}

theorem view_eq_ok_iff_exists_node (ha : a.WellFormed) (ht : a.Textual) (s : Selection)
    (focus : Option Atom) {v : View} :
    a.view s focus = .ok v ↔
      View.ofGraph a s.group focus [] (Stages.run a s focus).shown = v ∧ ∃ n, n ∈ v.nodes := by
  rw [view_eq_ok_iff ha ht, and_comm]
  refine and_congr_right fun hv => ?_
  have named (id : Atom) : (s.shown a focus).names id ↔ id ∈ v.ids := by
    rw [(Stages.fits_shown ha s focus).names, ← hv, View.mem_ids_ofGraph]
  simp only [named, View.ids, List.mem_map]
  exact ⟨fun ⟨_, n, hn, _⟩ => ⟨n, hn⟩, fun ⟨n, hn⟩ => ⟨n.id, n, hn, rfl⟩⟩

/-- The ids of a view are those that the outline of its selection has, each once, and there is a view
if that has any. -/
theorem view_selects (ha : a.WellFormed) (ht : a.Textual) (s : Selection) (focus : Option Atom) :
    (∀ v, a.view s focus = .ok v →
      v.ids.Nodup ∧ ∀ id, id ∈ v.ids ↔ (s.shown a focus).names id) ∧
    ((∃ v, a.view s focus = .ok v) ↔ ∃ id, (s.shown a focus).names id) := by
  have shown := Stages.fits_shown ha s focus
  constructor
  · intro v hv
    obtain ⟨-, rfl⟩ := (view_eq_ok_iff ha ht s focus).1 hv
    constructor
    · rw [View.ids_ofGraph]
      have nodup := (Stages.wellFormed_shown ha s focus).nodup_ids
      exact ((CallGraph.orderedFunctions_perm _).map Function.id).nodup_iff.2 nodup
    · intro id
      rw [View.mem_ids_ofGraph, shown.names]
  · simp only [view_eq_ok_iff ha ht s focus, exists_and_left, exists_eq', and_true]

/-- A program that calls a function of a library directly and through a wrapper. -/
def relay : Analysis where
  packages := [
    { path := .text "app", name := .text "main" },
    { path := .text "lib", name := .text "lib" },
    { path := .text "fmt", name := .text "fmt", std := true }]
  functions := [
    { id := .text "app.main", name := .text "main", package := .text "app" },
    { id := .text "lib.run$bound", name := .text "run$bound", package := .text "lib"
      synthetic := some (.text "bound method") },
    { id := .text "lib.run", name := .text "run", package := .text "lib" },
    { id := .text "fmt.Print", name := .text "Print", package := .text "fmt", std := true }]
  calls := [
    { caller := .text "app.main", callee := .text "lib.run$bound", site := .text "7:2" },
    { caller := .text "app.main", callee := .text "lib.run", site := .text "5:2" },
    { caller := .text "lib.run$bound", callee := .text "lib.run" },
    { caller := .text "lib.run", callee := .text "fmt.Print", site := .text "9:4" }]
  entryPoints := [.text "app.main"]
  program := .text "app"

theorem wellFormed_relay : relay.WellFormed where
  nodup_ids := by decide
  caller_mem := by decide
  callee_mem := by decide
  start_mem := by decide

theorem textual_relay : relay.Textual where
  ids := by decide
  packages := by decide
  names := by decide
  receivers := by decide
  sites := by decide

/-- Wrappers and the standard library are hidden, and one level of the library is shown. -/
def oneLevel : Selection := { hideStd := true, hideWrappers := true, limit := ["lib"] }

theorem view_relay :
    ∃ v, relay.view oneLevel none = .ok v ∧ v.ids = [.text "app.main", .text "lib.run"] ∧
      v.edges.map ViewEdge.sites = [[.text "5:2", .text "7:2"]] := by
  have parts : (relay.view oneLevel none).toOption.map
      (fun v => (v.ids, v.edges.map ViewEdge.sites)) =
      some ([.text "app.main", .text "lib.run"], [[.text "5:2", .text "7:2"]]) := by cbv
  obtain ⟨v, hv, parts⟩ := exists_ok_of_map parts
  exact ⟨v, hv, Prod.mk.inj parts⟩

theorem view_selects_relay :
    relay.WellFormed ∧ relay.Textual ∧
      ∀ id, (oneLevel.shown relay none).names id ↔ id = .text "app.main" ∨ id = .text "lib.run" := by
  refine ⟨wellFormed_relay, textual_relay, fun id => ?_⟩
  obtain ⟨v, hv, ids, -⟩ := view_relay
  have exact := (view_selects wellFormed_relay textual_relay oneLevel none).1 v hv
  rw [← exact.2, ids, List.mem_pair]

/-- Between two functions of a view there is one edge if a call counts for it, and none otherwise. Its
sites are those of the calls that count, and it is elided if none of them is direct. No other edges
are in a view. -/
theorem view_edges (ha : a.WellFormed) (ht : a.Textual) {s : Selection} {focus : Option Atom}
    {v : View} (hv : a.view s focus = .ok v) :
    (∀ e ∈ v.edges, e.caller ∈ v.ids ∧ e.callee ∈ v.ids) ∧
    ∀ u ∈ v.ids, ∀ w ∈ v.ids,
      ((∃ c ∈ a.calls, s.Counts a u w c) →
        ∃ e, v.edges.filter (fun e => e.caller = u && e.callee = w) = [e] ∧
          e.sites.Pairwise (fun x y => x.before y = true) ∧
          (∀ x, x ∈ e.sites ↔
            ∃ c ∈ a.calls, s.Counts a u w c ∧ c.site = x.toJson ∧ x.isGiven = true) ∧
          (e.elided = true ↔ ¬ a.Calls u w)) ∧
      ((¬ ∃ c ∈ a.calls, s.Counts a u w c) →
        v.edges.filter (fun e => e.caller = u && e.callee = w) = []) := by
  obtain ⟨-, rfl⟩ := (view_eq_ok_iff ha ht s focus).1 hv
  have wellFormed := Stages.wellFormed_shown ha s focus
  have induced := Stages.induced_shown ha s focus
  have callee (e : Edge) (he : e ∈ (Stages.run a s focus).shown.edges) : e.callee.isText :=
    (Stages.isText_ends ha ht s focus he).2
  simp only [View.mem_ids_ofGraph, View.edges_between callee]
  constructor
  · intro e he
    obtain ⟨d, hd, rfl⟩ := List.mem_map.1 he
    have hd := CallGraph.mem_orderedEdges.1 hd
    rw [View.edgeOf_of_isText (callee d hd)]
    exact ⟨wellFormed.caller_mem d hd, wellFormed.callee_mem d hd⟩
  · intro u hu w hw
    have between := Stages.direct_edge_iff ha s focus (induced.ids u hu) (induced.ids w hw)
    constructor
    · intro counts
      obtain ⟨e, he, hends⟩ := List.mem_map.1 (between.2 counts)
      cases hends
      have shown := (induced.edges e).2 ⟨he, hu, hw⟩
      have ordered := (Stages.run a s focus).shown.orderedEdges_perm.map Edge.ends
      have nodup := ordered.nodup_iff.2 wellFormed.nodup_ends
      have single := View.filter_ends nodup (CallGraph.mem_orderedEdges.2 shown)
      refine ⟨View.edgeOf [] e, congrArg (List.map (View.edgeOf [])) single, ?_, ?_, ?_⟩
      · exact (Stages.neat_direct ha ht s focus he).ordered
      · intro x
        change x ∈ e.sites ↔ _
        rw [Stages.sites_direct ha ht s focus he]
        simp only [Site.mem_ofCall]
      · exact Stages.elided_direct ha ht s focus he
    · intro none
      rw [List.map_eq_nil_iff, List.filter_eq_nil_iff]
      intro e he hends
      have he := Stages.direct_of_shown ha s focus (CallGraph.mem_orderedEdges.1 he)
      exact none (between.1 (List.mem_map.2 ⟨e, he, of_decide_eq_true hends⟩))

theorem view_edges_relay :
    ∃ v, relay.view oneLevel none = .ok v ∧
      (∃ e, v.edges.filter (fun e =>
        e.caller = .text "app.main" && e.callee = .text "lib.run") = [e] ∧ e.elided = false) ∧
      ∀ x : Site, x = .text "5:2" ∨ x = .text "7:2" ↔
        ∃ c ∈ relay.calls, oneLevel.Counts relay (.text "app.main") (.text "lib.run") c ∧
          c.site = x.toJson ∧ x.isGiven = true := by
  obtain ⟨v, hv, ids, sites⟩ := view_relay
  have edges := (view_edges wellFormed_relay textual_relay hv).2 (.text "app.main") (by simp [ids])
    (.text "lib.run") (by simp [ids])
  have call : relay.Calls (.text "app.main") (.text "lib.run") := by
    unfold Calls
    decide
  obtain ⟨c, hc, hu, hw⟩ := call
  obtain ⟨e, he, -, hs, hl⟩ := edges.1 ⟨c, hc, hu, .inl hw⟩
  have mem : e ∈ v.edges := (List.mem_filter.1 (he ▸ List.mem_singleton_self e)).1
  have only : e.sites = [.text "5:2", .text "7:2"] := by
    simpa [sites] using List.mem_map_of_mem (f := ViewEdge.sites) mem
  have direct : e.elided = false := Bool.eq_false_iff.2 fun h => hl.1 h ⟨c, hc, hu, hw⟩
  refine ⟨v, hv, ⟨e, he, direct⟩, fun x => ?_⟩
  rw [← hs, only, List.mem_pair]

end Analysis

end CallAtlas
