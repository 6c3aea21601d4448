import CallAtlas.Proofs.Parts

set_option autoImplicit false

/-!
# Focus

A view with a focus is the part of the view without one that stands around a package: the functions
that a call path connects with a function of the package, and all edges between them. Whatever
stands on such a path is connected by the rest of it, so the path itself is in that part.
-/

namespace CallAtlas

theorem reflTransGen_within {α : Type} {r : α → α → Prop} {p : α → Prop} {u v : α}
    (h : Relation.ReflTransGen r u v)
    (on : ∀ x, Relation.ReflTransGen r u x → Relation.ReflTransGen r x v → p x) :
    Relation.ReflTransGen (fun x y => r x y ∧ p x ∧ p y) u v := by
  induction h with
  | refl => exact .refl
  | tail front last ih =>
    have before := ih fun x hx rest => on x hx (rest.tail last)
    exact before.tail ⟨last, on _ front (.single last), on _ (front.tail last) .refl⟩

namespace View

def Calls (v : View) (i j : Atom) : Prop := ∃ e ∈ v.edges, e.caller = i ∧ e.callee = j

/-- A call path leads from the function to one of the package, or from such a one to it. -/
def Touches (v : View) (path id : Atom) : Prop :=
  ∃ m ∈ v.nodes, m.package.equals path = true ∧
    (Relation.ReflTransGen v.Calls id m.id ∨ Relation.ReflTransGen v.Calls m.id id)

/-- The view `w` is what stands around a package in the view `v`. -/
structure Around (w v : View) (path : Atom) : Prop where
  ids : ∀ id, id ∈ w.ids ↔ id ∈ v.ids ∧ v.Touches path id
  nodes : w.nodes = (v.nodes.filter fun n => n.id ∈ w.ids).map fun n =>
    { n with focused := n.package.equals path }
  edges : w.edges = v.between w.ids

theorem calls_of_between {v w : View} (h : w.edges = v.between w.ids) {i j : Atom} :
    w.Calls i j ↔ v.Calls i j ∧ i ∈ w.ids ∧ j ∈ w.ids := by
  simp only [Calls, h, between, List.mem_filter, Bool.and_eq_true, decide_eq_true_eq]
  constructor
  · rintro ⟨e, ⟨he, hi, hj⟩, rfl, rfl⟩
    exact ⟨⟨e, he, rfl, rfl⟩, hi, hj⟩
  · rintro ⟨⟨e, he, rfl, rfl⟩, hi, hj⟩
    exact ⟨e, ⟨he, hi, hj⟩, rfl, rfl⟩

theorem mem_ids_of_node {v : View} {n : ViewNode} (h : n ∈ v.nodes) : n.id ∈ v.ids :=
  List.mem_map_of_mem h

section Closed

variable {v : View} (closed : ∀ e ∈ v.edges, e.caller ∈ v.ids ∧ e.callee ∈ v.ids)

include closed

theorem mem_ids_of_path_to {i j : Atom} (h : Relation.ReflTransGen v.Calls i j) (hj : j ∈ v.ids) :
    i ∈ v.ids := by
  rcases h.cases_head with rfl | ⟨k, ⟨e, he, rfl, -⟩, -⟩
  · exact hj
  · exact (closed e he).1

theorem mem_ids_of_path_from {i j : Atom} (h : Relation.ReflTransGen v.Calls i j)
    (hi : i ∈ v.ids) : j ∈ v.ids := by
  rcases h.cases_tail with rfl | ⟨k, -, ⟨e, he, -, rfl⟩⟩
  · exact hi
  · exact (closed e he).2

/-- The paths that connect a function with the package do so within what stands around it. -/
theorem Around.touches {w : View} {path : Atom} (h : w.Around v path) {id : Atom}
    (hid : id ∈ w.ids) : w.Touches path id := by
  obtain ⟨-, m, hm, hp, connected⟩ := (h.ids id).1 hid
  have calls : w.Calls = fun i j => v.Calls i j ∧ i ∈ w.ids ∧ j ∈ w.ids :=
    funext fun i => funext fun j => propext (calls_of_between h.edges)
  have known : m.id ∈ v.ids := mem_ids_of_node hm
  have member : m.id ∈ w.ids := (h.ids _).2 ⟨known, m, hm, hp, .inl .refl⟩
  refine ⟨{ m with focused := m.package.equals path }, ?_, hp, ?_⟩
  · rw [h.nodes]
    exact List.mem_map_of_mem (List.mem_filter.2 ⟨hm, decide_eq_true member⟩)
  · rw [calls]
    refine connected.imp (fun up => ?_) fun down => ?_
    · refine reflTransGen_within up fun x _ rest => (h.ids x).2 ?_
      exact ⟨mem_ids_of_path_to closed rest known, m, hm, hp, .inl rest⟩
    · refine reflTransGen_within down fun x front _ => (h.ids x).2 ?_
      exact ⟨mem_ids_of_path_from closed front known, m, hm, hp, .inr front⟩

end Closed

variable {a : Analysis} {group : List GroupKey} {focus : Option Atom} {g h : CallGraph}

theorem calls_ofGraph (texts : ∀ e ∈ g.edges, e.callee.isText) {i j : Atom} :
    (ofGraph a group focus [] g).Calls i j ↔ (i, j) ∈ g.edges.map Edge.ends := by
  change (∃ e ∈ g.orderedEdges.map (edgeOf []), e.caller = i ∧ e.callee = j) ↔ _
  simp only [List.mem_map, exists_exists_and_eq_and, CallGraph.mem_orderedEdges, Edge.ends,
    Prod.mk.injEq]
  refine exists_congr fun e => and_congr_right fun he => ?_
  rw [edgeOf_of_isText (texts e he)]

theorem touches_ofGraph {o : Outline} (fits : g.Fits o) (texts : ∀ e ∈ g.edges, e.callee.isText)
    {path id : Atom} :
    (ofGraph a group focus [] g).Touches path id ↔
      ∃ m, o.has m ∧ m.package.equals path = true ∧
        (Relation.ReflTransGen o.calls id m.id ∨ Relation.ReflTransGen o.calls m.id id) := by
  have calls : (ofGraph a group focus [] g).Calls = o.calls :=
    funext fun i => funext fun j => propext ((calls_ofGraph texts).trans (fits.calls i j))
  rw [Touches, calls]
  change (∃ m ∈ g.orderedFunctions.map (nodeOf a group focus []), _) ↔ _
  simp only [List.mem_map, exists_exists_and_eq_and, CallGraph.mem_orderedFunctions,
    fits.functions]
  rfl

theorem nodes_ofGraph_eq_map (hg : g.ids.Nodup) (hh : h.ids.Nodup)
    (fewer : ∀ f ∈ g.functions, f ∈ h.functions) (path : Atom) :
    (ofGraph a group (some path) [] g).nodes =
      ((ofGraph a group none [] h).nodes.filter fun n =>
        n.id ∈ (ofGraph a group (some path) [] g).ids).map fun n =>
          { n with focused := n.package.equals path } := by
  change g.orderedFunctions.map _ =
    ((h.orderedFunctions.map (nodeOf a group none [])).filter _).map _
  rw [CallGraph.orderedFunctions_eq_filter hg hh fewer, List.filter_map, List.map_map]
  refine congrArg _ (List.filter_congr fun f _ => ?_)
  rw [Function.comp_apply, Bool.eq_iff_iff]
  simp only [decide_eq_true_eq, mem_ids_ofGraph]
  rfl

end View

namespace Outline

variable {o : Outline} {path id : Atom}

theorem names_around :
    (o.around path).names id ↔ o.names id ∧ ∃ m, o.has m ∧ m.package.equals path = true ∧
      (Relation.ReflTransGen o.calls id m.id ∨ Relation.ReflTransGen o.calls m.id id) := by
  constructor
  · rintro ⟨f, ⟨hf, connected⟩, rfl⟩
    exact ⟨⟨f, hf, rfl⟩, connected⟩
  · rintro ⟨⟨f, hf, rfl⟩, connected⟩
    exact ⟨f, ⟨hf, connected⟩, rfl⟩

theorem exists_names_around :
    (∃ id, (o.around path).names id) ↔ ∃ m, o.has m ∧ m.package.equals path = true := by
  constructor
  · rintro ⟨id, hid⟩
    obtain ⟨-, m, hm, hp, -⟩ := names_around.1 hid
    exact ⟨m, hm, hp⟩
  · rintro ⟨m, hm, hp⟩
    exact ⟨m.id, names_around.2 ⟨⟨m, hm, rfl⟩, m, hm, hp, .inl .refl⟩⟩

end Outline

namespace Analysis

variable {a : Analysis} (ha : a.WellFormed) (ht : a.Textual) (s : Selection) (path : Atom)

include ha ht

theorem around_of_view {w : View} (hw : a.view s (some path) = .ok w) :
    ∃ v, a.view s none = .ok v ∧ w.Around v path := by
  obtain ⟨⟨id, names⟩, rfl⟩ := (view_eq_ok_iff ha ht s (some path)).1 hw
  have all := Stages.fits_shown ha s none
  have shown := Stages.fits_shown ha s (some path)
  have fewer (f : Function) (hf : f ∈ (Stages.run a s (some path)).shown.functions) :
      f ∈ (Stages.run a s none).shown.functions :=
    (all.functions f).2 ((shown.functions f).1 hf).1
  have wellFormed := Stages.wellFormed_shown ha s none
  have wellFormed' := Stages.wellFormed_shown ha s (some path)
  have texts (e : Edge) (he : e ∈ (Stages.run a s none).shown.edges) : e.callee.isText :=
    (Stages.isText_ends ha ht s none he).2
  refine ⟨_, (view_eq_ok_iff ha ht s none).2 ⟨⟨id, (Outline.names_around.1 names).1⟩, rfl⟩, ?_⟩
  exact {
    ids := fun id => by
      rw [View.mem_ids_ofGraph, View.mem_ids_ofGraph, View.touches_ofGraph all texts,
        ← shown.names, ← all.names]
      exact Outline.names_around
    nodes := View.nodes_ofGraph_eq_map wellFormed'.nodup_ids wellFormed.nodup_ids fewer path
    edges := View.edges_ofGraph_eq_between wellFormed' wellFormed
      (Stages.induced_of_functions ha rfl rfl fewer) texts }

theorem view_eq_error_iff {focus : Option Atom} {e : ViewError} :
    a.view s focus = .error e ↔ (Stages.run a s focus).emptiness focus = some e := by
  rw [view_eq ha ht]
  cases (Stages.run a s focus).emptiness focus with
  | none => simp
  | some e => simp

theorem view_around_eq_error_iff {e : ViewError} :
    a.view s (some path) = .error e ↔
      e = .focusEmptied path ∧ ∀ m, (s.passing a).has m → m.package.equals path = false := by
  have filtered := Stages.fits_filtered ha s (some path)
  rw [view_eq_error_iff ha ht]
  by_cases left : ∃ m, (s.passing a).has m ∧ m.package.equals path = true
  · have ends : (Stages.run a s (some path)).emptiness (some path) = none :=
      (emptiness_eq_none_iff ha s (some path)).2 (Outline.exists_names_around.2 left)
    obtain ⟨m, hm, hp⟩ := left
    rw [ends]
    constructor
    · exact fun h => nomatch h
    · exact fun h => absurd (h.2 m hm) (by simp [hp])
  · have members : ((Stages.run a s (some path)).filtered.members path).isEmpty = true := by
      rw [List.isEmpty_iff, List.eq_nil_iff_forall_not_mem]
      intro id hid
      obtain ⟨m, hm, hp, -⟩ := filtered.mem_members.1 hid
      exact left ⟨m, hm, hp⟩
    rw [Stages.emptiness, if_pos members]
    constructor
    · rintro h
      exact ⟨(Option.some.inj h).symm, fun m hm => Bool.eq_false_iff.2 fun hp => left ⟨m, hm, hp⟩⟩
    · rintro ⟨rfl, -⟩
      rfl

theorem no_member_iff :
    (∀ m, (s.passing a).has m → m.package.equals path = false) ↔
      (∃ e, a.view s none = .error e) ∨
        ∃ v, a.view s none = .ok v ∧ ∀ n ∈ v.nodes, n.package.equals path = false := by
  have all := Stages.fits_shown ha s none
  cases unfocused : a.view s none with
  | error e =>
    refine iff_of_true (fun m hm => ?_) (.inl ⟨e, rfl⟩)
    have ok := (view_eq_ok_iff ha ht s none).2 ⟨⟨m.id, m, hm, rfl⟩, rfl⟩
    rw [unfocused] at ok
    cases ok
  | ok v =>
    obtain ⟨-, rfl⟩ := (view_eq_ok_iff ha ht s none).1 unfocused
    have nodes : (∀ n ∈ (View.ofGraph a s.group none [] (Stages.run a s none).shown).nodes,
        n.package.equals path = false) ↔
          ∀ m, (s.passing a).has m → m.package.equals path = false := by
      change (∀ n ∈ (Stages.run a s none).shown.orderedFunctions.map _, _) ↔ _
      simp only [List.forall_mem_map, CallGraph.mem_orderedFunctions, all.functions]
      rfl
    rw [← nodes]
    constructor
    · exact fun h => .inr ⟨_, rfl, h⟩
    · rintro (⟨e, h⟩ | ⟨v, h, hv⟩)
      · cases h
      · cases h
        exact hv

/-- What a view with a focus is to the view without one, and when there is none: if there is none
without the focus either, or that one has no function of the package. -/
theorem view_around :
    (∀ w, a.view s (some path) = .ok w →
      ∃ v, a.view s none = .ok v ∧ w.Around v path ∧ ∀ id ∈ w.ids, w.Touches path id) ∧
    ∀ e, a.view s (some path) = .error e ↔
      e = .focusEmptied path ∧
        ((∃ e', a.view s none = .error e') ∨
          ∃ v, a.view s none = .ok v ∧ ∀ n ∈ v.nodes, n.package.equals path = false) := by
  constructor
  · intro w hw
    obtain ⟨v, hv, around⟩ := around_of_view ha ht s path hw
    have ends := (arranged_of_view ha ht hv).ends
    exact ⟨v, hv, around, fun id => around.touches ends⟩
  · intro e
    rw [view_around_eq_error_iff ha ht, no_member_iff ha ht]

omit ha ht

theorem nodes_relay :
    ∃ v, relay.view oneLevel none = .ok v ∧ v.nodes.map (fun n => (n.id, n.package)) =
      [(.text "app.main", .text "app"), (.text "lib.run", .text "lib")] := by
  have nodes : (relay.view oneLevel none).toOption.map
      (fun v => v.nodes.map fun n => (n.id, n.package)) =
      some [(.text "app.main", .text "app"), (.text "lib.run", .text "lib")] := by cbv
  exact exists_ok_of_map nodes

theorem view_around_relay :
    relay.WellFormed ∧ relay.Textual ∧
      (∃ w v, relay.view oneLevel (some (.text "lib")) = .ok w ∧ relay.view oneLevel none = .ok v ∧
        .text "lib.run" ∈ w.ids ∧ w.Around v (.text "lib") ∧
        ∀ id ∈ w.ids, w.Touches (.text "lib") id) ∧
      relay.view oneLevel (some (.text "fmt")) = .error (.focusEmptied (.text "fmt")) := by
  refine ⟨wellFormed_relay, textual_relay, ?_⟩
  obtain ⟨v, hv, nodes⟩ := nodes_relay
  have around (path : Atom) := view_around wellFormed_relay textual_relay oneLevel path
  constructor
  · have run : (Atom.text "lib.run", Atom.text "lib") ∈ v.nodes.map fun n => (n.id, n.package) := by
      simp [nodes]
    obtain ⟨m, hm, same⟩ := List.mem_map.1 run
    obtain ⟨id, package⟩ := Prod.mk.inj same
    have member : m.package.equals (.text "lib") = true := by simp [package]
    cases hw : relay.view oneLevel (some (.text "lib")) with
    | error e =>
      obtain ⟨-, ⟨e', none⟩ | ⟨v', hv', others⟩⟩ := ((around (.text "lib")).2 e).1 hw
      · cases hv.symm.trans none
      · cases hv.symm.trans hv'
        cases member.symm.trans (others m hm)
    | ok w =>
      obtain ⟨v', hv', whole, touches⟩ := (around (.text "lib")).1 w hw
      cases hv.symm.trans hv'
      have known := View.mem_ids_of_node hm
      exact ⟨w, v, rfl, hv, id ▸ (whole.ids m.id).2 ⟨known, m, hm, member, .inl .refl⟩, whole,
        touches⟩
  · have others : ∀ p ∈ v.nodes.map (fun n => (n.id, n.package)),
        p.2.equals (.text "fmt") = false := by
      rw [nodes]
      simp
    exact ((around (.text "fmt")).2 _).2
      ⟨rfl, .inr ⟨v, hv, fun n hn => others _ (List.mem_map_of_mem hn)⟩⟩

end Analysis

end CallAtlas
