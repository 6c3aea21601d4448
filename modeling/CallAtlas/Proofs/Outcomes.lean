import CallAtlas.Proofs.ClosedWorld
import CallAtlas.Proofs.Drawing
import CallAtlas.Proofs.Focus
import CallAtlas.Proofs.Requests
import CallAtlas.View.Digraph
import CallAtlas.View.Element

set_option autoImplicit false

/-!
# Outcomes of a request

A request for a view of a well typed document has one of four outcomes. The settings are looked at
first, then the focus, then whether anything is left to show; and what is shown can be written,
taken apart into elements and turned into a graph.
-/

namespace CallAtlas

namespace Atom.Table

variable {α : Type}

theorem isSome_find? {t : Table α} {a : Atom} :
    (t.find? a).isSome ↔ a.key ∈ t.map keyOf := by
  rw [find?, Option.isSome_map, Roster.find?_isSome]

theorem ofList_of_nodup {entries : List (Atom × α)} (h : (entries.map keyOf).Nodup) :
    ofList entries = entries := Roster.foldl_putWith_of_nodup h

end Atom.Table

theorem View.keys_eq_ids {α : Type} {v : View} (texts : ∀ n ∈ v.nodes, n.id.isText)
    (said : ViewNode → α) : (v.nodes.map fun n => (n.id, said n)).map Atom.Table.keyOf = v.ids := by
  rw [List.map_map, View.ids]
  exact List.map_congr_left fun n hn => Atom.key_of_isText (texts n hn)

namespace Digraph

theorem mention_of_known {nodes : Atom.Table (Option ViewNode)} {id : Atom}
    (known : id.key ∈ nodes.map Atom.Table.keyOf) : mention nodes id = nodes :=
  if_pos (Atom.Table.isSome_find?.2 known)

theorem nodesOf_of_arranged {v : View} (arranged : v.Arranged)
    (texts : ∀ n ∈ v.nodes, n.id.isText) :
    nodesOf v = v.nodes.map fun n => (n.id, some n) := by
  have keys := View.keys_eq_ids texts some
  have known {id : Atom} (hid : id ∈ v.ids) :
      id.key ∈ (v.nodes.map fun n => (n.id, some n)).map Atom.Table.keyOf := by
    obtain ⟨n, hn, rfl⟩ := List.mem_map.1 hid
    rw [keys, Atom.key_of_isText (texts n hn)]
    exact hid
  rw [nodesOf, Atom.Table.ofList_of_nodup (keys ▸ arranged.nodup_ids)]
  refine List.foldlRecOn (motive := fun nodes => nodes = v.nodes.map fun n => (n.id, some n))
    _ _ rfl ?_
  rintro nodes rfl e he
  rw [mention_of_known (known (arranged.ends e he).1),
    mention_of_known (known (arranged.ends e he).2)]

end Digraph

namespace Element

def ofNode (v : View) (n : ViewNode) : Element :=
  .function n (color (v.nodes.map ViewNode.package) n.package) (home? v n.id)

def ofEdge (e : ViewEdge) (place : Nat) : Element :=
  .call ("edge-" ++ toString place) e (", ".intercalate (e.sites.map fun x => x.text?.getD ""))

end Element

namespace View

/-- What is made of a view can be made of this one, and every node of the graph that is made of it
has attributes. -/
structure Presentable (v : View) : Prop where
  nonempty : v.nodes ≠ []
  text : ∃ text, Dot.write v = .ok text
  elements : ∃ elements, v.elements = .ok elements
  digraph : (Digraph.ofView v).nodes = v.nodes.map fun n => (n.id, some n)

variable {v : View}

theorem elements_of_texts (packages : ∀ n ∈ v.nodes, n.package.isText)
    (sites : ∀ e ∈ v.edges, ∀ x ∈ e.sites, x.isText) :
    v.elements = .ok (Element.ofForest none v.clusters ++ v.nodes.map (Element.ofNode v) ++
      v.edges.zipIdx.map fun e => Element.ofEdge e.1 e.2) := by
  have kinds : Atom.ofOneKind (v.nodes.map ViewNode.package) = true := Atom.ofOneKind_map packages
  have calls : v.edges.zipIdx.mapM (fun e => Element.ofEdge? e.1 e.2) =
      some (v.edges.zipIdx.map fun e => Element.ofEdge e.1 e.2) := by
    refine Dot.mapM_eq_pure fun e he => ?_
    rw [Element.ofEdge?, Dot.mapM_text? (sites e.1 (List.fst_mem_of_mem_zipIdx he))]
    rfl
  unfold elements
  dsimp only
  rw [kinds, calls]
  rfl

theorem exists_elements (packages : ∀ n ∈ v.nodes, n.package.isText)
    (sites : ∀ e ∈ v.edges, ∀ x ∈ e.sites, x.isText) :
    ∃ elements, v.elements = .ok elements := ⟨_, elements_of_texts packages sites⟩

theorem Arranged.presentable (arranged : v.Arranged) (drawable : Dot.Drawable v)
    (packages : ∀ n ∈ v.nodes, n.package.isText) : v.Presentable where
  nonempty := arranged.nonempty
  text := drawable.exists_write
  elements := exists_elements packages fun e he => (drawable.edges e he).2.2
  digraph := Digraph.nodesOf_of_arranged arranged fun n hn => (drawable.nodes n hn).1

end View

namespace CallGraph

variable {g : CallGraph}

theorem WellFormed.mem_ids_of_leads (h : g.WellFormed) {synthetic : List Atom} {u v : Atom}
    (leads : g.Leads synthetic u v) : v ∈ g.ids := by
  induction leads with
  | call hc _ =>
    obtain ⟨e, he, ends⟩ := List.mem_map.1 (mem_callees.1 hc)
    cases ends
    exact h.callee_mem e he
  | through _ _ _ ih => exact ih

end CallGraph

namespace Stages

/-- A run looks up nothing that is not there: what can run is in the analysis, edges start and end at
functions of their graph, and so do those that bridge wrappers. -/
structure Closed (a : Analysis) (r : Stages) : Prop where
  reachable : ∀ id ∈ r.reachable, id ∈ a.ids
  graphs : ∀ g ∈ [r.whole, r.authored, r.direct, r.shallow, r.filtered, r.shown], g.WellFormed
  wrappers : ∀ w ∈ r.authored.wrappers,
    w.id ∈ r.authored.ids ∧ ∀ id, w.target = some id → id ∈ r.authored.ids

theorem closed_run {a : Analysis} (ha : a.WellFormed) (s : Selection) (focus : Option Atom) :
    (run a s focus).Closed a where
  reachable _ hid := Analysis.mem_ids_of_runs ha ((Analysis.mem_reachable ha).1 hid)
  graphs := by
    simp only [List.forall_mem_cons, List.not_mem_nil, false_imp_iff, implies_true, and_true]
    exact ⟨Analysis.wellFormed_callGraph ha.nodup_ids, wellFormed_authored ha s focus,
      wellFormed_direct ha s focus, wellFormed_shallow ha s focus, wellFormed_filtered ha s focus,
      wellFormed_shown ha s focus⟩
  wrappers w hw := by
    obtain ⟨synthetic, found⟩ := CallGraph.mem_wrappers.1 hw
    obtain ⟨f, hf, id⟩ := List.mem_map.1 synthetic
    refine ⟨CallGraph.mem_ids.2 ⟨f, (List.mem_filter.1 hf).1, id⟩, fun target ht => ?_⟩
    exact (wellFormed_authored ha s focus).mem_ids_of_leads
      (((CallGraph.wrapper?_spec found).2.2 target).1 ht)

end Stages

namespace Analysis

variable {a : Analysis} (ha : a.WellFormed) (ht : a.Textual) (s : Selection) (focus : Option Atom)

include ha ht

theorem exists_view_iff :
    (∃ v, a.view s focus = .ok v) ↔ ∃ f, (s.shown a focus).has f := by
  simp only [view_eq_ok_iff ha ht, exists_and_left, exists_eq', and_true]
  exact ⟨fun ⟨_, f, hf, _⟩ => ⟨f, hf⟩, fun ⟨f, hf⟩ => ⟨f.id, f, hf, rfl⟩⟩

theorem ne_misfit_of_view {e : ViewError} (he : a.view s focus = .error e) (m : Misfit) :
    e ≠ .misfit m := by
  rw [view_eq_error_iff ha ht] at he
  rintro rfl
  unfold Stages.emptiness at he
  split at he
  · split at he
    · cases he
    · split at he <;> cases he
  · split at he <;> cases he

end Analysis

namespace Session

variable (s : Session) (o : Settings)

def Asks (selection : Selection) (focus : Option Package) : Prop :=
  o.select = .ok selection ∧ s.analysis.Focuses (Text.trim o.focus) focus

/-- The outcomes of a request, in the order in which they are decided. -/
structure Classified : Prop where
  settings : (∃ e, s.view o = .error (.settings e)) ↔ o.Invalid
  focus : (∃ e, s.view o = .error (.focus e)) ↔
    ¬ o.Invalid ∧ Text.trim o.focus ≠ "" ∧ ∀ p, ¬ s.analysis.Determines (Text.trim o.focus) p
  processing : (∃ e, s.view o = .error (.processing e)) ↔
    ∃ selection focus, s.Asks o selection focus ∧
      ∀ f, ¬ (selection.shown s.analysis (focus.map Package.path)).has f
  shown : (∃ v, s.view o = .ok v) ↔
    ∃ selection focus, s.Asks o selection focus ∧
      ∃ f, (selection.shown s.analysis (focus.map Package.path)).has f
  /-- No error is one that the request is not to blame for. -/
  foreseen : ∀ e, s.view o = .error e → e.misfit? = none
  closed : ∀ selection focus, (Stages.run s.analysis selection focus).Closed s.analysis
  presentable : ∀ v, s.view o = .ok v → v.Presentable

variable {s o}

theorem request_of_select {selection : Selection} (h : o.select = .ok selection) :
    s.request o = match s.analysis.focus? (Text.trim o.focus) with
      | .error e => .error (.focus e)
      | .ok focus => .ok (selection, focus) := by
  have focus := Settings.focus_of_select h
  cases found : s.analysis.focus? (Text.trim o.focus) <;> simp only [request, h, focus, found]

theorem request_eq_ok_iff (hc : s.analysis.Catalogued) {selection : Selection}
    {focus : Option Package} :
    s.request o = .ok (selection, focus) ↔ s.Asks o selection focus := by
  rw [Asks, ← Analysis.focus?_eq_ok_iff hc]
  cases valid : o.select with
  | error e => simp [request, valid]
  | ok selected =>
    rw [request_of_select valid]
    cases s.analysis.focus? (Text.trim o.focus) <;> simp

theorem request_cases (hc : s.analysis.Catalogued) :
    (o.Invalid ∧ ∃ e, s.request o = .error (.settings e)) ∨
    (¬ o.Invalid ∧
      (Text.trim o.focus ≠ "" ∧ ∀ p, ¬ s.analysis.Determines (Text.trim o.focus) p) ∧
      ∃ e, e ≠ .unordered ∧ s.request o = .error (.focus e)) ∨
    (¬ o.Invalid ∧ ∃ selection focus, s.Asks o selection focus) := by
  cases selected : o.select with
  | error e =>
    have invalid : o.Invalid := by
      by_contra valid
      obtain ⟨selection, hs⟩ := Settings.exists_select_iff.2 valid
      cases selected.symm.trans hs
    exact .inl ⟨invalid, e, by rw [request, selected]⟩
  | ok selection =>
    have valid : ¬ o.Invalid := Settings.exists_select_iff.1 ⟨selection, selected⟩
    have request := request_of_select (s := s) selected
    cases found : s.analysis.focus? (Text.trim o.focus) with
    | error e =>
      rw [found] at request
      have none (focus : Option Package) : ¬ s.analysis.Focuses (Text.trim o.focus) focus := by
        rw [← Analysis.focus?_eq_ok_iff hc, found]
        nofun
      refine .inr (.inl ⟨valid, ⟨fun empty => none Option.none empty, fun p determines => ?_⟩, e,
        ?_, request⟩)
      · exact none (some p) ⟨fun empty => none Option.none empty, determines⟩
      · rintro rfl
        exact Analysis.focus?_ne_unordered hc found
    | ok focus =>
      exact .inr (.inr ⟨valid, selection, focus, selected,
        (Analysis.focus?_eq_ok_iff hc).1 found⟩)

theorem Asks.unique (hc : s.analysis.Catalogued) {selection selection' : Selection}
    {focus focus' : Option Package} (h : s.Asks o selection focus)
    (h' : s.Asks o selection' focus') : selection' = selection ∧ focus' = focus := by
  have same := ((request_eq_ok_iff hc).2 h').symm.trans ((request_eq_ok_iff hc).2 h)
  exact Prod.mk.inj (Except.ok.inj same)

theorem Asks.valid {selection : Selection} {focus : Option Package}
    (h : s.Asks o selection focus) : ¬ o.Invalid :=
  Settings.exists_select_iff.1 ⟨selection, h.1⟩

theorem Asks.determined {selection : Selection} {focus : Option Package}
    (h : s.Asks o selection focus) :
    ¬ (Text.trim o.focus ≠ "" ∧ ∀ p, ¬ s.analysis.Determines (Text.trim o.focus) p) := by
  rintro ⟨given, none⟩
  cases focus with
  | none => exact given h.2
  | some p => exact none p h.2.2

variable (ha : s.analysis.WellFormed) (ht : s.analysis.Textual) (hc : s.analysis.Catalogued)

include ha ht hc

theorem view_cases :
    (o.Invalid ∧ ∃ e, s.view o = .error (.settings e)) ∨
    (¬ o.Invalid ∧
      (Text.trim o.focus ≠ "" ∧ ∀ p, ¬ s.analysis.Determines (Text.trim o.focus) p) ∧
      ∃ e, e ≠ .unordered ∧ s.view o = .error (.focus e)) ∨
    (¬ o.Invalid ∧ ∃ selection focus, s.Asks o selection focus ∧
      (((∀ f, ¬ (selection.shown s.analysis (focus.map Package.path)).has f) ∧
          ∃ e, (∀ m, e ≠ .misfit m) ∧ s.view o = .error (.processing e)) ∨
        ((∃ f, (selection.shown s.analysis (focus.map Package.path)).has f) ∧
          ∃ v, s.analysis.view selection (focus.map Package.path) = .ok v ∧ s.view o = .ok v))) := by
  obtain ⟨invalid, e, failed⟩ | ⟨valid, none, e, known, failed⟩ | ⟨valid, selection, focus, asks⟩ :=
    request_cases (o := o) hc
  · exact .inl ⟨invalid, e, by rw [view, failed]⟩
  · exact .inr (.inl ⟨valid, none, e, known, by rw [view, failed]⟩)
  · refine .inr (.inr ⟨valid, selection, focus, asks, ?_⟩)
    have exists_iff := Analysis.exists_view_iff ha ht selection (focus.map Package.path)
    rw [view, (request_eq_ok_iff hc).2 asks]
    cases made : s.analysis.view selection (focus.map Package.path) with
    | error e =>
      refine .inl ⟨fun f hf => ?_, e, Analysis.ne_misfit_of_view ha ht _ _ made, by simp only [made]⟩
      obtain ⟨v, hv⟩ := exists_iff.2 ⟨f, hf⟩
      cases made.symm.trans hv
    | ok v => exact .inr ⟨exists_iff.1 ⟨v, made⟩, v, rfl, by simp only [made]⟩

theorem settings_iff :
    (∃ e, s.view o = .error (.settings e)) ↔ o.Invalid := by
  obtain ⟨invalid, e, view⟩ | ⟨valid, -, e, -, view⟩ |
    ⟨valid, _, _, -, ⟨-, e, -, view⟩ | ⟨-, v, -, view⟩⟩ := view_cases ha ht hc (o := o)
  · exact iff_of_true ⟨e, view⟩ invalid
  · exact iff_of_false (by simp [view]) valid
  · exact iff_of_false (by simp [view]) valid
  · exact iff_of_false (by simp [view]) valid

theorem focus_iff :
    (∃ e, s.view o = .error (.focus e)) ↔
      ¬ o.Invalid ∧ Text.trim o.focus ≠ "" ∧
        ∀ p, ¬ s.analysis.Determines (Text.trim o.focus) p := by
  obtain ⟨invalid, e, view⟩ | ⟨valid, none, e, -, view⟩ |
    ⟨-, _, _, asks, ⟨-, e, -, view⟩ | ⟨-, v, -, view⟩⟩ := view_cases ha ht hc (o := o)
  · exact iff_of_false (by simp [view]) fun h => h.1 invalid
  · exact iff_of_true ⟨e, view⟩ ⟨valid, none⟩
  · exact iff_of_false (by simp [view]) fun h => asks.determined h.2
  · exact iff_of_false (by simp [view]) fun h => asks.determined h.2

theorem processing_iff :
    (∃ e, s.view o = .error (.processing e)) ↔
      ∃ selection focus, s.Asks o selection focus ∧
        ∀ f, ¬ (selection.shown s.analysis (focus.map Package.path)).has f := by
  obtain ⟨invalid, e, view⟩ | ⟨-, none, e, -, view⟩ |
    ⟨-, selection, focus, asks, ⟨nothing, e, -, view⟩ | ⟨⟨f, hf⟩, v, -, view⟩⟩ :=
      view_cases ha ht hc (o := o)
  · exact iff_of_false (by simp [view]) fun ⟨_, _, asks, _⟩ => asks.valid invalid
  · exact iff_of_false (by simp [view]) fun ⟨_, _, asks, _⟩ => asks.determined none
  · exact iff_of_true ⟨e, view⟩ ⟨selection, focus, asks, nothing⟩
  · refine iff_of_false (by simp [view]) ?_
    rintro ⟨selection', focus', asks', nothing⟩
    obtain ⟨rfl, rfl⟩ := asks.unique hc asks'
    exact nothing f hf

theorem shown_iff :
    (∃ v, s.view o = .ok v) ↔
      ∃ selection focus, s.Asks o selection focus ∧
        ∃ f, (selection.shown s.analysis (focus.map Package.path)).has f := by
  obtain ⟨invalid, e, view⟩ | ⟨-, none, e, -, view⟩ |
    ⟨-, selection, focus, asks, ⟨nothing, e, -, view⟩ | ⟨something, v, -, view⟩⟩ :=
      view_cases ha ht hc (o := o)
  · exact iff_of_false (by simp [view]) fun ⟨_, _, asks, _⟩ => asks.valid invalid
  · exact iff_of_false (by simp [view]) fun ⟨_, _, asks, _⟩ => asks.determined none
  · refine iff_of_false (by simp [view]) ?_
    rintro ⟨selection', focus', asks', f, hf⟩
    obtain ⟨rfl, rfl⟩ := asks.unique hc asks'
    exact nothing f hf
  · exact iff_of_true ⟨v, view⟩ ⟨selection, focus, asks, something⟩

theorem misfit?_of_view {e : RequestError} (he : s.view o = .error e) : e.misfit? = none := by
  obtain ⟨-, e, view⟩ | ⟨-, -, e, known, view⟩ |
    ⟨-, _, _, -, ⟨-, e, known, view⟩ | ⟨-, v, -, view⟩⟩ := view_cases ha ht hc (o := o) <;>
    cases he.symm.trans view
  · rfl
  · cases e <;> first | rfl | exact absurd rfl known
  · cases e <;> first | rfl | exact absurd rfl (known _)

theorem presentable_of_view
    (program : s.analysis.program.isGiven → s.analysis.program.isText) {v : View}
    (hv : s.view o = .ok v) : v.Presentable := by
  obtain ⟨-, e, view⟩ | ⟨-, -, e, -, view⟩ |
    ⟨-, selection, focus, -, ⟨-, e, -, view⟩ | ⟨-, v, made, view⟩⟩ :=
      view_cases ha ht hc (o := o) <;> cases hv.symm.trans view
  have drawable := View.drawable_of_view ha ht program made
  refine (Analysis.arranged_of_view ha ht made).presentable drawable fun n hn => ?_
  obtain ⟨-, rfl⟩ := (Analysis.view_eq_ok_iff ha ht selection _).1 made
  obtain ⟨f, hf, rfl⟩ := List.mem_map.1 hn
  exact Stages.isText_package ha ht selection _ (CallGraph.mem_orderedFunctions.1 hf)

end Session

namespace Document.WellTyped

/-- A request for a view of what is loaded from a well typed document is classified. -/
theorem classified_of_load {d : Document} (hd : d.WellTyped) {a : Analysis} (h : d.load = .ok a)
    (baseline o : Settings) : (Session.mk a baseline).Classified o := by
  have ha := hd.wellFormed_of_load h
  have ht := hd.textual_of_load h
  have hc := hd.catalogued_of_load h
  exact {
    settings := Session.settings_iff ha ht hc
    focus := Session.focus_iff ha ht hc
    processing := Session.processing_iff ha ht hc
    shown := Session.shown_iff ha ht hc
    foreseen := fun _ => Session.misfit?_of_view ha ht hc
    closed := Stages.closed_run ha
    presentable := fun _ => Session.presentable_of_view ha ht hc (hd.program_of_load h) }

end Document.WellTyped

namespace Document

theorem classified_of_load_patchwork :
    (ofFields patchwork).WellTyped ∧
      ∃ a, (ofFields patchwork).load = .ok a ∧
        (∃ e, (Session.mk a {}).view { group := "pkg, size" } = .error (.settings e)) ∧
        (∀ p, ¬ a.Determines "no/where" p) ∧
        (∃ selection focus, (Session.mk a {}).Asks { only := "lib" } selection focus ∧
          ∀ f, ¬ (selection.shown a (focus.map Package.path)).has f) ∧
        ∃ v, (Session.mk a {}).view { focus := "log" } = .ok v ∧
          v.ids = [.text "app.main", .text "log."] ∧ v.Presentable := by
  have parts : (ofFields patchwork).load.toOption.map (fun a =>
      ((Session.mk a {}).view { focus := "no/where" }, (Session.mk a {}).view { only := "lib" },
        ((Session.mk a {}).view { focus := "log" }).toOption.map View.ids)) =
      some (.error (.focus (.unknownPath "no/where")), .error (.processing .nothingLeft),
        some [.text "app.main", .text "log."]) := by cbv
  obtain ⟨a, ha, parts⟩ := exists_ok_of_map parts
  obtain ⟨lost, parts⟩ := Prod.mk.inj parts
  obtain ⟨empty, ids⟩ := Prod.mk.inj parts
  obtain ⟨v, hv, ids⟩ := exists_ok_of_map ids
  have classified := wellTyped_patchwork.classified_of_load ha {}
  have invalid : Settings.Invalid { group := "pkg, size" } :=
    .inl ⟨" size", by decide, by decide⟩
  have trimmed : Text.trim "no/where" = "no/where" := by decide
  refine ⟨wellTyped_patchwork, a, ha, (classified _).settings.2 invalid, ?_,
    (classified _).processing.1 ⟨_, empty⟩, v, hv, ids, (classified _).presentable v hv⟩
  have undetermined := ((classified _).focus.1 ⟨_, lost⟩).2.2
  rwa [trimmed] at undetermined

end Document

end CallAtlas
