import CallAtlas.Proofs.Drawing
import Mathlib

set_option autoImplicit false

/-!
# What the order of a document changes

Whether an edge through a wrapper is dynamic is found by a search that skips a call to what it has
seen before it looks at the call. So the order of the calls can decide. It shows where such an edge
meets a direct call, as other edges through wrappers look the same either way, and nowhere else; and
it never shows if no wrapper calls a wrapper dynamically.
-/

namespace CallAtlas

namespace Selection

variable (s : Selection) (a : Analysis)

/-- Both functions are shown, one calls the other directly, and no call that counts for the two is
dynamic itself. -/
structure Undecided (focus : Option Atom) (u v : Atom) : Prop where
  caller : (s.shown a focus).names u
  callee : (s.shown a focus).names v
  direct : a.Calls u v
  static : ∀ c ∈ a.calls, s.Counts a u v c → c.dynamic = false

end Selection

namespace Analysis

variable {a b : Analysis} {s : Selection} {focus : Option Atom} {v w : View}

theorem of_mem_edges (ha : a.WellFormed) (ht : a.Textual) (hv : a.view s focus = .ok v)
    {e : ViewEdge} (he : e ∈ v.edges) :
    ((s.shown a focus).names e.caller ∧ (s.shown a focus).names e.callee) ∧
      (e.elided = true ↔ ¬ a.Calls e.caller e.callee) ∧
      (e.dynamic = true ↔
        (∃ c ∈ a.calls, s.Counts a e.caller e.callee c ∧ c.dynamic = true) ∨
          s.Dispatches a e.caller e.callee) := by
  obtain ⟨-, rfl⟩ := (view_eq_ok_iff ha ht s focus).1 hv
  obtain ⟨d, hd, rfl⟩ := List.mem_map.1 he
  have hd := CallGraph.mem_orderedEdges.1 hd
  have direct := Stages.direct_of_shown ha s focus hd
  have wellFormed := Stages.wellFormed_shown ha s focus
  have fits := Stages.fits_shown ha s focus
  rw [View.edgeOf_of_isText (Stages.isText_ends ha ht s focus hd).2]
  refine ⟨⟨fits.names.2 (wellFormed.caller_mem d hd), fits.names.2 (wellFormed.callee_mem d hd)⟩,
    Stages.elided_direct ha ht s focus direct, ?_⟩
  change d.dynamic = true ↔ _
  rw [Stages.dynamic_direct ha ht s focus direct]
  constructor
  · rintro ⟨c, hc, counts, hdynamic | ⟨hr, hx⟩⟩
    · exact .inl ⟨c, hc, counts, hdynamic⟩
    · exact .inr ⟨c, hc, counts.1, hr, hx⟩
  · rintro (⟨c, hc, counts, hdynamic⟩ | ⟨c, hc, hu, hr, hx⟩)
    · exact ⟨c, hc, counts, .inl hdynamic⟩
    · exact ⟨c, hc, ⟨hu, .inr hr⟩, .inr ⟨hr, hx⟩⟩

theorem exists_edge (ha : a.WellFormed) (ht : a.Textual) (hv : a.view s focus = .ok v) {x y : Atom}
    (h : s.Undecided a focus x y) : ∃ e ∈ v.edges, e.caller = x ∧ e.callee = y := by
  obtain ⟨-, rfl⟩ := (view_eq_ok_iff ha ht s focus).1 hv
  have fits := Stages.fits_shown ha s focus
  have induced := Stages.induced_shown ha s focus
  have hx := fits.names.1 h.caller
  have hy := fits.names.1 h.callee
  obtain ⟨c, hc, hu, hw⟩ := h.direct
  have between := (Stages.direct_edge_iff ha s focus (induced.ids x hx) (induced.ids y hy)).2
    ⟨c, hc, hu, .inl hw⟩
  obtain ⟨d, hd, hends⟩ := List.mem_map.1 between
  cases hends
  have shown := (induced.edges d).2 ⟨hd, hx, hy⟩
  have callee := (Stages.isText_ends ha ht s focus shown).2
  refine ⟨View.edgeOf [] d, List.mem_map_of_mem (CallGraph.mem_orderedEdges.2 shown), ?_⟩
  rw [View.edgeOf_of_isText callee]
  exact ⟨rfl, rfl⟩

namespace Reordered

variable (h : a.Reordered b) (ha : a.WellFormed) (ht : a.Textual)

include h ha ht

/-- Edges that say the same but for being dynamic look the same unless they are undecided and only
one of them is followed by a dynamic call. -/
theorem edgeStyle_eq_iff (hv : a.view s focus = .ok v) (hw : b.view s focus = .ok w)
    {e d : ViewEdge} (he : e ∈ v.edges) (hd : d ∈ w.edges) (same : e.still = d.still) :
    Dot.edgeStyle e = Dot.edgeStyle d ↔
      (s.Undecided a focus e.caller e.callee →
        (s.Dispatches a e.caller e.callee ↔ s.Dispatches b e.caller e.callee)) := by
  obtain ⟨caller, callee, -, elided⟩ := ViewEdge.still_eq_iff.1 same
  obtain ⟨names, direct, dynamic⟩ := of_mem_edges ha ht hv he
  obtain ⟨-, -, dynamic'⟩ := of_mem_edges (ha.reordered h) (ht.reordered h) hw hd
  rw [← caller, ← callee, ← h.counts_eq] at dynamic'
  simp only [← h.calls.mem_iff] at dynamic'
  cases hl : e.elided with
  | true =>
    have style : Dot.edgeStyle e = Dot.edgeStyle d := by simp [Dot.edgeStyle, ← elided, hl]
    exact iff_of_true style fun undecided => absurd undecided.direct (direct.1 hl)
  | false =>
    have calls : a.Calls e.caller e.callee := by
      by_contra hn
      rw [direct.2 hn] at hl
      cases hl
    have style : Dot.edgeStyle e = Dot.edgeStyle d ↔ (e.dynamic = true ↔ d.dynamic = true) := by
      have hl' : d.elided = false := elided ▸ hl
      cases he' : e.dynamic <;> cases hd' : d.dynamic <;> simp [Dot.edgeStyle, hl, hl', he', hd']
    rw [style, dynamic, dynamic']
    by_cases some : ∃ c ∈ a.calls, s.Counts a e.caller e.callee c ∧ c.dynamic = true
    · refine iff_of_true (by simp [some]) fun undecided => ?_
      obtain ⟨c, hc, counts, hdynamic⟩ := some
      rw [undecided.static c hc counts] at hdynamic
      cases hdynamic
    · have undecided : s.Undecided a focus e.caller e.callee := by
        refine ⟨names.1, names.2, calls, fun c hc counts => ?_⟩
        exact Bool.eq_false_iff.2 fun hdynamic => some ⟨c, hc, counts, hdynamic⟩
      rw [or_iff_right some, or_iff_right some]
      exact ⟨fun same _ => same, fun same => same undecided⟩

theorem edgeStyles_eq_iff (hv : a.view s focus = .ok v) (hw : b.view s focus = .ok w)
    (same : v.still = w.still) :
    v.edges.map Dot.edgeStyle = w.edges.map Dot.edgeStyle ↔
      ∀ x y, s.Undecided a focus x y → (s.Dispatches a x y ↔ s.Dispatches b x y) := by
  obtain ⟨length, still⟩ := List.forall₂_iff_get.1 (Dot.alike_of_still same)
  have styles : v.edges.map Dot.edgeStyle = w.edges.map Dot.edgeStyle ↔
      ∀ i (hi : i < v.edges.length) (hj : i < w.edges.length),
        Dot.edgeStyle v.edges[i] = Dot.edgeStyle w.edges[i] := by
    rw [← List.forall₂_eq_eq_eq, List.forall₂_map_left_iff, List.forall₂_map_right_iff,
      List.forall₂_iff_get]
    exact and_iff_right length
  have pair (i : Nat) (hi : i < v.edges.length) (hj : i < w.edges.length) :=
    h.edgeStyle_eq_iff ha ht hv hw (List.getElem_mem hi) (List.getElem_mem hj) (still i hi hj)
  rw [styles]
  constructor
  · intro all x y undecided
    obtain ⟨e, he, rfl, rfl⟩ := exists_edge ha ht hv undecided
    obtain ⟨i, hi, rfl⟩ := List.getElem_of_mem he
    exact (pair i hi (length ▸ hi)).1 (all i hi (length ▸ hi)) undecided
  · exact fun all i hi hj => (pair i hi hj).2 (all _ _)

variable (hc : a.Catalogued) (program : a.program.isGiven → a.program.isText) (baseline : Settings)

include hc program

theorem render_eq_iff_styles {o : Settings} {package : Option Package}
    (request : (Session.mk a baseline).request o = .ok (s, package))
    (hv : a.view s (package.map Package.path) = .ok v)
    (hw : b.view s (package.map Package.path) = .ok w) (same : v.still = w.still) :
    (Session.mk a baseline).render o = (Session.mk b baseline).render o ↔
      v.edges.map Dot.edgeStyle = w.edges.map Dot.edgeStyle := by
  have program' : b.program.isGiven → b.program.isText := h.program ▸ program
  obtain ⟨t, t', ht, ht', texts⟩ := Dot.write_eq_iff (View.drawable_of_view ha ht program hv)
    (View.drawable_of_view (ha.reordered h) (ht.reordered h) program' hw) same
  have left : (Session.mk a baseline).render o = .ok (Text.Utf8.encode t) := by
    simp only [Session.render, Session.view, request, hv, ht]
  have right : (Session.mk b baseline).render o = .ok (Text.Utf8.encode t') := by
    simp only [Session.render, Session.view, ← request_reordered hc h, request, hw, ht']
  rw [left, right, ← texts, Except.ok.injEq]
  exact ⟨Text.Utf8.encode_injective, congrArg Text.Utf8.encode⟩

/-- Sessions of reordered analyses answer a request alike if and only if the two orders agree on the
edges that are undecided. -/
theorem render_eq_iff (o : Settings) :
    (Session.mk a baseline).render o = (Session.mk b baseline).render o ↔
      ∀ s package, (Session.mk a baseline).request o = .ok (s, package) →
        ∀ x y, s.Undecided a (package.map Package.path) x y →
          (s.Dispatches a x y ↔ s.Dispatches b x y) := by
  have request' := request_reordered hc h baseline o
  cases request : (Session.mk a baseline).request o with
  | error e =>
    rw [request] at request'
    refine iff_of_true ?_ fun _ _ hn => nomatch hn
    simp only [Session.render, Session.view, request, ← request']
  | ok r =>
    obtain ⟨s, package⟩ := r
    rw [request] at request'
    have only : (∀ s' package', Except.ok (s, package) = (.ok (s', package') :
        Except RequestError (Selection × Option Package)) →
        ∀ x y, s'.Undecided a (package'.map Package.path) x y →
          (s'.Dispatches a x y ↔ s'.Dispatches b x y)) ↔
        ∀ x y, s.Undecided a (package.map Package.path) x y →
          (s.Dispatches a x y ↔ s.Dispatches b x y) := by
      constructor
      · exact fun all => all s package rfl
      · rintro all s' package' he
        cases he
        exact all
    rw [only]
    rcases h.view_still_eq ha s (package.map Package.path) ht hc with
      ⟨e, hv, hw⟩ | ⟨v, w, hv, hw, same⟩
    · refine iff_of_true ?_ fun x y undecided => ?_
      · simp only [Session.render, Session.view, request, ← request', hv, hw]
      · have some : ∃ id, (s.shown a (package.map Package.path)).names id := ⟨x, undecided.caller⟩
        have ok := (view_eq_ok_iff ha ht s _).2 ⟨some, rfl⟩
        rw [hv] at ok
        cases ok
    · rw [h.render_eq_iff_styles ha ht hc program baseline request hv hw same]
      exact h.edgeStyles_eq_iff ha ht hv hw same

omit hc program in
/-- Where wrappers call wrappers statically, a dynamic call that is followed in one order leads out
of the wrappers, so it is followed in the other. -/
theorem dispatches_of_static (static : a.StaticChains) {id : Atom}
    (hid : (s.authored a).IsSynthetic id) (hd : s.dispatches a id = true) :
    s.dispatches b id = true := by
  obtain ⟨c, hc, behind, caller, callee, dynamic⟩ := Stages.exists_of_dispatches ha ht s hd
  have synthetic := Selection.isSynthetic_of_authored (behind.isSynthetic hid)
  have real : ¬ (s.authored a).IsSynthetic c.callee := by
    intro hs
    rw [static c hc synthetic (Selection.isSynthetic_of_authored hs)] at dynamic
    cases dynamic
  have behind : s.Behind b id c.caller := by
    rwa [Selection.Behind, ← h.authored_eq]
  rw [h.authored_eq] at caller callee real
  exact Stages.dispatches_of_behind (ha.reordered h) (ht.reordered h) s (h.calls.mem_iff.1 hc)
    behind caller callee real dynamic

omit hc program in
theorem dispatches_imp (static : a.StaticChains) {x y : Atom} (hd : s.Dispatches a x y) :
    s.Dispatches b x y := by
  obtain ⟨c, hc, hcaller, replaces, hd⟩ := hd
  refine ⟨c, h.calls.mem_iff.1 hc, hcaller, h.replaces_eq s ▸ replaces, ?_⟩
  exact h.dispatches_of_static ha ht static replaces.isSynthetic hd

theorem render_eq_of_static (static : a.StaticChains) (o : Settings) :
    (Session.mk a baseline).render o = (Session.mk b baseline).render o := by
  refine (h.render_eq_iff ha ht hc program baseline o).2 fun s package _ x y _ => ?_
  constructor
  · exact h.dispatches_imp ha ht static
  · exact h.symm.dispatches_imp (ha.reordered h) (ht.reordered h) (static.reordered h)

end Reordered

end Analysis

namespace Document

/-- A payload whose lists come in another order loads as well, and its session answers a request
with the same bytes or the same error, if and only if the two orders agree on the edges that are
undecided. Orders agree on all edges if wrappers call wrappers statically. -/
theorem render_of_rearranged {fields fields' : List (String × Json)}
    (h : Rearranged fields fields') (typed : (ofFields fields).WellTyped)
    (distinct : (ofFields fields).Distinct) {a : Analysis} (loads : (ofFields fields).load = .ok a) :
    ∃ b, (ofFields fields').load = .ok b ∧
      (∀ baseline o, (Session.mk a baseline).render o = (Session.mk b baseline).render o ↔
        ∀ s package, (Session.mk a baseline).request o = .ok (s, package) →
          ∀ x y, s.Undecided a (package.map Package.path) x y →
            (s.Dispatches a x y ↔ s.Dispatches b x y)) ∧
      (a.StaticChains → ∀ baseline o,
        (Session.mk a baseline).render o = (Session.mk b baseline).render o) := by
  obtain ⟨b, hb, reordered⟩ := typed.exists_load distinct (h.reordered typed) loads
  have wellFormed := typed.wellFormed_of_load loads
  have textual := typed.textual_of_load loads
  have catalogued := typed.catalogued_of_load loads
  have program := typed.program_of_load loads
  refine ⟨b, hb, fun baseline o => ?_, fun static baseline o => ?_⟩
  · exact reordered.render_eq_iff wellFormed textual catalogued program baseline o
  · exact reordered.render_eq_of_static wellFormed textual catalogued program baseline static o

/-! ## Two wrappers that lead to a third -/

def functionFields (id name : String) (synthetic : Json) : Json :=
  .object [("id", .text id), ("name", .text name), ("package", .text "main"),
    ("synthetic", synthetic)]

def callFields (caller callee : String) (dynamic : Bool) : Json :=
  .object [("caller", .text caller), ("callee", .text callee), ("dynamic", .bool dynamic)]

/-- A program that calls `r` directly and through `w`, behind which `a` and `b` lead to `c`. -/
def joined (calls : List Json) : List (String × Json) :=
  [("packages", .array [.object [("path", .text "main"), ("name", .text "main")]]),
    ("functions", .array [functionFields "main.main" "main" .null,
      functionFields "w" "w" (.text "wrapper"), functionFields "a" "a" (.text "wrapper"),
      functionFields "b" "b" (.text "wrapper"), functionFields "c" "c" (.text "wrapper"),
      functionFields "r" "r" .null]),
    ("edges", .array ([callFields "main.main" "r" false, callFields "main.main" "w" false,
      callFields "a" "c" false, callFields "b" "c" true, callFields "c" "r" false] ++ calls))]

/-- The program with the calls of `w` in one order: `c` is seen from `a`. -/
def joinedAtA : List (String × Json) := joined [callFields "w" "b" false, callFields "w" "a" false]

/-- The program with the calls of `w` in the other order: `c` is seen from `b`, dynamically. -/
def joinedAtB : List (String × Json) := joined [callFields "w" "a" false, callFields "w" "b" false]

theorem rearranged_joined : Rearranged joinedAtA joinedAtB where
  lists := by
    have swap : [callFields "w" "b" false, callFields "w" "a" false].Perm
        [callFields "w" "a" false, callFields "w" "b" false] := .swap _ _ _
    intro name hn
    simp only [List.mem_cons, List.not_mem_nil, or_false] at hn
    rcases hn with rfl | rfl | rfl | rfl
    · exact .some (.same _)
    · exact .some (.same _)
    · exact .some (.items (swap.append_left _))
    · exact .none
  program := rfl

theorem wellTyped_joined : (ofFields joinedAtA).WellTyped := by decide

theorem distinct_joined : (ofFields joinedAtA).Distinct := ⟨by decide, by decide⟩

theorem exists_view {d : Document} {s : Selection} {styles : List Dot.Attributes}
    (h : (d.load.toOption.bind fun a => (a.view s none).toOption).map
      (fun v => v.edges.map Dot.edgeStyle) = some styles) :
    ∃ a v, d.load = .ok a ∧ a.view s none = .ok v ∧ v.edges.map Dot.edgeStyle = styles := by
  rw [Option.map_bind] at h
  cases ha : d.load with
  | error e =>
    rw [ha] at h
    cases h
  | ok a =>
    rw [ha] at h
    obtain ⟨v, hv, styles⟩ := exists_ok_of_map h
    exact ⟨a, v, rfl, hv, styles⟩

theorem render_joined_of_wrappers :
    ∃ a b, (ofFields joinedAtA).load = .ok a ∧ (ofFields joinedAtB).load = .ok b ∧
      (Session.mk a {}).render {} = (Session.mk b {}).render {} := by
  obtain ⟨a, ha⟩ : ∃ a, (ofFields joinedAtA).load = .ok a := by
    have known : (ofFields joinedAtA).load.toOption.isSome = true := by cbv
    cases h : (ofFields joinedAtA).load with
    | error e =>
      rw [h] at known
      cases known
    | ok a => exact ⟨a, rfl⟩
  obtain ⟨b, hb, agree, -⟩ :=
    render_of_rearranged rearranged_joined wellTyped_joined distinct_joined ha
  refine ⟨a, b, ha, hb, (agree {} {}).2 fun s package request x y _ => ?_⟩
  have plain : (Session.mk a {}).request {} = .ok ({ group := [.package] }, none) := by cbv
  rw [plain] at request
  cases request
  have none (c : Analysis) : ¬ Selection.Dispatches { group := [.package] } c x y := by
    rintro ⟨-, -, -, ⟨hide, -⟩, -⟩
    cases hide
  exact iff_of_false (none a) (none b)

/-- With wrappers taken out, the call of `r` is plain in one order and dashed in the other. -/
theorem order_shows_in_joined :
    Rearranged joinedAtA joinedAtB ∧ (ofFields joinedAtA).WellTyped ∧
      (ofFields joinedAtA).Distinct ∧
      ∃ a b, (ofFields joinedAtA).load = .ok a ∧ (ofFields joinedAtB).load = .ok b ∧
        (Session.mk a {}).render { hideWrappers := true } ≠
          (Session.mk b {}).render { hideWrappers := true } := by
  refine ⟨rearranged_joined, wellTyped_joined, distinct_joined, ?_⟩
  have known : ((ofFields joinedAtA).load.toOption.bind fun a =>
      (a.view { group := [.package], hideWrappers := true } none).toOption).map
      (fun v => v.edges.map Dot.edgeStyle) = some [[]] := by cbv
  have known' : ((ofFields joinedAtB).load.toOption.bind fun a =>
      (a.view { group := [.package], hideWrappers := true } none).toOption).map
      (fun v => v.edges.map Dot.edgeStyle) = some [[("style", "dashed")]] := by cbv
  obtain ⟨a, v, ha, hv, styles⟩ := exists_view known
  obtain ⟨b, w, hb, hw, styles'⟩ := exists_view known'
  refine ⟨a, b, ha, hb, ?_⟩
  obtain ⟨b', hb', reordered⟩ := wellTyped_joined.exists_load distinct_joined
    (rearranged_joined.reordered wellTyped_joined) ha
  rw [hb] at hb'
  cases hb'
  have wellFormed := wellTyped_joined.wellFormed_of_load ha
  have textual := wellTyped_joined.textual_of_load ha
  have catalogued := wellTyped_joined.catalogued_of_load ha
  have same : v.still = w.still := by
    rcases reordered.view_still_eq wellFormed { group := [.package], hideWrappers := true } none
      textual catalogued with ⟨e, he, -⟩ | ⟨v', w', hv', hw', same⟩
    · rw [hv] at he
      cases he
    · rw [hv] at hv'
      rw [hw] at hw'
      cases hv'
      cases hw'
      exact same
  have program := wellTyped_joined.program_of_load ha
  have request : (Session.mk a {}).request { hideWrappers := true } =
      .ok ({ group := [.package], hideWrappers := true }, none) := by cbv
  rw [Ne, reordered.render_eq_iff_styles wellFormed textual catalogued program {} request hv hw same,
    styles, styles']
  decide

end Document

end CallAtlas
