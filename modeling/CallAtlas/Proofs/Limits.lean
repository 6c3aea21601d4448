import CallAtlas.Proofs.Connectivity
import CallAtlas.Proofs.Views

set_option autoImplicit false

/-!
# Generous limits

A limit that counts as many levels as there are functions drops nothing for being deep. What it
still drops is stranded: limited functions that call each other and that nothing on the first level
leads to. Functions are only stranded when those that the program starts at, or that lead to them,
were taken out before.
-/

namespace CallAtlas

namespace Outline

variable {o : Outline} {prefixes : List String} {starts : List Atom}

/-- A limited function that no function on the first level leads to through limited functions. -/
def IsStranded (o : Outline) (prefixes : List String) (starts : List Atom) (id : Atom) : Prop :=
  o.IsLimited prefixes id ∧
    ∀ u, o.IsFirst prefixes starts u → ¬ Relation.ReflTransGen (o.LimitedCall prefixes) u id

theorem not_isLimited_nil (id : Atom) : ¬ o.IsLimited [] id := by
  rintro ⟨f, -, hs, -⟩
  cases h : f.package <;> simp [Atom.startsWithAny, Atom.text?, h, Text.startsWithAny] at hs

/-- What an entry point leads to is not stranded: the last call on the way that enters the limited
packages leads to the first level. -/
theorem not_isStranded_of_reflTransGen {u v : Atom} (hu : u ∈ starts)
    (h : Relation.ReflTransGen o.calls u v) : ¬ o.IsStranded prefixes starts v := by
  have first : o.IsLimited prefixes v →
      ∃ x, o.IsFirst prefixes starts x ∧ Relation.ReflTransGen (o.LimitedCall prefixes) x v := by
    induction h with
    | refl => exact fun hl => ⟨u, ⟨hl, .inl hu⟩, .refl⟩
    | @tail b c _ hc ih =>
      intro hl
      by_cases hb : o.IsLimited prefixes b
      · obtain ⟨x, hx, hr⟩ := ih hb
        exact ⟨x, hx, hr.tail ⟨hc, hl⟩⟩
      · exact ⟨c, ⟨hl, .inr (.inr ⟨b, hc, hb⟩)⟩, .refl⟩
  rintro ⟨hl, none⟩
  obtain ⟨x, hx, hr⟩ := first hl
  exact none x hx hr

end Outline

namespace CallGraph

variable {g : CallGraph} {o : Outline}

theorem without_nil (h : g.WellFormed) : g.without [] = g :=
  h.restrict_eq_self fun f _ => by simp

theorem length_functions_restrict_le (g : CallGraph) (keep : Function → Bool) :
    (g.restrict keep).functions.length ≤ g.functions.length := List.length_filter_le _ _

/-- With as many levels as there are functions, all that the first level leads to is shown. -/
theorem Fits.mem_tooDeep_of_length_le (h : g.Fits o) {prefixes : List String}
    {starts : List Atom} {depth : Nat} (generous : g.functions.length ≤ depth) {id : Atom} :
    id ∈ g.tooDeep prefixes starts depth ↔ o.IsStranded prefixes starts id := by
  rw [h.mem_tooDeep]
  refine and_congr_right fun _ => ?_
  constructor
  · intro none u hu hr
    have boundary := h.mem_boundary.2 hu
    -- One limited function at least stands on the first level, so one level less is enough.
    have fewer : (Search.unseen (g.limited prefixes)
        ((g.limited prefixes).filter (g.isBoundary (g.limited prefixes) starts))).length <
        (g.limited prefixes).length :=
      List.length_filter_lt_length_iff_exists.2
        ⟨u, (List.mem_filter.1 boundary).1, by simpa using List.mem_filter.1 boundary⟩
    have all : (g.limited prefixes).length ≤ g.functions.length := by
      rw [limited, List.length_map]
      exact List.length_filter_le _ _
    have path := (Search.path_iff_reflTransGen h.limitedCall_iff).2 hr
    exact none (h.mem_shallow.1 (Search.mem_within_of_path (by omega) boundary path))
  · rintro none ⟨u, hu, n, -, hs⟩
    exact none u hu hs.reflTransGen

end CallGraph

namespace Selection

variable (s : Selection) (a : Analysis)

def TakesOut (id : Atom) : Prop :=
  s.hideWrappers = true ∧ ∃ f, (s.authored a).IsWrapper f ∧ f.id = id

def IsStranded (id : Atom) : Prop := (s.direct a).IsStranded s.limit a.starts id

end Selection

namespace Stages

variable {a : Analysis} (ha : a.WellFormed) (s : Selection) (focus : Option Atom)

theorem length_direct_le : (run a s focus).direct.functions.length ≤ a.functions.length := by
  have whole : a.callGraph.functions.length ≤ a.functions.length :=
    a.wholeGraph.length_functions_restrict_le _
  have authored : (run a s focus).authored.functions.length ≤ a.functions.length := by
    rw [run_authored]
    split
    · exact Nat.le_trans (CallGraph.length_functions_restrict_le _ _) whole
    · exact whole
  rw [run_direct]
  split
  · exact Nat.le_trans (CallGraph.length_functions_restrict_le _ _) authored
  · exact authored

include ha

theorem mem_shallow_of_length_le (generous : a.functions.length ≤ s.limitDepth) {f : Function} :
    f ∈ (run a s focus).shallow.functions ↔
      f ∈ (run a s focus).direct.functions ∧ ¬ s.IsStranded a f.id := by
  have enough := Nat.le_trans (length_direct_le s focus) generous
  have deep : f.id ∈ (run a s focus).direct.tooDeep s.limit a.starts s.limitDepth ↔
      s.IsStranded a f.id := (fits_direct ha s focus).mem_tooDeep_of_length_le enough
  rw [run_shallow]
  split
  · rename_i h
    have none : ¬ s.IsStranded a f.id := by
      rintro ⟨hl, -⟩
      rw [List.isEmpty_iff.1 h] at hl
      exact Outline.not_isLimited_nil f.id hl
    exact (and_iff_left none).symm
  · rw [CallGraph.withinLimit, CallGraph.without, CallGraph.mem_functions_restrict,
      decide_eq_true_iff, deep]

theorem isClosed_authored : (s.authored a).IsClosed where
  unique f g hf hg hi :=
    List.inj_on_of_nodup_map ha.nodup_ids (Selection.mem_of_authored hf)
      (Selection.mem_of_authored hg) hi
  callee u v hc := by
    have fits := fits_authored ha s none
    obtain ⟨e, he, hends⟩ := List.mem_map.1 ((fits.calls u v).2 hc)
    cases hends
    exact fits.names.2 ((wellFormed_authored ha s none).callee_mem e he)

theorem run_of_length_le (generous : a.functions.length ≤ s.limitDepth)
    (none : ∀ id, ¬ s.IsStranded a id) : run a s focus = run a { s with limit := [] } focus := by
  have enough := Nat.le_trans (length_direct_le s focus) generous
  have deep : (run a s focus).direct.tooDeep s.limit a.starts s.limitDepth = [] := by
    rw [List.eq_nil_iff_forall_not_mem]
    intro id hid
    exact none id (((fits_direct ha s focus).mem_tooDeep_of_length_le enough).1 hid)
  have shallow : (run a s focus).shallow = (run a s focus).direct := by
    rw [run_shallow]
    split
    · rfl
    · rw [CallGraph.withinLimit, deep, CallGraph.without_nil (wellFormed_direct ha s focus)]
  unfold run at shallow ⊢
  dsimp only at shallow ⊢
  rw [shallow]
  rfl

/-- Every function that can run is reached from an entry point, and as long as no entry point is
taken out it is still reached when wrappers are gone. -/
theorem exists_start (shown : s.hideStd = false) (entries : ∀ id ∈ a.starts, ¬ s.TakesOut a id)
    {id : Atom} (h : (s.direct a).names id) :
    ∃ u ∈ a.starts, Relation.ReflTransGen (s.direct a).calls u id := by
  have whole : s.authored a = Outline.whole a := by rw [Selection.authored, shown]; rfl
  have runs {f : Function} (hf : (s.authored a).has f) : a.Runs f.id := by
    rw [whole] at hf
    exact hf.2
  have named {id : Atom} (hid : a.Runs id) : (s.authored a).names id := by
    obtain ⟨f, hf, rfl⟩ := List.mem_map.1 (Analysis.mem_ids_of_runs ha hid)
    rw [whole]
    exact ⟨f, ⟨hf, hid⟩, rfl⟩
  obtain ⟨f, hf, rfl⟩ := h
  have hfa := Selection.authored_of_direct hf
  obtain ⟨u, hu, hr⟩ := runs hfa
  have path : Relation.ReflTransGen (s.authored a).calls u f.id := by
    clear hf hfa
    generalize f.id = v at hr
    induction hr with
    | refl => exact .refl
    | @tail b c hb hc ih =>
      refine ih.tail ?_
      have first := named ⟨u, hu, hb⟩
      have last := named ⟨u, hu, hb.tail hc⟩
      rw [whole] at first last ⊢
      exact ⟨hc, first, last⟩
  refine ⟨u, hu, ?_⟩
  unfold Selection.direct at hf ⊢
  split
  · rename_i hide
    rw [if_pos hide] at hf
    have stays : (s.authored a).Stays u := by
      obtain ⟨k, hk, hi⟩ := named ⟨u, hu, .refl⟩
      exact ⟨k, ⟨hk, fun hw => entries u hu ⟨hide, k, hw, hi⟩⟩, hi⟩
    exact (isClosed_authored ha s).reflTransGen_direct stays ⟨f, hf, rfl⟩ path
  · exact path

end Stages

namespace Analysis

variable {a : Analysis}

/-- A limit with as many levels as there are functions drops what is stranded and nothing else. If
nothing is stranded, the outcome is that without limit, and nothing is if the standard library is
shown and no entry point is taken out. -/
theorem view_of_generous_limit (ha : a.WellFormed) (ht : a.Textual) (s : Selection)
    (generous : a.functions.length ≤ s.limitDepth) :
    (∀ focus f, f ∈ (Stages.run a s focus).shallow.functions ↔
      f ∈ (Stages.run a s focus).direct.functions ∧ ¬ s.IsStranded a f.id) ∧
    ((∀ id, ¬ s.IsStranded a id) →
      ∀ focus, a.view s focus = a.view { s with limit := [] } focus) ∧
    (s.hideStd = false → (∀ id ∈ a.starts, ¬ s.TakesOut a id) → ∀ id, ¬ s.IsStranded a id) := by
  refine ⟨?_, ?_, ?_⟩
  · exact fun focus _ => Stages.mem_shallow_of_length_le ha s focus generous
  · intro none focus
    rw [view_eq ha ht, view_eq ha ht, Stages.run_of_length_le ha s focus generous none]
  · intro shown entries id hs
    obtain ⟨f, hf, -, hi⟩ := hs.1
    obtain ⟨u, hu, hr⟩ := Stages.exists_start ha s shown entries ⟨f, hf, hi⟩
    exact Outline.not_isStranded_of_reflTransGen hu hr hs

def allLevels : Selection := { hideWrappers := true, limit := ["lib"], limitDepth := 4 }

theorem view_of_generous_limit_relay :
    relay.functions.length ≤ allLevels.limitDepth ∧
      relay.view allLevels none = relay.view { allLevels with limit := [] } none := by
  have generous : relay.functions.length ≤ allLevels.limitDepth := by decide
  have real : ∀ f ∈ relay.functions, f.id ∈ relay.starts → f.isSynthetic = false := by decide
  have entries : ∀ id ∈ relay.starts, ¬ allLevels.TakesOut relay id := by
    rintro id hid ⟨-, f, hf, rfl⟩
    have hn := real f (Selection.mem_of_authored hf.1) hid
    rw [hf.2.1] at hn
    cases hn
  obtain ⟨-, same, free⟩ :=
    view_of_generous_limit wellFormed_relay textual_relay allLevels generous
  exact ⟨generous, same (free rfl entries) none⟩

/-- A program of the standard library that calls a function which calls itself. -/
def orphan : Analysis where
  packages := [{ path := .text "main", name := .text "main", std := true },
    { path := .text "lib", name := .text "lib" }]
  functions := [
    { id := .text "main.main", name := .text "main", package := .text "main", std := true },
    { id := .text "lib.f", name := .text "f", package := .text "lib" }]
  calls := [{ caller := .text "main.main", callee := .text "lib.f" },
    { caller := .text "lib.f", callee := .text "lib.f" }]
  entryPoints := [.text "main.main"]
  program := .text ""

/-- When the only caller from outside is hidden, no limit is generous enough for a function that
calls itself, which is shown without limit. -/
theorem generous_limit_drops_orphan :
    orphan.functions.length ≤ 9 ∧
      orphan.view { hideStd := true, limit := ["lib"], limitDepth := 9 } none =
        .error .nothingLeft ∧
      (orphan.view { hideStd := true, limit := [], limitDepth := 9 } none).toOption.map View.ids =
        some [.text "lib.f"] := by
  refine ⟨by decide, ?_, ?_⟩
  · cbv
  · cbv

end Analysis

end CallAtlas
