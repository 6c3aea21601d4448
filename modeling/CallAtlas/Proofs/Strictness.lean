import CallAtlas.Proofs.Parts

set_option autoImplicit false

/-!
# Stricter selections

A selection that ignores more, includes less, limits more packages or shows fewer levels of them
shows a part of what the other one shows. More limited packages move the boundary that levels are
counted from: a function on the first level may no longer be there. But a path of limited functions
enters the fewer packages at some point, and from there it is no longer than before.
-/

namespace CallAtlas

theorem Atom.startsWithAny_mono {few many : List String} (more : ∀ x ∈ few, x ∈ many) {path : Atom}
    (h : path.startsWithAny few = true) : path.startsWithAny many = true := by
  obtain ⟨s, hs, hp⟩ := (Option.any_eq_true _ _).1 h
  obtain ⟨x, hx, hp⟩ := List.any_eq_true.1 hp
  exact (Option.any_eq_true _ _).2 ⟨s, hs, List.any_eq_true.2 ⟨x, more x hx, hp⟩⟩

namespace Outline

variable {o : Outline} {few many : List String}

theorem IsLimited.mono (more : ∀ x ∈ few, x ∈ many) {id : Atom} (h : o.IsLimited few id) :
    o.IsLimited many id := by
  obtain ⟨f, hf, hs, hi⟩ := h
  exact ⟨f, hf, Atom.startsWithAny_mono more hs, hi⟩

/-- A path through limited functions that ends in one of the fewer limited packages runs through
these all the way, or enters them at a function that is on their first level. -/
theorem exists_isFirst_of_steps (starts : List Atom) {n : Nat} {u v : Atom}
    (h : Steps (o.LimitedCall many) n u v) (hv : o.IsLimited few v) :
    (o.IsLimited few u ∧ Steps (o.LimitedCall few) n u v) ∨
      ∃ w, o.IsFirst few starts w ∧ ∃ m ≤ n, Steps (o.LimitedCall few) m w v := by
  induction h with
  | stay u => exact .inl ⟨hv, .stay u⟩
  | @step n a b c hc _ ih =>
    rcases ih hv with ⟨hb, hs⟩ | ⟨w, hw, m, hm, hs⟩
    -- The path stays in the fewer packages from `b` on; the step into `b` may be where it enters.
    · by_cases inside : o.IsLimited few a
      · exact .inl ⟨inside, .step ⟨hc.1, hb⟩ hs⟩
      · exact .inr ⟨b, ⟨hb, .inr (.inr ⟨a, hc.1, inside⟩)⟩, n, Nat.le_succ n, hs⟩
    · exact .inr ⟨w, hw, m, Nat.le_succ_of_le hm, hs⟩

theorem has_shallow_mono (more : ∀ x ∈ few, x ∈ many) {starts : List Atom} {low high : Nat}
    (deeper : low ≤ high) {f : Function}
    (h : (o.shallow many starts low).has f) : (o.shallow few starts high).has f := by
  refine ⟨h.1, fun limited => ?_⟩
  obtain ⟨u, ⟨-, first⟩, n, hn, hs⟩ := h.2 (limited.mono more)
  have enough {m : Nat} (hm : m ≤ n) : m ≤ high - 1 := by omega
  rcases exists_isFirst_of_steps starts hs limited with ⟨hu, hs⟩ | ⟨w, hw, m, hm, hs⟩
  · have outside (x : Atom) (hx : ¬ o.IsLimited many x) : ¬ o.IsLimited few x :=
      fun k => hx (k.mono more)
    have first : o.IsFirst few starts u :=
      ⟨hu, first.imp_right (Or.imp_right fun ⟨x, hc, hx⟩ => ⟨x, hc, outside x hx⟩)⟩
    exact ⟨u, first, n, enough (Nat.le_refl n), hs⟩
  · exact ⟨w, hw, m, enough hm, hs⟩

end Outline

namespace Selection

/-- The selection `t` hides what `s` hides, and maybe more. -/
structure Stricter (t s : Selection) : Prop where
  group : t.group = s.group
  hideStd : t.hideStd = s.hideStd
  hideWrappers : t.hideWrappers = s.hideWrappers
  ignore : ∀ x ∈ s.ignore, x ∈ t.ignore
  only : ∀ path : String,
    CallGraph.passes [] t.only (.text path) → CallGraph.passes [] s.only (.text path)
  limit : ∀ x ∈ s.limit, x ∈ t.limit
  limitDepth : t.limitDepth ≤ s.limitDepth

namespace Stricter

variable {t s : Selection} (h : t.Stricter s) {a : Analysis} {f : Function}

include h

theorem direct_eq (a : Analysis) : t.direct a = s.direct a := by
  rw [direct, direct, authored, authored, h.hideStd, h.hideWrappers]

theorem has_shallow (hf : (t.shallow a).has f) : (s.shallow a).has f := by
  have direct : (s.direct a).has f := h.direct_eq a ▸ direct_of_shallow hf
  unfold shallow at hf ⊢
  rw [h.direct_eq] at hf
  split
  · exact direct
  · rename_i some
    obtain ⟨x, hx⟩ := List.exists_mem_of_ne_nil _ some
    rw [if_neg (List.ne_nil_of_mem (h.limit x hx))] at hf
    exact Outline.has_shallow_mono h.limit h.limitDepth hf

theorem has_passing (ht : a.Textual) (hf : (t.passing a).has f) : (s.passing a).has f := by
  obtain ⟨hf, ignored, included⟩ := hf
  have known := h.has_shallow hf
  obtain ⟨path, hp⟩ := Atom.isText_iff.1 (ht.packages f (mem_of_shallow known))
  have passes {only : List String} :
      CallGraph.passes [] only (.text path) ↔
        only = [] ∨ (Atom.text path).startsWithAny only = true := by
    simp [CallGraph.passes, Atom.startsWithAny, Atom.text?, Text.startsWithAny]
  refine ⟨known, ?_, ?_⟩
  · rw [← Bool.not_eq_true] at ignored ⊢
    exact fun k => ignored (Atom.startsWithAny_mono h.ignore k)
  · rw [hp] at included ⊢
    exact passes.1 (h.only path (passes.2 included))

end Stricter

end Selection

namespace Stages

variable {a : Analysis} (ha : a.WellFormed) (ht : a.Textual) {t s : Selection} (h : t.Stricter s)
  (focus : Option Atom)

include ha ht h

theorem filtered_of_stricter {f : Function} (hf : f ∈ (run a t none).shown.functions) :
    f ∈ (run a s none).shown.functions :=
  ((fits_shown ha s none).functions f).2
    (h.has_passing ht (((fits_shown ha t none).functions f).1 hf))

theorem shown_of_stricter {f : Function} (hf : f ∈ (run a t focus).shown.functions) :
    f ∈ (run a s focus).shown.functions := by
  cases focus with
  | none => exact filtered_of_stricter ha ht h hf
  | some path =>
    have part : (run a t none).shown.Induced (run a s none).shown :=
      induced_of_functions ha h.hideStd h.hideWrappers fun _ => filtered_of_stricter ha ht h
    have calls (u v : Atom) (hc : (t.passing a).calls u v) : (s.passing a).calls u v :=
      part.calls_mono (fits_shown ha t none) (fits_shown ha s none) hc
    obtain ⟨hf, m, hm, hp, path⟩ := ((fits_shown ha t (some path)).functions f).1 hf
    refine ((fits_shown ha s (some _)).functions f).2
      ⟨h.has_passing ht hf, m, h.has_passing ht hm, hp, ?_⟩
    exact path.imp (Relation.ReflTransGen.mono calls _ _) (Relation.ReflTransGen.mono calls _ _)

end Stages

namespace Analysis

variable {a : Analysis}

/-- If a stricter selection has a view, the other one has one too, and the stricter view is the part
of it between its nodes. -/
theorem view_of_stricter (ha : a.WellFormed) (ht : a.Textual) {t s : Selection} (h : t.Stricter s)
    {focus : Option Atom} {w : View} (hw : a.view t focus = .ok w) :
    ∃ v, a.view s focus = .ok v ∧ w.PartOf v := by
  have fewer (f : Function) := Stages.shown_of_stricter ha ht h focus (f := f)
  have part := Stages.induced_of_functions ha h.hideStd h.hideWrappers fewer
  obtain ⟨⟨id, names⟩, rfl⟩ := (view_eq_ok_iff ha ht t focus).1 hw
  have shown : (s.shown a focus).names id :=
    (Stages.fits_shown ha s focus).names.2
      (part.ids id ((Stages.fits_shown ha t focus).names.1 names))
  refine ⟨_, (view_eq_ok_iff ha ht s focus).2 ⟨⟨id, shown⟩, rfl⟩, ?_⟩
  rw [h.group]
  exact View.partOf_ofGraph (Stages.wellFormed_shown ha t focus)
    (Stages.wellFormed_shown ha s focus) fewer part
    fun e he => (Stages.isText_ends ha ht s focus he).2

def twoLevels : Selection := { hideWrappers := true, limit := ["lib"], limitDepth := 2 }

def twoLevelsInAll : Selection :=
  { twoLevels with ignore := ["fmt"], only := ["app", "lib"], limit := ["lib", "app"] }

theorem view_of_stricter_relay :
    relay.WellFormed ∧ relay.Textual ∧ twoLevelsInAll.Stricter twoLevels ∧
      ∃ w v, relay.view twoLevelsInAll none = .ok w ∧ relay.view twoLevels none = .ok v ∧
        w.ids = [.text "app.main", .text "lib.run"] ∧ w.PartOf v := by
  have stricter : twoLevelsInAll.Stricter twoLevels :=
    ⟨rfl, rfl, rfl, by decide, fun _ _ => rfl, by decide, by decide⟩
  have ids : (relay.view twoLevelsInAll none).toOption.map View.ids =
      some [.text "app.main", .text "lib.run"] := by cbv
  obtain ⟨w, hw, ids⟩ := exists_ok_of_map ids
  obtain ⟨v, hv, part⟩ := view_of_stricter wellFormed_relay textual_relay stricter hw
  exact ⟨wellFormed_relay, textual_relay, stricter, w, v, hw, hv, ids, part⟩

end Analysis

end CallAtlas
