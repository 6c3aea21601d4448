import CallAtlas.Explorer
import CallAtlas.Proofs.Arrangement
import CallAtlas.Proofs.Refusals
import CallAtlas.Proofs.Requests

set_option autoImplicit false

/-!
# What the explorer opens on

The controls of the explorer hold the settings of a session in pieces: a list of grouping keys, a
list of toggles, a depth. Put together again they may be written in another way, but they select the
same. So the first diagram is the one that the settings of the session ask for.
-/

namespace CallAtlas

theorem GroupKey.isListPart_text (k : GroupKey) : IsListPart k.text := by
  cases k <;> exact ⟨by decide, by decide, by decide⟩

theorem mem_of_groupKeys {found keys : List GroupKey} {parts : List String}
    (h : groupKeys found parts = .ok keys) : ∀ part ∈ parts, (GroupKey.ofText? part).isSome := by
  induction parts generalizing found with
  | nil => simp
  | cons part parts ih =>
    rw [groupKeys] at h
    cases hk : GroupKey.ofText? part with
    | none => simp [hk] at h
    | some k =>
      rw [hk] at h
      exact List.forall_mem_cons.2 ⟨by simp [hk], ih h⟩

namespace Explorer

open GroupKey

variable {o : Settings} {selection : Selection}

/-- The keys that can be chosen are all keys if the settings are valid, and they are written in the
same order and as often as before. -/
theorem commaList_group_initial (valid : o.select = .ok selection) (layout : String) :
    commaList ({ initial o with arrangement := layout } : Controls).settings.group =
      commaList o.group := by
  have keys : ∀ part ∈ commaList o.group, (ofText? part).isSome := by
    unfold Settings.select groupKeysOf at valid
    cases hk : groupKeys [] (commaList o.group) with
    | error e => simp [hk] at valid
    | ok keys => exact mem_of_groupKeys hk
  have kept : (initial o).group = commaList o.group := List.filter_eq_self.2 keys
  change commaList (",".intercalate (initial o).group) = _
  rw [kept]
  refine commaList_intercalate fun part hp => ?_
  obtain ⟨k, hk⟩ := Option.isSome_iff_exists.1 (keys part hp)
  rw [ofText?_eq_some_iff.1 hk]
  exact isListPart_text k

theorem toggles_initial (o : Settings) :
    (hideStd ∈ (initial o).toggles ↔ o.hideStd) ∧
      (hideWrappers ∈ (initial o).toggles ↔ o.hideWrappers) := by
  have apart : hideStd ≠ hideWrappers := by decide
  unfold initial
  cases o.hideStd <;> cases o.hideWrappers <;> simp [apart, apart.symm]

theorem select_initial (valid : o.select = .ok selection) (layout : String) :
    ({ initial o with arrangement := layout } : Controls).settings.select = o.select := by
  have group := commaList_group_initial valid layout
  -- A depth of zero would give way to the default of the controls.
  have depth : ¬ o.limitDepth < 1 := by
    intro low
    unfold Settings.select at valid
    split at valid
    · cases valid
    · simp [low] at valid
  have zero : o.limitDepth ≠ 0 := by omega
  obtain ⟨std, wrappers⟩ := toggles_initial o
  unfold Settings.select groupKeysOf
  rw [group]
  simp only [Controls.settings, initial] at std wrappers ⊢
  simp [zero, std, wrappers]

end Explorer

theorem Session.view_of_select {s : Session} {o o' : Settings} (h : o.select = o'.select) :
    s.view o = s.view o' := by
  simp only [view, request, h]

namespace Explorer

mutual

/-- What is written in a part of a page, from top to bottom. -/
def Component.contents : Component → List Json
  | .text _ _ content => [content]
  | .group _ children => contentsOf children

def Component.contentsOf : List Component → List Json
  | [] => []
  | c :: cs => c.contents ++ contentsOf cs

end

theorem contentsOf_items (style : Option String) (paths : List Atom) :
    Component.contentsOf (paths.map fun path => .text "Li" style path.toJson) =
      paths.map Atom.toJson := by
  induction paths with
  | nil => rfl
  | cons path paths ih => exact congrArg (path.toJson :: ·) ih

namespace Status

/-- The line that counts what a diagram shows, and names the focus if there is one. -/
inductive Counts (nodes edges : Nat) : Option Atom → String → Prop where
  | whole : Counts nodes edges none (toString nodes ++ " functions, " ++ toString edges ++ " calls")
  | focused (path : String) : path ≠ "" → Counts nodes edges (some (.text path))
    (toString nodes ++ " functions, " ++ toString edges ++ " calls" ++
      (" (focus: " ++ path ++ ")"))

inductive Says : Status → List Json → Prop where
  | shown {nodes edges : Nat} {focus : Option Atom} {line : String} :
    Counts nodes edges focus line → Says (.shown nodes edges focus) [.text line]
  | refused (message : String) (paths : List Atom) :
    Says (.refused message paths) (.text message :: paths.map Atom.toJson)

theorem contents_component (status : Status) {said : List Json} (told : status.Says said) :
    status.component.contents = said := by
  cases told with
  | shown line =>
    cases line with
    | whole => simp [component, Component.contents, summary]
    | focused path given =>
      have shown : (some (Atom.text path)).filter Atom.isGiven = some (.text path) := by
        have isGiven : (Atom.text path).isGiven = true := decide_eq_true given
        rw [Option.filter_some, if_pos isGiven]
      rw [component, Component.contents, summary, shown]
      simp only [Atom.inSentence_text, String.append_assoc]
  | refused message paths =>
    cases paths with
    | nil => rfl
    | cons path paths =>
      have items := contentsOf_items none (path :: paths)
      rw [component, if_neg (by simp), Component.contents, Component.contentsOf,
        Component.contents, Component.contentsOf, Component.contents, items,
        Component.contentsOf, List.append_nil]
      rfl

end Status

/-- An update shows what settings ask a session for, arranged in some layout. -/
structure Shows (s : Session) (o : Settings) (layout : String) (u : Except Misfit Update) :
    Prop where
  shown : ∀ v elements, s.view o = .ok v → v.elements = .ok elements →
    u = .ok ⟨elements, .ofText layout, .shown v.nodes.length v.edges.length v.focus⟩
  refused : ∀ e message paths, s.view o = .error e → e.Tells message paths →
    u = .ok ⟨[], .ofText layout, .refused message paths⟩
  /-- What the explorer cannot deal with it does not hide. -/
  failed : ∀ m, (∃ e, s.view o = .error e ∧ e.FailsWith m) ∨
    (∃ v, s.view o = .ok v ∧ v.elements = .error m) → u = .error m
  said : ∀ w said, u = .ok w → w.status.Says said → w.status.component.contents = said

theorem update_shows (s : Session) (c : Controls) :
    Shows s c.settings c.arrangement (update s c) := by
  refine ⟨?_, ?_, ?_, fun w _ _ told => w.status.contents_component told⟩
  all_goals unfold update
  · intro v elements hv he
    simp only [hv, he]
  · intro e message paths he tells
    obtain ⟨known, rfl, rfl⟩ := RequestError.tells_iff.1 tells
    simp only [he, known]
  · rintro m (⟨e, he, fails⟩ | ⟨v, hv, hm⟩)
    · simp only [he, RequestError.failsWith_iff.1 fails]
    · simp only [hv, hm]

/-- The explorer opens on the view that the settings of its session ask for. -/
theorem update_initial_shows (s : Session) (layout : String) {selection : Selection}
    (valid : s.baseline.select = .ok selection) :
    Shows s s.baseline layout (update s { initial s.baseline with arrangement := layout }) := by
  have shows := update_shows s { initial s.baseline with arrangement := layout }
  have same := Session.view_of_select (s := s) (select_initial valid layout)
  exact ⟨same ▸ shows.shown, same ▸ shows.refused, same ▸ shows.failed, shows.said⟩

def untidy : Settings := { group := " type , pkg,type,", limitDepth := 12, hideStd := true }

def crowded : Analysis :=
  { Analysis.ledger with packages := Analysis.ledger.packages ++
      [{ path := .text "b/log", name := .text "log" },
        { path := .text "a/log", name := .text "log" }] }

/-- The explorer opens on a diagram, or on the packages that an ambiguous focus may stand for. -/
theorem update_initial_shows_ledger :
    (initial untidy).group = ["type", "pkg", "type"] ∧
      (∃ selection, untidy.select = .ok selection) ∧
      (∃ elements, elements.length = 6 ∧
        update ⟨Analysis.ledger, untidy⟩ { initial untidy with arrangement := "cose" } =
          .ok ⟨elements, .cose, .shown 2 1 none⟩) ∧
      (Status.shown 2 1 none).component.contents = [.text "2 functions, 1 calls"] ∧
      update ⟨crowded, { untidy with focus := " log" }⟩
          (initial { untidy with focus := " log" }) =
        .ok ⟨[], .breadthfirst, .refused "focus failed, found multiple packages with name: log"
          [.text "a/log", .text "b/log"]⟩ ∧
      (Status.refused "focus failed, found multiple packages with name: log"
          [.text "a/log", .text "b/log"]).component.contents =
        [.text "focus failed, found multiple packages with name: log", .text "a/log",
          .text "b/log"] := by
  have group : (initial untidy).group = ["type", "pkg", "type"] := by decide
  have valid : ∃ selection, untidy.select = .ok selection := ⟨_, rfl⟩
  have ambiguous : (Session.mk crowded { untidy with focus := " log" }).view
      { untidy with focus := " log" } =
        .error (.focus (.ambiguous "log" [.text "a/log", .text "b/log"])) := by
    cbv
  have parts : ((Session.mk Analysis.ledger untidy).view untidy).toOption.map (fun v =>
      (v.nodes.length, v.edges.length, v.focus, v.elements.toOption.map List.length)) =
      some (2, 1, none, some 6) := by cbv
  obtain ⟨v, hv, parts⟩ := exists_ok_of_map parts
  simp only [Prod.mk.injEq] at parts
  obtain ⟨nodes, edges, focus, elements⟩ := parts
  obtain ⟨elements, he, six⟩ := exists_ok_of_map elements
  have shows := update_initial_shows ⟨Analysis.ledger, untidy⟩ "cose" rfl
  have refuses := update_initial_shows ⟨crowded, { untidy with focus := " log" }⟩
    "breadthfirst" rfl
  have shown := shows.shown v elements hv he
  rw [nodes, edges, focus] at shown
  have refused := refuses.refused _ _ _ ambiguous (.several _ _)
  exact ⟨group, valid, ⟨elements, six, shown⟩, shows.said _ _ shown (.shown .whole), refused,
    refuses.said _ _ refused (.refused _ _)⟩

end Explorer

end CallAtlas
