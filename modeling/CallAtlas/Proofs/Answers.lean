import CallAtlas.Http.Routes
import CallAtlas.Proofs.Outcomes
import CallAtlas.Proofs.Refusals

set_option autoImplicit false

/-!
# Answers of the routes

What the two routes answer about an analysis that was loaded. A request for no view is refused by
both with the reason. Otherwise the DOT text is always answered; the image is answered if the
launcher makes one and refused if there is no launcher, and a launcher that fails makes the route
fail.
-/

namespace CallAtlas

namespace Analysis

/-- The candidates of an ambiguous focus are the paths of the packages that are called so, in
order. -/
theorem candidates_of_focus? {a : Analysis} (hc : a.Catalogued) {token known : String}
    {paths : List Atom} (h : a.focus? token = .error (.ambiguous known paths)) :
    known = token ∧ paths.Pairwise (fun p q => p.le q) ∧
      paths.Perm ((a.packagesCalled known).map Package.path) := by
  have finds := finds_focus? hc token
  generalize a.focus? token = answer at finds h
  cases finds with
  | several =>
    cases h
    exact ⟨rfl, Atom.pairwise_sorted _, (Atom.sorted_perm _).trans (Atom.sorted_perm _)⟩
  | lost => split at h <;> cases h
  | _ => cases h

theorem nodup_paths_packagesCalled {a : Analysis} (hc : a.Catalogued) {token : String} :
    ((a.packagesCalled token).map Package.path).Nodup := by
  have keys : ((a.packagesCalled token).map Package.path).map Atom.key =
      (a.packagesCalled token).map Package.key := by
    rw [List.map_map]
    rfl
  refine List.Nodup.of_map Atom.key ?_
  rw [keys]
  exact hc.nodup_paths.sublist (List.filter_sublist.map Package.key)

theorem paths_of_focus? {a : Analysis} (hc : a.Catalogued) {token known : String}
    {paths : List String} (h : a.focus? token = .error (.ambiguous known (paths.map .text))) :
    known = token ∧ paths.Pairwise (· < ·) ∧ ∀ path, path ∈ paths ↔
      ∃ p ∈ a.packages, p.path = .text path ∧ p.name = .text known := by
  obtain ⟨rfl, ordered, called⟩ := candidates_of_focus? hc h
  have nodup := called.nodup_iff.2 (nodup_paths_packagesCalled hc)
  refine ⟨rfl, ?_, fun path => ?_⟩
  · have apart := List.pairwise_map.1 nodup
    refine ((List.pairwise_map.1 ordered).and apart).imp fun {s t} h => ?_
    exact lt_of_le_of_ne (not_lt.1 (Atom.le_text.1 h.1)) fun same => h.2 (congrArg _ same)
  · have mem := called.mem_iff (a := .text path)
    simp only [List.mem_map, mem_packagesCalled, Package.isCalled, decide_eq_true_iff,
      Json.text?_eq_some, Atom.text.injEq, exists_eq_right] at mem
    simpa only [and_assoc, and_comm, and_left_comm] using mem

end Analysis

namespace Session

variable {s : Session} {o : Settings}

theorem focus?_of_view {e : TokenError} (h : s.view o = .error (.focus e)) :
    s.analysis.focus? (Text.trim o.focus) = .error e := by
  cases selected : o.select with
  | error e => simp [view, request, selected] at h
  | ok selection =>
    rw [view, request_of_select selected] at h
    cases found : s.analysis.focus? (Text.trim o.focus) with
    | error e => simpa [found] using h
    | ok focus =>
      simp only [found] at h
      split at h <;> simp at h

theorem isText_candidates (hc : s.analysis.Catalogued) {e : RequestError}
    (h : s.view o = .error e) : ∀ path ∈ e.candidates, path.isText := by
  match e with
  | .focus (.ambiguous known paths) =>
    obtain ⟨-, -, called⟩ := Analysis.candidates_of_focus? hc (focus?_of_view h)
    exact fun path hp => Analysis.isText_packagesCalled hc path (called.mem_iff.1 hp)
  | .focus (.unknownPath _) | .focus (.unknownName _) | .focus .unordered | .settings _ |
    .processing _ => exact fun _ hp => nomatch hp

end Session

namespace Http

def refusal (message : String) (paths : List String) : Response :=
  ⟨400, "text/plain", Text.Utf8.encode ("\n".intercalate (message :: paths.map (" - " ++ ·)))⟩

/-- What the routes answer to the values of a request, with one program installed or none. -/
structure Answers (s : Session) (installed : Option Dot.Launcher) (values : Form) : Prop where
  refused : ∀ e, s.view (s.settingsFor values) = .error e →
    ∃ message paths, e.Tells message (paths.map .text) ∧
      dotRoute s values = .ok (refusal message paths) ∧
      imageRoute s installed values = .ok (refusal message paths)
  candidates : ∀ token (paths : List String),
    s.view (s.settingsFor values) = .error (.focus (.ambiguous token (paths.map .text))) →
      token = Text.trim (s.settingsFor values).focus ∧ paths.Pairwise (· < ·) ∧ ∀ path,
        path ∈ paths ↔ ∃ p ∈ s.analysis.packages, p.path = .text path ∧ p.name = .text token
  drawn : ∀ v, s.view (s.settingsFor values) = .ok v →
    ∃ text, s.render (s.settingsFor values) = .ok text ∧
      dotRoute s values = .ok ⟨200, "text/vnd.graphviz", text⟩
  missing : ∀ v, s.view (s.settingsFor values) = .ok v →
    (∀ l, installed = some l → l.name ≠ "dot") → imageRoute s installed values =
      .ok ⟨501, "text/plain", Text.Utf8.encode "Graphviz launcher not found: dot"⟩
  made : ∀ v l, s.view (s.settingsFor values) = .ok v →
    installed = some l → l.name = "dot" → l.status = 0 →
      imageRoute s installed values = .ok ⟨200, "image/svg+xml", l.output⟩
  failed : ∀ v l, s.view (s.settingsFor values) = .ok v →
    installed = some l → l.name = "dot" → l.status ≠ 0 →
      imageRoute s installed values = .error (.launch (.failed "dot" l.status
        (Text.trim (Text.Utf8.decodeLossy l.complaint))))

theorem find?_of_named {l : Dot.Launcher} (named : l.name = "dot") :
    Dot.Launcher.find? (some l) Dot.defaultBinary = some l := by
  simp [Dot.Launcher.find?, Dot.defaultBinary, named]

theorem find?_of_other {installed : Option Dot.Launcher}
    (other : ∀ l, installed = some l → l.name ≠ "dot") :
    Dot.Launcher.find? installed Dot.defaultBinary = none := by
  rw [Dot.Launcher.find?, Option.filter_eq_none_iff]
  intro l hl
  simp [Dot.defaultBinary, other l hl]

theorem run_of_missing {installed : Option Dot.Launcher} {binary format : String}
    (h : Dot.Launcher.find? installed binary = none) :
    Dot.Launcher.run installed binary format = .error (.notFound binary) := by
  rw [Dot.Launcher.run, h]

theorem run_of_found {installed : Option Dot.Launcher} {binary format : String} {l : Dot.Launcher}
    (h : Dot.Launcher.find? installed binary = some l) (format_ok : '\x00' ∉ format.toList) :
    Dot.Launcher.run installed binary format =
      if l.status = 0 then .ok l.output
      else .error (.failed binary l.status (Text.trim (Text.Utf8.decodeLossy l.complaint))) := by
  rw [Dot.Launcher.run, h]
  exact if_neg format_ok

section

variable {s : Session} {values : Form} {e : RequestError} {message : String} {paths : List String}

theorem drawing_of_error (h : s.view (s.settingsFor values) = .error e)
    (told : e.Tells message (paths.map .text)) :
    drawing s values = .ok (.error (refusal message paths)) := by
  obtain ⟨foreseen, rfl, candidates⟩ := RequestError.tells_iff.1 told
  simp only [drawing, Session.render, h, foreseen, plain, refusal, e.text_eq candidates]

theorem drawing_of_render {text : Text.Bytes} (h : s.render (s.settingsFor values) = .ok text) :
    drawing s values = .ok (.ok text) := by
  simp only [drawing, h]

theorem dotRoute_of_error (h : s.view (s.settingsFor values) = .error e)
    (told : e.Tells message (paths.map .text)) :
    dotRoute s values = .ok (refusal message paths) := by
  rw [dotRoute, drawing_of_error h told]
  rfl

theorem imageRoute_of_error {installed : Option Dot.Launcher}
    (h : s.view (s.settingsFor values) = .error e) (told : e.Tells message (paths.map .text)) :
    imageRoute s installed values = .ok (refusal message paths) := by
  rw [imageRoute, drawing_of_error h told]
  rfl

theorem imageRoute_of_render {installed : Option Dot.Launcher} {text : Text.Bytes}
    (h : s.render (s.settingsFor values) = .ok text) :
    imageRoute s installed values =
      match Dot.Launcher.run installed Dot.defaultBinary Dot.defaultFormat with
      | .ok image => .ok ⟨200, "image/svg+xml", image⟩
      | .error (.notFound binary) => .ok (plain 501 (Dot.LaunchError.notFound binary).message)
      | .error e => .error (.launch e) := by
  rw [imageRoute, drawing_of_render h]
  rfl

end

theorem answers_of_view {s : Session} (ha : s.analysis.WellFormed) (ht : s.analysis.Textual)
    (hc : s.analysis.Catalogued) (program : s.analysis.program.isGiven → s.analysis.program.isText)
    (installed : Option Dot.Launcher) (values : Form) : Answers s installed values := by
  have told {e : RequestError} (he : s.view (s.settingsFor values) = .error e) :
      ∃ message, ∃ paths : List String, e.Tells message (paths.map .text) := by
    obtain ⟨names, candidates⟩ := Atom.exists_map_text (Session.isText_candidates hc he)
    have tells := RequestError.tells_of_misfit?_eq_none (Session.misfit?_of_view ha ht hc he)
    exact ⟨_, names, candidates ▸ tells⟩
  have rendered {v : View} (hv : s.view (s.settingsFor values) = .ok v) :
      ∃ text, s.render (s.settingsFor values) = .ok text := by
    obtain ⟨text, ht⟩ := (Session.presentable_of_view ha ht hc program hv).text
    exact ⟨Text.Utf8.encode text, by simp only [Session.render, hv, ht]⟩
  have plainFormat : '\x00' ∉ Dot.defaultFormat.toList := by decide
  refine ⟨fun e he => ?_, fun token paths he => ?_, fun v hv => ?_, fun v hv none => ?_,
    fun v l hv here named status => ?_, fun v l hv here named status => ?_⟩
  · obtain ⟨message, paths, tells⟩ := told he
    exact ⟨message, paths, tells, dotRoute_of_error he tells, imageRoute_of_error he tells⟩
  · exact Analysis.paths_of_focus? hc (Session.focus?_of_view he)
  · obtain ⟨text, hr⟩ := rendered hv
    refine ⟨text, hr, ?_⟩
    rw [dotRoute, drawing_of_render hr]
    rfl
  · obtain ⟨text, hr⟩ := rendered hv
    rw [imageRoute_of_render hr, run_of_missing (find?_of_other none)]
    rfl
  · obtain ⟨text, hr⟩ := rendered hv
    rw [imageRoute_of_render hr, here, run_of_found (find?_of_named named) plainFormat,
      if_pos status]
  · obtain ⟨text, hr⟩ := rendered hv
    rw [imageRoute_of_render hr, here, run_of_found (find?_of_named named) plainFormat,
      if_neg status]
    rfl

namespace Answers

variable {s : Session} {installed : Option Dot.Launcher} {values : Form}
  (h : Answers s installed values)

include h

theorem exists_dotRoute : ∃ response, dotRoute s values = .ok response := by
  cases view : s.view (s.settingsFor values) with
  | error e =>
    obtain ⟨message, paths, -, answer, -⟩ := h.refused e view
    exact ⟨_, answer⟩
  | ok v =>
    obtain ⟨text, -, answer⟩ := h.drawn v view
    exact ⟨_, answer⟩

theorem dotRoute_refuses_iff :
    (∃ response, dotRoute s values = .ok response ∧ response.status = 400) ↔
      ∃ e, s.view (s.settingsFor values) = .error e := by
  cases view : s.view (s.settingsFor values) with
  | error e =>
    obtain ⟨message, paths, -, answer, -⟩ := h.refused e view
    simp [answer, refusal]
  | ok v =>
    obtain ⟨text, -, answer⟩ := h.drawn v view
    simp [answer]

theorem imageRoute_cases :
    (∃ e message paths, s.view (s.settingsFor values) = .error e ∧
      imageRoute s installed values = .ok (refusal message paths)) ∨
    ∃ v, s.view (s.settingsFor values) = .ok v ∧
      (((∀ l, installed = some l → l.name ≠ "dot") ∧ imageRoute s installed values =
        .ok ⟨501, "text/plain", Text.Utf8.encode "Graphviz launcher not found: dot"⟩) ∨
      ∃ l, installed = some l ∧ l.name = "dot" ∧
        ((l.status = 0 ∧ imageRoute s installed values = .ok ⟨200, "image/svg+xml", l.output⟩) ∨
          (l.status ≠ 0 ∧ ∃ failure, imageRoute s installed values = .error failure))) := by
  cases view : s.view (s.settingsFor values) with
  | error e =>
    obtain ⟨message, paths, -, -, answer⟩ := h.refused e view
    exact .inl ⟨e, message, paths, rfl, answer⟩
  | ok v =>
    refine .inr ⟨v, rfl, ?_⟩
    by_cases other : ∀ l, installed = some l → l.name ≠ "dot"
    · exact .inl ⟨other, h.missing v view other⟩
    · simp only [not_forall, not_not] at other
      obtain ⟨l, here, named⟩ := other
      refine .inr ⟨l, here, named, ?_⟩
      by_cases status : l.status = 0
      · exact .inl ⟨status, h.made v l view here named status⟩
      · exact .inr ⟨status, _, h.failed v l view here named status⟩

theorem imageRoute_refuses_iff :
    (∃ response, imageRoute s installed values = .ok response ∧ response.status = 400) ↔
      ∃ e, s.view (s.settingsFor values) = .error e := by
  obtain ⟨e, message, paths, view, answer⟩ | ⟨v, view, ⟨-, answer⟩ |
    ⟨l, -, -, ⟨-, answer⟩ | ⟨-, failure, answer⟩⟩⟩ := h.imageRoute_cases <;>
      simp [view, answer, refusal]

theorem imageRoute_draws_iff :
    (∃ response, imageRoute s installed values = .ok response ∧ response.status = 200) ↔
      (∃ v, s.view (s.settingsFor values) = .ok v) ∧
        ∃ l, installed = some l ∧ l.name = "dot" ∧ l.status = 0 := by
  obtain ⟨e, message, paths, view, answer⟩ | ⟨v, view, ⟨other, answer⟩ |
    ⟨l, rfl, named, ⟨status, answer⟩ | ⟨status, failure, answer⟩⟩⟩ := h.imageRoute_cases
  · simp [view, answer, refusal]
  · simpa [view, answer] using fun l here named => absurd named (other l here)
  · simp [view, answer, named, status]
  · simp [view, answer, status]

theorem imageRoute_fails_iff :
    (∃ failure, imageRoute s installed values = .error failure) ↔
      (∃ v, s.view (s.settingsFor values) = .ok v) ∧
        ∃ l, installed = some l ∧ l.name = "dot" ∧ l.status ≠ 0 := by
  obtain ⟨e, message, paths, view, answer⟩ | ⟨v, view, ⟨other, answer⟩ |
    ⟨l, rfl, named, ⟨status, answer⟩ | ⟨status, failure, answer⟩⟩⟩ := h.imageRoute_cases
  · simp [view, answer]
  · simpa [view, answer] using fun l here named => absurd named (other l here)
  · simp [view, answer, status]
  · simp [view, answer, named, status]

end Answers

end Http

namespace Document.WellTyped

/-- What the routes answer about what is loaded from a well typed document. The route for DOT texts
always answers, since texts are made of characters and so have bytes, and the one for images answers
unless a launcher is found that fails. -/
theorem answers_of_load {d : Document} (hd : d.WellTyped) {a : Analysis} (h : d.load = .ok a)
    (baseline : Settings) (installed : Option Dot.Launcher) (values : Form) :
    Http.Answers ⟨a, baseline⟩ installed values ∧
    (∃ response, Http.dotRoute ⟨a, baseline⟩ values = .ok response) ∧
    ((∃ response, Http.dotRoute ⟨a, baseline⟩ values = .ok response ∧ response.status = 400) ↔
      ∃ e, (Session.mk a baseline).view (baseline.revised values) = .error e) ∧
    ((∃ response, Http.imageRoute ⟨a, baseline⟩ installed values = .ok response ∧
        response.status = 400) ↔
      ∃ e, (Session.mk a baseline).view (baseline.revised values) = .error e) ∧
    ((∃ response, Http.imageRoute ⟨a, baseline⟩ installed values = .ok response ∧
        response.status = 200) ↔
      (∃ v, (Session.mk a baseline).view (baseline.revised values) = .ok v) ∧
        ∃ l, installed = some l ∧ l.name = "dot" ∧ l.status = 0) ∧
    ((∃ failure, Http.imageRoute ⟨a, baseline⟩ installed values = .error failure) ↔
      (∃ v, (Session.mk a baseline).view (baseline.revised values) = .ok v) ∧
        ∃ l, installed = some l ∧ l.name = "dot" ∧ l.status ≠ 0) := by
  have answers := Http.answers_of_view (s := ⟨a, baseline⟩) (hd.wellFormed_of_load h)
    (hd.textual_of_load h) (hd.catalogued_of_load h) (hd.program_of_load h) installed values
  exact ⟨answers, answers.exists_dotRoute, answers.dotRoute_refuses_iff,
    answers.imageRoute_refuses_iff, answers.imageRoute_draws_iff, answers.imageRoute_fails_iff⟩

end Document.WellTyped

namespace Document

theorem view_patchwork :
    ∃ a v, (ofFields patchwork).load = .ok a ∧
      (Session.mk a {}).view (({} : Settings).revised ⟨[]⟩) = .ok v := by
  have parts : (ofFields patchwork).load.toOption.map (fun a =>
      ((Session.mk a {}).view (({} : Settings).revised ⟨[]⟩)).toOption.map View.ids) =
      some (some [.text "app.main", .text "log."]) := by cbv
  obtain ⟨a, ha, ids⟩ := exists_ok_of_map parts
  obtain ⟨v, hv, -⟩ := exists_ok_of_map ids
  exact ⟨a, v, ha, hv⟩

/-- Two packages are called `log`, and the path of one package is the name of another. -/
def lookalikes : List (String × Json) :=
  [("packages", .array [
      .object [("path", .text "util"), ("name", .text "lib")],
      .object [("path", .text "b/log")],
      .object [("path", .text "a/log"), ("name", .text "log")],
      .object [("path", .text "c"), ("name", .text "util")],
      .object [("path", .text "app"), ("name", .text "main")]]),
    ("functions", .array [
      .object [("id", .text "app.main"), ("package", .text "app")],
      .object [("id", .text "lone"), ("package", .text "")]])]

theorem answers_of_load_lookalikes :
    (ofFields patchwork).WellTyped ∧ (ofFields lookalikes).WellTyped ∧
      (∃ a, (ofFields patchwork).load = .ok a ∧
        (∃ text, Http.dotRoute ⟨a, {}⟩ ⟨[]⟩ = .ok ⟨200, "text/vnd.graphviz", text⟩) ∧
        Http.imageRoute ⟨a, {}⟩ none ⟨[]⟩ =
          .ok ⟨501, "text/plain", Text.Utf8.encode "Graphviz launcher not found: dot"⟩ ∧
        Http.imageRoute ⟨a, {}⟩ (some { name := "dot", output := [60, 62] }) ⟨[]⟩ =
          .ok ⟨200, "image/svg+xml", [60, 62]⟩) ∧
      ∃ a, (ofFields lookalikes).load = .ok a ∧
        Http.dotRoute ⟨a, {}⟩ ⟨[("f", some "log")]⟩ = .ok ⟨400, "text/plain", Text.Utf8.encode
          "focus failed, found multiple packages with name: log\n - a/log\n - b/log"⟩ := by
  have typed : (ofFields lookalikes).WellTyped := by decide
  obtain ⟨a, v, ha, hv⟩ := view_patchwork
  have answers (installed) := (wellTyped_patchwork.answers_of_load ha {} installed ⟨[]⟩).1
  obtain ⟨text, -, drawn⟩ := (answers none).drawn v hv
  have found : (ofFields lookalikes).load.toOption.map (fun a =>
      (Session.mk a {}).view (({} : Settings).revised ⟨[("f", some "log")]⟩)) =
      some (.error (.focus (.ambiguous "log" [.text "a/log", .text "b/log"]))) := by cbv
  obtain ⟨b, hb, ambiguous⟩ := exists_ok_of_map found
  obtain ⟨message, paths, tells, refused, -⟩ :=
    (typed.answers_of_load hb {} none ⟨[("f", some "log")]⟩).1.refused _ ambiguous
  obtain ⟨-, words, candidates⟩ := RequestError.tells_iff.1 tells
  obtain rfl : ["a/log", "b/log"] = paths :=
    List.map_injective_iff.2 (fun _ _ => Atom.text.inj) candidates
  have told : "focus failed, found multiple packages with name: " ++ "log" = message := words
  have body : "\n".intercalate [message, " - a/log", " - b/log"] =
      "focus failed, found multiple packages with name: log\n - a/log\n - b/log" := by
    simp only [← told, String.intercalate_cons_cons, String.intercalate_singleton,
      String.reduceAppend]
  have nobody (l : Dot.Launcher) : Option.none = some l → l.name ≠ "dot" := by
    intro here
    cases here
  refine ⟨wellTyped_patchwork, typed, ⟨a, ha, ⟨text, drawn⟩, (answers none).missing v hv nobody,
    (answers _).made v _ hv rfl rfl rfl⟩, b, hb, refused.trans ?_⟩
  simp only [Http.refusal, List.map_cons, List.map_nil, String.reduceAppend, body]

def failingLauncher : Dot.Launcher :=
  { name := "dot", status := 1, complaint := Text.Utf8.encode "boom" }

/-- The route for images does not answer when the launcher fails. -/
theorem imageRoute_fails_patchwork :
    (ofFields patchwork).WellTyped ∧
      ∃ a, (ofFields patchwork).load = .ok a ∧
        ∀ response, Http.imageRoute ⟨a, {}⟩ (some failingLauncher) ⟨[]⟩ ≠ .ok response := by
  obtain ⟨a, v, ha, hv⟩ := view_patchwork
  have answers := Http.answers_of_view (s := ⟨a, {}⟩) (wellTyped_patchwork.wellFormed_of_load ha)
    (wellTyped_patchwork.textual_of_load ha) (wellTyped_patchwork.catalogued_of_load ha)
    (wellTyped_patchwork.program_of_load ha) (some failingLauncher) ⟨[]⟩
  have failed := answers.failed v failingLauncher hv rfl rfl (by decide)
  refine ⟨wellTyped_patchwork, a, ha, fun response answer => ?_⟩
  cases failed.symm.trans answer

end Document

end CallAtlas
