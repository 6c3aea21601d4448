import CallAtlas.Session

set_option autoImplicit false

/-!
# What a refusal says

The words of the refusals of a request, and the paths that come with one: those that an ambiguous focus
may stand for. A request that meets a value it cannot deal with is not refused but fails.
-/

namespace CallAtlas.RequestError

/-- The message of a refusal and the paths it offers. -/
inductive Tells : RequestError → String → List Atom → Prop where
  | group (key : String) :
    Tells (.settings (.invalidGroup key)) ("invalid group option: " ++ key) []
  | depth (n : Int) :
    Tells (.settings (.invalidLimitDepth n)) ("invalid limit depth: " ++ toString n) []
  | path (token : String) :
    Tells (.focus (.unknownPath token)) ("focus failed, package path not found: " ++ token) []
  | name (token : String) :
    Tells (.focus (.unknownName token)) ("focus failed, could not find package: " ++ token) []
  | several (token : String) (paths : List Atom) :
    Tells (.focus (.ambiguous token paths))
      ("focus failed, found multiple packages with name: " ++ token) paths
  | emptied (path : Atom) :
    Tells (.processing (.focusEmptied path))
      ("processing failed: focus package " ++ path.inSentence ++
        " has no functions left after filtering") []
  | nothing :
    Tells (.processing .nothingLeft)
      "processing failed: no functions left to render after filtering" []

inductive FailsWith : RequestError → Misfit → Prop where
  | processing (m : Misfit) : FailsWith (.processing (.misfit m)) m
  | unordered : FailsWith (.focus .unordered) .severalKinds

variable {e : RequestError} {message : String} {paths : List Atom} {m : Misfit}

theorem failsWith_iff : e.FailsWith m ↔ e.misfit? = some m := by
  constructor
  · rintro (⟨m⟩ | -) <;> rfl
  · intro h
    match e, h with
    | .processing (.misfit _), rfl => exact .processing _
    | .focus .unordered, rfl => exact .unordered

theorem message_emptied (path : Atom) : RequestError.message (.processing (.focusEmptied path)) =
    "processing failed: focus package " ++ path.inSentence ++
      " has no functions left after filtering" := by
  have start : "processing failed: " ++ "focus package " = "processing failed: focus package " := by
    simp only [String.reduceAppend]
  calc
    _ = "processing failed: " ++ ("focus package " ++ path.inSentence ++
        " has no functions left after filtering") := rfl
    _ = "processing failed: " ++ "focus package " ++ path.inSentence ++
        " has no functions left after filtering" := by simp only [String.append_assoc]
    _ = _ := by rw [start]

theorem message_nothing : RequestError.message (.processing .nothingLeft) =
    "processing failed: no functions left to render after filtering" := by decide

theorem tells_of_misfit?_eq_none (h : e.misfit? = none) : e.Tells e.message e.candidates := by
  match e with
  | .settings (.invalidGroup key) => exact .group key
  | .settings (.invalidLimitDepth n) => exact .depth n
  | .focus (.unknownPath token) => exact .path token
  | .focus (.unknownName token) => exact .name token
  | .focus (.ambiguous token paths) => exact .several token paths
  | .focus .unordered => cases h
  | .processing (.focusEmptied path) => exact message_emptied path ▸ .emptied path
  | .processing .nothingLeft => exact message_nothing ▸ .nothing
  | .processing (.misfit _) => cases h

theorem tells_iff : e.Tells message paths ↔
    e.misfit? = none ∧ e.message = message ∧ e.candidates = paths := by
  constructor
  · rintro (key | n | token | token | ⟨token, paths⟩ | path | -)
    case emptied => exact ⟨rfl, message_emptied path, rfl⟩
    case nothing => exact ⟨rfl, message_nothing, rfl⟩
    all_goals exact ⟨rfl, rfl, rfl⟩
  · rintro ⟨known, rfl, rfl⟩
    exact tells_of_misfit?_eq_none known

/-- The paths stand behind the message on lines of their own. -/
theorem text_eq {names : List String} (h : e.candidates = names.map .text) :
    e.text = "\n".intercalate (e.message :: names.map (" - " ++ ·)) := by
  have lines (message : String) : message ++ String.join
      ((names.map Atom.text).map fun path => "\n - " ++ path.inSentence) =
        "\n".intercalate (message :: names.map (" - " ++ ·)) := by
    clear h
    induction names generalizing message with
    | nil => simp
    | cons name names ih =>
      rw [List.map_cons, List.map_cons, List.map_cons, String.join_cons,
        String.intercalate_cons_cons, ← ih]
      have start : "\n" ++ " - " = "\n - " := by decide
      rw [← start, Atom.inSentence_text]
      simp only [String.append_assoc]
  rw [text, h, lines]

end CallAtlas.RequestError
