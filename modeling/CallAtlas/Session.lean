import CallAtlas.Analysis.Lookup
import CallAtlas.Dot.Drawing
import CallAtlas.Text.Utf8
import CallAtlas.View.Stages
set_option autoImplicit false

/-!
# Sessions

A session is an analysis with the settings it is viewed with by default. Nothing that is asked of a
session changes it.
-/

namespace CallAtlas

inductive RequestError where
  | settings (e : SettingsError)
  | focus (e : TokenError)
  | processing (e : ViewError)
  deriving DecidableEq, Repr

namespace RequestError

def message : RequestError → String
  | .settings e => e.message
  | .focus e => e.message
  | .processing e => "processing failed: " ++ e.message

def candidates : RequestError → List Atom
  | .focus e => e.candidates
  | _ => []

/-- The misfit that an error stands for, if the request is not to blame. -/
def misfit? : RequestError → Option Misfit
  | .processing (.misfit m) => some m
  | .focus .unordered => some .severalKinds
  | _ => none

def text (e : RequestError) : String :=
  e.message ++ String.join (e.candidates.map fun path => "\n - " ++ path.inSentence)

end RequestError

inductive RenderError where
  | request (e : RequestError)
  | drawing (e : Dot.DrawingError)
  deriving DecidableEq, Repr

structure Session where
  analysis : Analysis
  baseline : Settings := {}
  deriving Repr, Inhabited

namespace Session

def settingsFor (s : Session) (form : Form) : Settings := s.baseline.revised form

def request (s : Session) (o : Settings) : Except RequestError (Selection × Option Package) :=
  match o.select with
  | .error e => .error (.settings e)
  | .ok selection =>
    match s.analysis.focus? selection.focus with
    | .error e => .error (.focus e)
    | .ok focus => .ok (selection, focus)

/-- The view that settings ask for. They are validated before the focus is looked up, and that before
any function is looked at. -/
def view (s : Session) (o : Settings) : Except RequestError View :=
  match s.request o with
  | .error e => .error e
  | .ok (selection, focus) =>
    match s.analysis.view selection (focus.map Package.path) with
    | .error e => .error (.processing e)
    | .ok v => .ok v

def render (s : Session) (o : Settings) : Except RenderError Text.Bytes :=
  match s.view o with
  | .error e => .error (.request e)
  | .ok v =>
    match Dot.write v with
    | .error e => .error (.drawing e)
    | .ok text => .ok (Text.Utf8.encode text)

def events (s : Session) (o : Settings) : List Event :=
  match s.request o with
  | .error _ => []
  | .ok (selection, focus) =>
    let path := focus.map Package.path
    (path.map fun p => Event.focusing p.inSentence).toList ++ s.analysis.viewEvents selection path

end Session

end CallAtlas
