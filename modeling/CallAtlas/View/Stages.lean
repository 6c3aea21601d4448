import CallAtlas.CallGraph.Around
import CallAtlas.CallGraph.Limit
import CallAtlas.CallGraph.Wrappers
import CallAtlas.Event
import CallAtlas.Misfit
import CallAtlas.View.Basic
set_option autoImplicit false

/-!
# Stages

How an analysis becomes a view. The functions that can run are cut down in a fixed order: the
standard library, wrappers, what is nested too deep in limited packages, the path filters, and the
focus at last. Levels are counted before the path filters, so that hiding a caller never brings a
limited function nearer to the boundary. What is reported on the way and what may end it are the
steps of a run; there is a view if no step ends it.
-/

namespace CallAtlas

inductive ViewError where
  | focusEmptied (path : Atom)
  | nothingLeft
  | misfit (m : Misfit)
  deriving DecidableEq, Repr

def ViewError.message : ViewError → String
  | .focusEmptied path =>
    "focus package " ++ path.inSentence ++ " has no functions left after filtering"
  | .nothingLeft => "no functions left to render after filtering"
  | .misfit _ => ""

inductive Step where
  | report (e : Event)
  | stop (e : ViewError)
  deriving DecidableEq, Repr

namespace Step

def stop? : Step → Option ViewError
  | .report _ => none
  | .stop e => some e

def event? : Step → Option Event
  | .report e => some e
  | .stop _ => none

def events (steps : List Step) : List Event :=
  (steps.takeWhile fun s => s.stop?.isNone).filterMap event?

def ending? (steps : List Step) : Option ViewError := steps.findSome? stop?

def reportIf (b : Bool) (e : Event) : List Step := if b then [.report e] else []

/-- A stop for what does not hold. -/
def demand (b : Bool) (e : ViewError) : List Step := if b then [] else [.stop e]

end Step

namespace CallGraph

def hasTextPaths (g : CallGraph) : Bool := g.functions.all fun f => f.package.isText

end CallGraph

/-- The graphs that one reduction goes through. -/
structure Stages where
  reachable : List Atom
  /-- All functions that can run. -/
  whole : CallGraph
  /-- Without the standard library, if it is hidden. -/
  authored : CallGraph
  /-- Without wrappers, if they are hidden. -/
  direct : CallGraph
  /-- Without what is nested too deep in limited packages. -/
  shallow : CallGraph
  /-- What passes the path filters. -/
  filtered : CallGraph
  /-- What is left around the focus, if there is one. -/
  shown : CallGraph
  forms : Forms

namespace Stages

def run (a : Analysis) (s : Selection) (focus : Option Atom) : Stages :=
  let whole := a.callGraph
  let authored := if s.hideStd then whole.restrict fun f => !f.std else whole
  let direct := if s.hideWrappers then authored.withoutWrappers else authored
  let shallow :=
    if s.limit.isEmpty then direct else direct.withinLimit s.limit a.starts s.limitDepth
  let filtered := shallow.filtered s.ignore s.only
  let shown := match focus with
    | none => filtered
    | some path => filtered.focused path
  let forms := a.forms
  let forms := match focus with
    | none => forms
    | some path => filtered.formsAround (a.callerForm forms) path forms
  { reachable := a.reachable, whole := whole, authored := authored, direct := direct
    shallow := shallow, filtered := filtered, shown := shown, forms := forms }

/-- Whether the sites of all calls that can run can be told equal or different. -/
def sitesAreSingle (a : Analysis) : Bool :=
  a.reachableCalls.all fun c => (Atom.ofJson? c.site).isSome

def wrapperSteps (r : Stages) (s : Selection) : List Step :=
  let wrappers := r.authored.synthetics
  if s.hideWrappers then
    Step.demand (Atom.ofOneKind wrappers) (.misfit .severalKinds) ++
      Step.reportIf (!wrappers.isEmpty) (.elided r.authored.wrappers.length wrappers.length)
  else []

def limitSteps (r : Stages) (a : Analysis) (s : Selection) : List Step :=
  let deep := r.direct.tooDeep s.limit a.starts s.limitDepth
  if s.limit.isEmpty then []
  else
    Step.demand r.direct.hasTextPaths (.misfit .notAText) ++
      Step.reportIf (!deep.isEmpty) (.limitDropped deep.length s.limitDepth)

def filterSteps (r : Stages) (s : Selection) (focus : Option Atom) : List Step :=
  Step.demand ((s.ignore.isEmpty && s.only.isEmpty) || r.shallow.hasTextPaths)
      (.misfit .notAText) ++
    (match focus with
      | some path => Step.demand (!(r.filtered.members path).isEmpty) (.focusEmptied path)
      | none => []) ++
    Step.demand (!r.shown.functions.isEmpty) .nothingLeft ++
    [.report (.reduced r.reachable.length r.shown.functions.length r.shown.edges.length)]

def orderSteps (r : Stages) (s : Selection) (focus : Option Atom) : List Step :=
  Step.demand (Atom.ofOneKind r.shown.ids) (.misfit .severalKinds) ++
    Step.demand (r.shown.edges.all fun e => Atom.ofOneKind e.sites) (.misfit .severalKinds) ++
    Step.demand
      (.receiver ∉ s.group || r.shown.functions.all fun f => f.recv.all Json.isText)
      (.misfit .notAText) ++
    Step.demand (Cluster.inOrder (View.clustersOf s.group focus r.forms r.shown.orderedFunctions))
      (.misfit .severalKinds)

def steps (r : Stages) (a : Analysis) (s : Selection) (focus : Option Atom) : List Step :=
  Step.demand (sitesAreSingle a) (.misfit .notSingle) ++ r.wrapperSteps s ++ r.limitSteps a s ++
    r.filterSteps s focus ++ r.orderSteps s focus

end Stages

namespace Analysis

def view (a : Analysis) (s : Selection) (focus : Option Atom) : Except ViewError View :=
  let r := Stages.run a s focus
  match Step.ending? (r.steps a s focus) with
  | some e => .error e
  | none => .ok (View.ofGraph a s.group focus r.forms r.shown)

def viewEvents (a : Analysis) (s : Selection) (focus : Option Atom) : List Event :=
  Step.events ((Stages.run a s focus).steps a s focus)

end Analysis

end CallAtlas
