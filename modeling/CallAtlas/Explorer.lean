import CallAtlas.Session
import CallAtlas.View.Element
set_option autoImplicit false

/-!
# The explorer

A page with controls for all settings of a view and a diagram of the view. The controls start with
the settings of a session; whenever one changes, the diagram and a status line are made anew from the
values of all of them.
-/

namespace CallAtlas.Explorer

inductive Arrangement where
  | breadthfirst
  | cose
  | concentric
  deriving DecidableEq, Repr

namespace Arrangement

def text : Arrangement → String
  | .breadthfirst => "breadthfirst"
  | .cose => "cose"
  | .concentric => "concentric"

/-- The arrangement of a name, or the first one. -/
def ofText (s : String) : Arrangement :=
  if s = "cose" then .cose else if s = "concentric" then .concentric else .breadthfirst

end Arrangement

structure Controls where
  focus : String := ""
  group : List String := []
  ignore : String := ""
  only : String := ""
  limit : String := ""
  limitDepth : Int := 1
  toggles : List String := []
  arrangement : String := "breadthfirst"
  deriving DecidableEq, Repr

def hideStd : String := "nostd"
def hideWrappers : String := "nointer"

/-- The values the controls start with. Only grouping keys can be chosen. -/
def initial (o : Settings) : Controls :=
  { focus := o.focus
    group := (commaList o.group).filter fun key => (GroupKey.ofText? key).isSome
    ignore := o.ignore
    only := o.only
    limit := o.limit
    limitDepth := o.limitDepth
    toggles := (if o.hideStd then [hideStd] else []) ++ (if o.hideWrappers then [hideWrappers] else []) }

def subtitle (a : Analysis) : Json :=
  if a.program.isGiven then a.program else .text "whole-program call graph"

/-- The settings that the controls stand for. A depth of zero is no depth. -/
def Controls.settings (c : Controls) : Settings :=
  { focus := c.focus
    group := ",".intercalate c.group
    ignore := c.ignore
    only := c.only
    limit := c.limit
    limitDepth := if c.limitDepth = 0 then 1 else c.limitDepth
    hideStd := hideStd ∈ c.toggles
    hideWrappers := hideWrappers ∈ c.toggles }

inductive Status where
  | shown (nodes edges : Nat) (focus : Option Atom)
  | refused (message : String) (candidates : List Atom)
  deriving DecidableEq, Repr

inductive Component where
  | text (tag : String) (style : Option String) (content : Json)
  | group (tag : String) (children : List Component)
  deriving Repr

namespace Status

def summary (nodes edges : Nat) (focus : Option Atom) : String :=
  toString nodes ++ " functions, " ++ toString edges ++ " calls" ++
    (match focus.filter Atom.isGiven with
      | some path => " (focus: " ++ path.inSentence ++ ")"
      | none => "")

def component : Status → Component
  | .shown nodes edges focus => .text "Div" (some "status-ok") (.text (summary nodes edges focus))
  | .refused message candidates =>
    .group "Div" (.text "Div" (some "status-error") (.text message) ::
      (if candidates.isEmpty then []
        else [.group "Ul" (candidates.map fun path => .text "Li" none path.toJson)]))

end Status

structure Update where
  elements : List Element
  arrangement : Arrangement
  status : Status
  deriving Repr

def update (s : Session) (c : Controls) : Except Misfit Update :=
  let arrangement := Arrangement.ofText c.arrangement
  match s.view c.settings with
  | .error e =>
    match e.misfit? with
    | some m => .error m
    | none => .ok ⟨[], arrangement, .refused e.message e.candidates⟩
  | .ok v =>
    match v.elements with
    | .ok elements => .ok ⟨elements, arrangement, .shown v.nodes.length v.edges.length v.focus⟩
    | .error m => .error m

end CallAtlas.Explorer
