import CallAtlas.CommandLine.Arguments
import CallAtlas.CommandLine.Number
import CallAtlas.Dot.Launcher
import CallAtlas.Settings
import CallAtlas.View.Picture
set_option autoImplicit false

/-!
# Invocations

The commands and what each of them is asked to do. What the command line does not say about a view
is taken from the environment, where an empty variable says nothing.
-/

namespace CallAtlas.CommandLine

inductive Command where
  | render (input : String) (settings : Settings) (format : String) (output : Option String)
    (binary : String)
  | packages (input name : String) (hideStd : Bool)
  | plot (input : String) (settings : Settings) (output : String) (request : PictureRequest)
  | serve (input : String) (settings : Settings) (host : String) (port : Int)
  deriving Repr

namespace Command

def input : Command → String
  | .render input .. | .packages input .. | .plot input .. | .serve input .. => input

def output? : Command → Option String
  | .render _ _ _ output _ => output
  | .plot _ _ output _ => some output
  | .packages .. | .serve .. => none

def paths (c : Command) : List String := c.input :: c.output?.toList

end Command

inductive Invocation where
  | version
  | command (c : Command)
  deriving Repr

abbrev Environment := List (String × String)

def variableStart : String := "CALLSCOPE_"

def rootSwitches : List Switch :=
  [{ setting := "version", names := ["--version", "-V"], takesValue := false },
    { setting := "verbose", names := ["--verbose", "-v"], takesValue := false }]

def inputSwitch : Switch := { setting := "input", names := ["--input", "-i"] }

def outputSwitch : Switch := { setting := "output", names := ["--output", "-o"] }

def viewSwitches : List Switch :=
  [inputSwitch, { setting := "focus", names := ["--focus"] },
    { setting := "group", names := ["--group"] }, { setting := "ignore", names := ["--ignore"] },
    { setting := "include", names := ["--include"] }, { setting := "limit", names := ["--limit"] },
    { setting := "limit_depth", names := ["--limit-depth"] },
    { setting := "nostd", names := ["--nostd"], takesValue := false },
    { setting := "nointer", names := ["--nointer"], takesValue := false }]

def renderSwitches : List Switch :=
  viewSwitches ++
    [outputSwitch, { setting := "format", names := ["--format", "-f"] },
      { setting := "dot_binary", names := ["--dot-binary"] }]

def packagesSwitches : List Switch :=
  [inputSwitch, { setting := "name", names := ["--name", "-n"] },
    { setting := "nostd", names := ["--nostd"], takesValue := false }]

def plotSwitches : List Switch :=
  viewSwitches ++
    [outputSwitch, { setting := "layout", names := ["--layout"] },
      { setting := "show_labels", names := ["--show-labels"], offNames := ["--no-show-labels"]
        takesValue := false }]

def serveSwitches : List Switch :=
  viewSwitches ++
    [{ setting := "host", names := ["--host"] }, { setting := "port", names := ["--port"] },
      { setting := "debug", names := ["--debug"], offNames := ["--no-debug"], takesValue := false }]

def onWords : List String := ["1", "true", "t", "yes", "y", "on"]
def offWords : List String := ["0", "false", "f", "no", "n", "off"]

/-- The flag that a word stands for; blanks alone take it back. -/
def flag? (s : String) : Option Bool :=
  let word := (Text.trim s).toLower
  if word ∈ onWords then some true
  else if word = "" || word ∈ offWords then some false
  else none

def inEnvironment? (environment : Environment) (setting : String) : Option String :=
  (environment.find? fun v => v.1 = variableStart ++ setting.toUpper).bind fun v =>
    if v.2 = "" then none else some v.2

/-- A setting of a view: from the command line, or else from the environment. -/
def viewValue (assignments : Assignments) (environment : Environment) (setting default : String) :
    String :=
  ((assignments.get? setting).orElse fun _ => inEnvironment? environment setting).getD default

def readNumber (s : String) : Except UsageError Int :=
  match Number.read? s with
  | some n => .ok n
  | none => .error (.badNumber s)

def readFlag (s : String) : Except UsageError Bool :=
  match flag? s with
  | some b => .ok b
  | none => .error (.badFlag s)

def viewSettings (assignments : Assignments) (environment : Environment) :
    Except UsageError Settings := do
  let setting := viewValue assignments environment
  let depth ← readNumber (setting "limit_depth" "1")
  let hideStd ← readFlag (setting "nostd" off)
  let hideWrappers ← readFlag (setting "nointer" off)
  return { focus := setting "focus" "", group := setting "group" GroupKey.package.text
           ignore := setting "ignore" "", only := setting "include" ""
           limit := setting "limit" "", limitDepth := depth, hideStd := hideStd
           hideWrappers := hideWrappers }

def required (assignments : Assignments) (setting : String) : Except UsageError String :=
  match assignments.get? setting with
  | some v => .ok v
  | none => .error (.missingSwitch setting)

def assignmentsOf (switches : List Switch) (arguments : List String) :
    Except UsageError Assignments :=
  match readSwitches switches [] arguments with
  | .error e => .error e
  | .ok (assignments, []) => .ok assignments
  | .ok (_, argument :: _) => .error (.unexpectedArgument argument)

def readers (environment : Environment) :
    List (String × (List String → Except UsageError Command)) :=
  [("render", fun arguments => do
      let assignments ← assignmentsOf renderSwitches arguments
      let input ← required assignments "input"
      let settings ← viewSettings assignments environment
      return .render input settings ((assignments.get? "format").getD "dot") (assignments.get? "output")
        ((assignments.get? "dot_binary").getD Dot.defaultBinary)),
    ("packages", fun arguments => do
      let assignments ← assignmentsOf packagesSwitches arguments
      let input ← required assignments "input"
      return .packages input ((assignments.get? "name").getD "") (assignments.get? "nostd" = some on)),
    ("plot", fun arguments => do
      let assignments ← assignmentsOf plotSwitches arguments
      let input ← required assignments "input"
      let output ← required assignments "output"
      let settings ← viewSettings assignments environment
      return .plot input settings output
        { layout := Layout.ofText ((assignments.get? "layout").getD "")
          showLabels := assignments.get? "show_labels" ≠ some off }),
    ("serve", fun arguments => do
      let assignments ← assignmentsOf serveSwitches arguments
      let input ← required assignments "input"
      let settings ← viewSettings assignments environment
      let port ← readNumber ((assignments.get? "port").getD "7878")
      return .serve input settings ((assignments.get? "host").getD "127.0.0.1") port)]

def Command.checked (c : Command) : Except UsageError Command :=
  match c.paths.find? fun path => '\x00' ∈ path.toList with
  | some path => .error (.zeroCharacter path)
  | none => .ok c

/-- Reads a command line. The version is told once it is clear that there is such a command, however
the command is used. -/
def Invocation.read (environment : Environment) (arguments : List String) :
    Except UsageError Invocation := do
  match ← readSwitches rootSwitches [] arguments with
  | (_, []) => throw .missingCommand
  | (assignments, name :: rest) =>
    match (readers environment).find? fun r => r.1 = name with
    | none => throw (.unknownCommand name)
    | some (_, reader) =>
      if assignments.get? "version" = some on then return .version
      else return .command (← (← reader rest).checked)

end CallAtlas.CommandLine
