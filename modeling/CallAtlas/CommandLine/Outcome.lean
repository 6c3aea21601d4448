import CallAtlas.Artefact
import CallAtlas.CommandLine.Invocation
import CallAtlas.CommandLine.Location
import CallAtlas.Dot.Drawing
import CallAtlas.Session
import CallAtlas.Text.Styling
set_option autoImplicit false

/-!
# Outcomes

What a command prints and writes. A command reads one artefact; everything else it needs to know
about the machine is what stands where its paths lead, the image program and the environment.
-/

namespace CallAtlas.CommandLine

structure Machine where
  files : FileSystem
  launcher : Option Dot.Launcher
  environment : Environment

/-- What stopped a command that could not say so. -/
inductive Crash where
  | path (fault : PathFault)
  | artefact (e : ArtefactError)
  | misfit (m : Misfit)
  | drawing (e : Dot.DrawingError)
  | picture (e : PictureError)
  | launch (e : Dot.LaunchError)
  deriving DecidableEq, Repr

inductive Ending where
  | done
  | refused
  | usage (e : UsageError)
  | crashed (c : Crash)
  deriving DecidableEq, Repr

namespace Ending

def status : Ending → Nat
  | .done => 0
  | .refused | .crashed _ => 1
  | .usage _ => 2

end Ending

structure Outcome where
  ending : Ending := .done
  output : Text.Bytes := []
  errors : String := ""
  written : List (String × Text.Bytes) := []
  drawn : Option Picture := none

namespace Outcome

def refusal (errors : String) : Outcome :=
  { ending := .refused, errors := Text.unstyled errors ++ "\n" }

def crash (c : Crash) : Outcome := { ending := .crashed c }

def usage (e : UsageError) : Outcome := { ending := .usage e }

end Outcome

def listedErrors : Nat := 10

def loadOutcome (e : ArtefactError) : Outcome :=
  match e with
  | .notUtf8 | .hugeInteger | .tooDeep | .document (.misfit _) => .crash (.artefact e)
  | .document (.packageErrors messages) =>
    .refusal ("\n".intercalate (e.message :: (messages.take listedErrors).map ("  - " ++ ·)))
  | e => .refusal e.message

def viewOutcome (e : RequestError) : Outcome :=
  match e.misfit? with
  | some m => .crash (.misfit m)
  | none => .refusal e.text

def padRight (width : Nat) (s : String) : String :=
  s ++ String.ofList (List.replicate (width - s.length) ' ')

def padLeft (width : Nat) (s : String) : String :=
  String.ofList (List.replicate (width - s.length) ' ') ++ s

def functionCount (a : Analysis) (path : Atom) : Nat :=
  a.functions.countP fun f => f.package.same path

/-- The packages that are listed, by path. An empty name is no filter. -/
def listed (a : Analysis) (name : String) (hideStd : Bool) : List Package :=
  (Atom.sortedBy Package.pathAsMet a.packages).filter fun p =>
    (name = "" || p.isCalled name) && !(hideStd && p.std)

def packageLine? (a : Analysis) (p : Package) : Option String :=
  match p.pathAsMet.toJson.inColumn?, p.name.inColumn? with
  | some path, some name => some
      (padRight 50 path ++ " " ++ padRight 20 name ++ " " ++
        padLeft 6 (toString (functionCount a p.path)) ++ " functions" ++
        (if p.std then " [std]" else ""))
  | _, _ => none

def lines (ls : List String) : Text.Bytes :=
  Text.Utf8.encode (Text.unstyled (String.join (ls.map (· ++ "\n"))))

def writeOutcome (files : FileSystem) (destination : String) (bytes : Text.Bytes) : Outcome :=
  match files.resolve destination with
  | .error fault => .crash (.path fault)
  | .ok path =>
    match files.fileFault? path with
    | some fault => .crash (.path fault)
    | none =>
      { errors := Text.unstyled ("Call graph written to " ++ path) ++ "\n"
        written := [(path, bytes)] }

def renderOutcome (m : Machine) (s : Session) (format binary : String)
    (destination : Option String) : Outcome :=
  match s.render s.baseline with
  | .error (.request e) => viewOutcome e
  | .error (.drawing e) => .crash (.drawing e)
  | .ok text =>
    let image :=
      if format.toLower = "dot" then .ok text
      else Dot.Launcher.run m.launcher binary format
    match image, destination with
    | .error .zeroInFormat, _ => .crash (.launch .zeroInFormat)
    | .error e, _ => .refusal e.message
    | .ok bytes, none => { output := bytes }
    | .ok bytes, some destination => writeOutcome m.files destination bytes

def packagesOutcome (a : Analysis) (name : String) (hideStd : Bool) : Outcome :=
  if !Atom.ofOneKind (a.packages.map Package.path) then .crash (.misfit .severalKinds)
  else match (listed a name hideStd).mapM (packageLine? a) with
    | none => .crash (.misfit .notSingle)
    | some [] => { output := lines ["No packages matched."] }
    | some ls => { output := lines ls }

def plotOutcome (m : Machine) (s : Session) (request : PictureRequest) (destination : String) :
    Outcome :=
  match s.view s.baseline with
  | .error e => viewOutcome e
  | .ok v =>
    match m.files.resolve destination with
    | .error fault => .crash (.path fault)
    | .ok path =>
      match m.files.parentFault? path with
      | some fault => .crash (.path fault)
      | none =>
        match Picture.ofView v request with
        | .error e => .crash (.picture e)
        | .ok picture =>
          { drawn := some picture
            output := lines
              ["Nodes: " ++ toString v.nodes.length ++ "  Edges: " ++ toString v.edges.length,
                "Visualization saved to " ++ path] }

def serveOutcome (host : String) (port : Int) : Outcome :=
  { output := lines
      ["Serving call graph explorer on http://" ++ host ++ ":" ++ toString port ++
        "/ (DOT at /callgraph.dot)"] }

def Command.outcome (c : Command) (a : Analysis) (m : Machine) : Outcome :=
  match c with
  | .render _ settings format output binary => renderOutcome m ⟨a, settings⟩ format binary output
  | .packages _ name hideStd => packagesOutcome a name hideStd
  | .plot _ settings output request => plotOutcome m ⟨a, settings⟩ request output
  | .serve _ _ host port => serveOutcome host port

def version : String := "0.1.0"

def artefactAt (files : FileSystem) (path : String) : Except PathFault (Option Artefact) := do
  let full ← files.resolve path
  match ← files.find full with
  | .nothing => return none
  | .directory => throw .directory
  | .file content =>
    return some { name := Text.afterLast '/' full, path := full, content := content }

/-- The outcome of a command line, with some room for reading artefacts. -/
def run (m : Machine) (arguments : List String) (room : Nat := Json.usualRoom) : Outcome :=
  match Invocation.read m.environment arguments with
  | .error e => .usage e
  | .ok .version => { output := lines [version] }
  | .ok (.command c) =>
    match artefactAt m.files c.input with
    | .error fault => .crash (.path fault)
    | .ok none => .usage (.missingFile c.input)
    | .ok (some artefact) =>
      match artefact.load room with
      | .error e => loadOutcome e
      | .ok a => c.outcome a m

end CallAtlas.CommandLine
