import CallAtlas.CommandLine.Outcome
set_option autoImplicit false

/-!
# The program

Reads the arguments, the environment and what stands where the paths of the command lead, and carries
out what the outcome of the command says. This program starts no other program, so it knows of no
launcher, and of no home but that of the user.
-/

namespace CallAtlas.CommandLine

def variableNames : List String :=
  ["FOCUS", "GROUP", "IGNORE", "INCLUDE", "LIMIT", "LIMIT_DEPTH", "NOSTD", "NOINTER"].map
    (variableStart ++ ·)

def readEnvironment : IO Environment :=
  variableNames.filterMapM fun name => do
    return (← IO.getEnv name).map fun value => (name, value)

def readFileAt (path : String) : IO FileAt := do
  try
    return .file (← IO.FS.readBinFile path).toList
  catch
    | .inappropriateType .. => return .directory
    | _ => return .nothing

def pathsThrough (full : String) : List String :=
  let steps := steps full
  "/" :: (List.range steps.length).map fun n => "/" ++ "/".intercalate (steps.take (n + 1))

def readFiles (directory : String) (home : Option String) (paths : List String) :
    IO FileSystem := do
  let homeOf (user : String) : Option String := if user = "" then home else none
  let bare : FileSystem := ⟨directory, fun _ => .nothing, homeOf⟩
  let places := (paths.filterMap fun path => (bare.resolve path).toOption).flatMap pathsThrough
  let found ← places.eraseDups.mapM fun place => do return (place, ← readFileAt place)
  return { bare with look := fun place =>
    ((found.find? fun f => f.1 = place).map Prod.snd).getD .nothing }

def pathsIn (environment : Environment) (arguments : List String) : List String :=
  match Invocation.read environment arguments with
  | .ok (.command c) => c.paths
  | _ => []

def carryOut (o : Outcome) : IO UInt32 := do
  (← IO.getStdout).write ⟨o.output.toArray⟩
  IO.eprint o.errors
  for (path, content) in o.written do
    IO.FS.createDirAll ("/".intercalate (Text.split '/' path).dropLast)
    IO.FS.writeBinFile path ⟨content.toArray⟩
  return UInt32.ofNat o.ending.status

end CallAtlas.CommandLine

open CallAtlas CallAtlas.CommandLine

def main (arguments : List String) : IO UInt32 := do
  let directory := (← IO.currentDir).toString
  let environment ← readEnvironment
  let files ← readFiles directory (← IO.getEnv "HOME") (pathsIn environment arguments)
  carryOut (run ⟨files, none, environment⟩ arguments)
