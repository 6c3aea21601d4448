import CallAtlas.Text.Split
import CallAtlas.Text.Utf8
set_option autoImplicit false

/-!
# Locations

What the paths of a command line lead to. A path is taken from the directory a command works in or
from the home of a user, and steps that stay or go up are taken before anything is looked up. What
stands at a location is found step by step, as long as the steps are directories.
-/

namespace CallAtlas.CommandLine

inductive FileAt where
  | nothing
  | directory
  | file (content : Text.Bytes)

structure FileSystem where
  directory : String
  look : String → FileAt
  /-- The home of a user; the empty name stands for the one who gives the command. -/
  home? : String → Option String

inductive PathFault where
  | unknownHome
  /-- One step has more bytes than a name can have. -/
  | longName
  | longPath
  /-- More directories are missing than are made at once. -/
  | tooManyMissing
  | directory
  /-- A file stands where a directory is needed. -/
  | fileInPlace
  /-- A path goes on behind a file. -/
  | beneathFile
  deriving DecidableEq, Repr

def longestName : Nat := 255

def isLongName (step : String) : Bool := longestName < step.utf8ByteSize

def longestPath : Nat := 4095

def isLongPath (full : String) : Bool := longestPath < full.utf8ByteSize

def mostMissing : Nat := 960

/-- The steps of a path as written, without those that stay. -/
def writtenSteps (path : String) : List String :=
  (Text.split '/' path).filter fun step => step ≠ "" && step ≠ "."

def steps (path : String) : List String :=
  (writtenSteps path).foldl (fun taken step =>
    if step = ".." then taken.dropLast else taken ++ [step]) []

namespace FileSystem

/-- A path with the home that it starts at, if it does, written out. -/
def withHome (fs : FileSystem) (path : String) : Except PathFault String :=
  if Text.startsWith path "/" then .ok path
  else match writtenSteps path with
    | first :: rest =>
      if Text.startsWith first "~" then
        match fs.home? (String.ofList (first.toList.drop 1)) with
        | some home => .ok ("/".intercalate (home :: rest))
        | none => .error .unknownHome
      else .ok path
    | [] => .ok path

def resolve (fs : FileSystem) (path : String) : Except PathFault String := do
  let path ← fs.withHome path
  let full := if Text.startsWith path "/" then path else fs.directory ++ "/" ++ path
  return (if Text.startsWith full "/" then "/" else "") ++ "/".intercalate (steps full)

inductive Way where
  | directory
  /-- A file, and the steps behind it. -/
  | file (content : Text.Bytes) (rest : List String)
  /-- A step that leads to nothing, and all steps behind it. -/
  | nothing (missing : List String)

def wayFrom (fs : FileSystem) (place : String) : List String → Way
  | [] => .directory
  | step :: rest =>
    let next := if place = "" then step else if place = "/" then "/" ++ step else place ++ "/" ++ step
    match fs.look next with
    | .directory => wayFrom fs next rest
    | .file content => .file content rest
    | .nothing => .nothing (step :: rest)

def way (fs : FileSystem) (full : String) : Way :=
  fs.wayFrom (if Text.startsWith full "/" then "/" else "") (steps full)

/-- What stands at a full path. Only the first step that leads to nothing can be too long. -/
def find (fs : FileSystem) (full : String) : Except PathFault FileAt :=
  if isLongPath full then .error .longPath
  else match fs.way full with
    | .directory => .ok .directory
    | .file content [] => .ok (.file content)
    | .file _ _ => .ok .nothing
    | .nothing missing => if missing.head?.any isLongName then .error .longName else .ok .nothing

def parent (full : String) : String :=
  (if Text.startsWith full "/" then "/" else "") ++ "/".intercalate (steps full).dropLast

/-- What stands in the way of directories that are missing. The innermost is tried first, which shows
whether the outermost has a name that is too long. -/
def missingFault? (missing : List String) : Option PathFault :=
  if missing.head?.any isLongName then some .longName
  else if mostMissing < missing.length then some .tooManyMissing
  else if missing.any isLongName then some .longName
  else none

def parentFault? (fs : FileSystem) (full : String) : Option PathFault :=
  if isLongPath (parent full) then some .longPath
  else match fs.way (parent full) with
    | .directory => none
    | .file _ [] => some .fileInPlace
    | .file _ _ => some .beneathFile
    | .nothing missing => missingFault? missing

def fileFault? (fs : FileSystem) (full : String) : Option PathFault :=
  (fs.parentFault? full).or <|
    if isLongPath full then some .longPath
    else match fs.way full with
      | .directory => some .directory
      | .nothing missing => if missing.any isLongName then some .longName else none
      | .file _ _ => none

end FileSystem

end CallAtlas.CommandLine
