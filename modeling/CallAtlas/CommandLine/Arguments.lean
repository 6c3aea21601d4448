import CallAtlas.Text.Split
set_option autoImplicit false

/-!
# Arguments

Reading the arguments of a command. A long switch is two dashes and a name, and its value follows a
sign of equality or is the next argument. A short switch is one letter; several may follow one dash,
and a value may follow its letter. Two dashes alone end the switches.
-/

namespace CallAtlas.CommandLine

inductive UsageError where
  | unknownSwitch (argument : String)
  | missingValue (switch : String)
  | unexpectedValue (switch : String)
  | unexpectedArgument (argument : String)
  | missingCommand
  | unknownCommand (name : String)
  | missingSwitch (name : String)
  | badNumber (text : String)
  | badFlag (text : String)
  | missingFile (path : String)
  | zeroCharacter (path : String)
  deriving DecidableEq, Repr

structure Switch where
  setting : String
  names : List String
  /-- The names that take a flag back. -/
  offNames : List String := []
  takesValue : Bool := true
  deriving DecidableEq, Repr

/-- Assignments and their values, the latest first. -/
abbrev Assignments := List (String × String)

namespace Assignments

def get? (s : Assignments) (name : String) : Option String := (s.find? fun v => v.1 = name).map (·.2)

end Assignments

def on : String := "true"
def off : String := "false"

structure Reading where
  assignments : Assignments
  waiting : Option String := none

/-- A switch of some name; the flag says whether the name takes it back. -/
def Switch.named? (switches : List Switch) (name : String) : Option (Switch × Bool) :=
  match switches.find? fun s => name ∈ s.names with
  | some s => some (s, false)
  | none => (switches.find? fun s => name ∈ s.offNames).map fun s => (s, true)

def readLong (s : Switch) (isOff : Bool) (value : Option String) : Except UsageError Reading :=
  match s.takesValue, value with
  | true, some v => .ok { assignments := [(s.setting, v)] }
  | true, none => .ok { assignments := [], waiting := some s.setting }
  | false, some _ => .error (.unexpectedValue s.setting)
  | false, none => .ok { assignments := [(s.setting, if isOff then off else on)] }

def readShort (switches : List Switch) (argument : String) : List Char → Except UsageError Reading
  | [] => .ok { assignments := [] }
  | c :: cs =>
    match Switch.named? switches (String.ofList ['-', c]) with
    | none => .error (.unknownSwitch argument)
    | some (s, _) =>
      if s.takesValue then
        if cs.isEmpty then .ok { assignments := [], waiting := some s.setting }
        else .ok { assignments := [(s.setting, String.ofList cs)] }
      else
        match readShort switches argument cs with
        | .error e => .error e
        | .ok r => .ok { r with assignments := r.assignments ++ [(s.setting, on)] }

def readSwitch (switches : List Switch) (argument : String) : Except UsageError Reading :=
  let cs := argument.toList
  let name := String.ofList (cs.takeWhile (· ≠ '='))
  let value := if '=' ∈ cs then some (String.ofList ((cs.dropWhile (· ≠ '=')).drop 1)) else none
  match if 2 < name.length then Switch.named? switches name else none with
  | some (s, isOff) => readLong s isOff value
  | none =>
    if cs.take 2 = ['-', '-'] then .error (.unknownSwitch argument)
    else readShort switches argument (cs.drop 1)

def readSwitches (switches : List Switch) (made : Assignments) :
    List String → Except UsageError (Assignments × List String)
  | [] => .ok (made, [])
  | argument :: rest =>
    if argument = "--" then .ok (made, rest)
    else if argument.toList.head? = some '-' && 1 < argument.length then
      match readSwitch switches argument with
      | .error e => .error e
      | .ok r =>
        match r.waiting, rest with
        | none, rest => readSwitches switches (r.assignments ++ made) rest
        | some setting, [] => .error (.missingValue setting)
        | some setting, value :: rest =>
          readSwitches switches ((setting, value) :: r.assignments ++ made) rest
    else .ok (made, argument :: rest)

end CallAtlas.CommandLine
