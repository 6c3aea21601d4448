import CallAtlas.Json.Token
set_option autoImplicit false

/-!
# Reading JSON

A text is read token by token, each token once. The open arrays and objects stand on a stack, and a
state says what may come next; the first token that may not come is the fault of the text.
-/

namespace CallAtlas.Json

/-- An array or object whose end has not come yet. Items and fields are held in the order read. -/
inductive Frame where
  | array (items : List Json)
  | object (fields : List (String × Json)) (name : String)

/-- What may come next; every state carries the frames around it, innermost first. -/
inductive State where
  | value (frames : List Frame)
  /-- Behind an opening bracket: a value or the end of the array. -/
  | firstItem (frames : List Frame)
  /-- Behind an opening brace: a name or the end of the object. -/
  | firstName (frames : List Frame)
  | name (fields : List (String × Json)) (frames : List Frame)
  | colon (fields : List (String × Json)) (name : String) (frames : List Frame)
  | done (value : Json) (frames : List Frame)

/-- Room for arrays and objects in each other where calls may be a thousand deep and a reader is
called from twenty calls deep at most. -/
def usualRoom : Nat := 1000 - 20

namespace State

def stepOpen (room : Nat) (frames : List Frame) (position : Nat) (s : State) :
    Except Fault State :=
  if frames.length < room then .ok s else .error ⟨.tooDeep, position⟩

def stepValue (room : Nat) (frames : List Frame) (position : Nat) : Token → Except Fault State
  | .literal v => .ok (.done v frames)
  | .string s => .ok (.done (.text s) frames)
  | .openArray => stepOpen room frames position (.firstItem frames)
  | .openObject => stepOpen room frames position (.firstName frames)
  | .faulty fault => .error fault
  | _ => .error ⟨.expectedValue, position⟩

def stepName (fields : List (String × Json)) (frames : List Frame) (position : Nat) :
    Token → Except Fault State
  | .string s => .ok (.colon fields s frames)
  | .faulty fault => match fault.kind with
    | .hugeInteger => .error ⟨.expectedName, position⟩
    | _ => .error fault
  | _ => .error ⟨.expectedName, position⟩

def stepDone (v : Json) (frames : List Frame) (position : Nat) (t : Token) : Except Fault State :=
  match frames, t with
  | [], _ => .error ⟨.extraData, position⟩
  | .array items :: outer, .comma => .ok (.value (.array (items ++ [v]) :: outer))
  | .array items :: outer, .closeArray => .ok (.done (.array (items ++ [v])) outer)
  | .object fields key :: outer, .comma => .ok (.name (setField key v fields) outer)
  | .object fields key :: outer, .closeObject => .ok (.done (.object (setField key v fields)) outer)
  | _, _ => .error ⟨.expectedComma, position⟩

def step (room position : Nat) (t : Token) : State → Except Fault State
  | .value frames => stepValue room frames position t
  | .firstItem frames =>
    match t with
    | .closeArray => .ok (.done (.array []) frames)
    | _ => stepValue room (.array [] :: frames) position t
  | .firstName frames =>
    match t with
    | .closeObject => .ok (.done (.object []) frames)
    | _ => stepName [] frames position t
  | .name fields frames => stepName fields frames position t
  | .colon fields key frames =>
    match t with
    | .colon => .ok (.value (.object fields key :: frames))
    | _ => .error ⟨.expectedColon, position⟩
  | .done v frames => stepDone v frames position t

def finish (length : Nat) : State → Except Fault Json
  | .done v [] => .ok v
  | .done _ _ => .error ⟨.expectedComma, length⟩
  | .value _ | .firstItem _ => .error ⟨.expectedValue, length⟩
  | .firstName _ | .name _ _ => .error ⟨.expectedName, length⟩
  | .colon _ _ _ => .error ⟨.expectedColon, length⟩

end State

def readTokens (room length : Nat) : List (Token × Nat) → State → Except Fault Json
  | [], s => s.finish length
  | (t, position) :: rest, s =>
    match s.step room position t with
    | .error fault => .error fault
    | .ok s => readTokens room length rest s

/-- The value a text holds, with room for so many arrays and objects in each other. A byte order mark
is not part of the format. -/
def readChars (room : Nat) (cs : List Char) : Except Fault Json :=
  if cs.head? = some '\ufeff' then .error ⟨.byteOrderMark, 0⟩
  else readTokens room cs.length (tokens 0 cs) (.value [])

def read (s : String) (room : Nat := usualRoom) : Except Fault Json := readChars room s.toList

namespace FaultKind

def text : FaultKind → String
  | .expectedValue => "Expecting value"
  | .expectedName => "Expecting property name enclosed in double quotes"
  | .expectedColon => "Expecting ':' delimiter"
  | .expectedComma => "Expecting ',' delimiter"
  | .unterminatedString => "Unterminated string starting at"
  | .controlCharacter => "Invalid control character at"
  | .badEscape => "Invalid \\escape"
  | .badUnicodeEscape => "Invalid \\uXXXX escape"
  | .loneSurrogate => "Escape of half a surrogate pair"
  | .extraData => "Extra data"
  | .byteOrderMark => "Unexpected UTF-8 BOM (decode using utf-8-sig)"
  | .hugeInteger => "Integer with too many digits"
  | .tooDeep => "Too many open arrays and objects"

end FaultKind

namespace Fault

def line (f : Fault) (cs : List Char) : Nat := (cs.take f.position).count '\n' + 1

def column (f : Fault) (cs : List Char) : Nat :=
  ((cs.take f.position).reverse.takeWhile (· ≠ '\n')).length + 1

def message (f : Fault) (cs : List Char) : String :=
  f.kind.text ++ ": line " ++ toString (f.line cs) ++ " column " ++ toString (f.column cs) ++
    " (char " ++ toString f.position ++ ")"

end Fault

end CallAtlas.Json
