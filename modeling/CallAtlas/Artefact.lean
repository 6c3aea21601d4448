import CallAtlas.Analysis.Assembly
import CallAtlas.Json.Reader
import CallAtlas.Text.Utf8
set_option autoImplicit false

/-!
# Artefacts

An analysis document as a file: bytes in UTF-8 that hold a JSON object. A program that the document
does not name is named after the file.
-/

namespace CallAtlas

structure Artefact where
  name : String
  path : String
  content : Text.Bytes
  deriving Repr

inductive ArtefactError where
  | notUtf8
  /-- An integer of the document has more digits than are read. -/
  | hugeInteger
  /-- More arrays and objects of the document are open at once than are read. -/
  | tooDeep
  | malformed (path reason : String)
  | notAnObject (path : String)
  | document (e : LoadError)
  deriving DecidableEq, Repr

namespace ArtefactError

def message : ArtefactError → String
  | .notUtf8 | .hugeInteger | .tooDeep => ""
  | .malformed path reason => "Malformed analysis artefact " ++ path ++ ": " ++ reason
  | .notAnObject path => "Malformed analysis artefact " ++ path ++ ": expected a JSON object"
  | .document e => e.message

end ArtefactError

namespace Artefact

/-- A file name without its last suffix. A dot at either end starts no suffix. -/
def stem (name : String) : String :=
  let before := Text.beforeLast '.' name
  if before = "" || Text.afterLast '.' name = "" then name else before

/-- The document in a file, read with room for so many arrays and objects in each other. -/
def document (a : Artefact) (room : Nat := Json.usualRoom) : Except ArtefactError Document :=
  match Text.Utf8.decode? a.content with
  | none => .error .notUtf8
  | some cs =>
    let cs := Text.unixLines cs
    match Json.readChars room cs with
    | .error ⟨.hugeInteger, _⟩ => .error .hugeInteger
    | .error ⟨.tooDeep, _⟩ => .error .tooDeep
    | .error fault => .error (.malformed a.path (fault.message cs))
    | .ok (.object fields) =>
      let d := Document.ofFields fields
      .ok { d with program := if d.program.isGiven then d.program else .text (stem a.name) }
    | .ok _ => .error (.notAnObject a.path)

def load (a : Artefact) (room : Nat := Json.usualRoom) : Except ArtefactError Analysis :=
  match a.document room with
  | .error e => .error e
  | .ok d =>
    match d.load with
    | .error e => .error (.document e)
    | .ok analysis => .ok analysis

end Artefact

end CallAtlas
