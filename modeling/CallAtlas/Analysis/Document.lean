import CallAtlas.Json.Spelling
import CallAtlas.Misfit
set_option autoImplicit false

/-!
# Analysis documents

The entries of an analysis document, before they are checked against each other. A document is read
section by section; where a section does not have the expected shape its reading stops, and what was
read before stays, so that a caller meets misfits in the order of the document.
-/

namespace CallAtlas

/-- The entries of a part of a document, up to a misfit if there is one. -/
structure Section (α : Type) where
  entries : List α
  misfit : Option Misfit := none
  deriving Repr, Inhabited

/-- A package. A name that is missing is implied by the path. -/
structure PackageEntry where
  /-- The path, in words where it is no atom. -/
  path : Atom
  name : Option Json := none
  std : Bool := false
  errors : List String := []
  deriving Repr, Inhabited

/-- A function as its entry says; whether there is one is up to the id and the package. -/
structure FunctionEntry where
  id : Json
  package : Json
  name : Option Json := none
  recv : Option Json := none
  synthetic : Option Json := none
  deriving Repr, Inhabited

/-- A call; an entry without caller or callee describes none. -/
structure CallEntry where
  caller : Json
  callee : Json
  site : Json := .text ""
  dynamic : Bool := false
  deriving Repr, Inhabited

structure Document where
  packages : Section PackageEntry := ⟨[], none⟩
  functions : Section FunctionEntry := ⟨[], none⟩
  calls : Section CallEntry := ⟨[], none⟩
  entryPoints : Section Json := ⟨[], none⟩
  program : Json := .text ""
  deriving Repr, Inhabited

namespace Section

variable {α : Type}

/-- What reading one element gives: an entry, a misfit or, where the misfit comes late, both. -/
abbrev Reading (α : Type) := Option α × Option Misfit

def collect (read : Json → Reading α) : List Json → Section α
  | [] => ⟨[], none⟩
  | v :: vs =>
    match read v with
    | (entry, some misfit) => ⟨entry.toList, some misfit⟩
    | (entry, none) =>
      let rest := collect read vs
      ⟨entry.toList ++ rest.entries, rest.misfit⟩

/-- The elements of a value: the items of a list, the names of an object, the characters of a
text. -/
def elements? : Json → Option (List Json)
  | .array items => some items
  | .object fields => some (fields.map fun f => .text f.1)
  | .text s => some (s.toList.map fun c => .text (String.ofList [c]))
  | _ => none

def ofValue (read : Json → Reading α) (v : Json) : Section α :=
  match elements? v with
  | some items => collect read items
  | none => ⟨[], some .notAList⟩

def ofObjects (read : List (String × Json) → Reading α) : Option Json → Section α
  | none => ⟨[], none⟩
  | some v => ofValue (fun
    | .object fields => read fields
    | _ => (none, some .notAnEntry)) v

/-- The first misfit of a section: of an entry that is read, or of the one that is not. -/
def misfitBy (check : α → Option Misfit) (s : Section α) : Option Misfit :=
  (s.entries.findSome? check).or s.misfit

end Section

namespace Document

open Json

/-- An entry whose path says nothing describes no package. The errors are looked at before the
path. -/
def readPackage (fields : List (String × Json)) : Section.Reading PackageEntry :=
  let path := fieldOf "path" fields
  let errors := fieldOf "errors" fields
  let name := (fieldOf "name" fields).given?
  if !path.isGiven then (none, none)
  else match if errors.isGiven then Section.elements? errors else some [] with
    | none => (none, some .notAList)
    | some messages =>
      let misfit : Option Misfit :=
        if name.isNone && !path.isText then some .notAText
        else if (Atom.ofJson? path).isNone then some .notSingle
        else none
      (some
        { path := (Atom.ofJson? path).getD (.text path.inSentence)
          name := name
          std := (fieldOf "std" fields).isGiven
          errors := messages.map inSentence }, misfit)

def readFunction (fields : List (String × Json)) : Section.Reading FunctionEntry :=
  (some
    { id := fieldOf "id" fields
      package := fieldOf "package" fields
      name := (fieldOf "name" fields).given?
      recv := (fieldOf "recv" fields).given?
      synthetic := (fieldOf "synthetic" fields).given? }, none)

def readCall (fields : List (String × Json)) : Section.Reading CallEntry :=
  (some
    { caller := fieldOf "caller" fields
      callee := fieldOf "callee" fields
      site := (fieldOf "site" fields).given?.getD (.text "")
      dynamic := (fieldOf "dynamic" fields).isGiven }, none)

def ofFields (fields : List (String × Json)) : Document :=
  let starts := fieldOf "entry_points" fields
  { packages := .ofObjects readPackage (fieldOf? "packages" fields)
    functions := .ofObjects readFunction (fieldOf? "functions" fields)
    calls := .ofObjects readCall (fieldOf? "edges" fields)
    entryPoints :=
      if starts.isGiven then .ofValue (fun v => (some v, none)) starts else ⟨[], none⟩
    program := (fieldOf? "program" fields).getD (.text "") }

/-- Reads a document from a value; one without fields is at fault from its first section on. -/
def ofValue : Json → Document
  | .object fields => ofFields fields
  | _ => { packages := ⟨[], some .notAnEntry⟩ }

/-- Every section has the expected shape, and what is given as a name, a key or a site is a text. -/
structure WellTyped (d : Document) : Prop where
  packages : d.packages.misfit = none
  paths : ∀ e ∈ d.packages.entries, e.path.isText ∧ e.name.all isText
  functions : d.functions.misfit = none
  names : ∀ e ∈ d.functions.entries,
    (e.id.isNull ∨ e.id.isText) ∧ (e.package.isNull ∨ e.package.isText) ∧
      e.name.all isText ∧ e.recv.all isText ∧ e.synthetic.all isText
  calls : d.calls.misfit = none
  ends : ∀ e ∈ d.calls.entries,
    (e.caller.isNull ∨ e.caller.isText) ∧ (e.callee.isNull ∨ e.callee.isText) ∧ e.site.isText
  entryPoints : d.entryPoints.misfit = none
  starts : ∀ v ∈ d.entryPoints.entries, v.isText
  program : d.program.isGiven → d.program.isText

instance (d : Document) : Decidable d.WellTyped :=
  decidable_of_iff
    (d.packages.misfit = none ∧ (∀ e ∈ d.packages.entries, e.path.isText ∧ e.name.all isText) ∧
      d.functions.misfit = none ∧
      (∀ e ∈ d.functions.entries,
        (e.id.isNull ∨ e.id.isText) ∧ (e.package.isNull ∨ e.package.isText) ∧
          e.name.all isText ∧ e.recv.all isText ∧ e.synthetic.all isText) ∧
      d.calls.misfit = none ∧
      (∀ e ∈ d.calls.entries,
        (e.caller.isNull ∨ e.caller.isText) ∧ (e.callee.isNull ∨ e.callee.isText) ∧
          e.site.isText) ∧
      d.entryPoints.misfit = none ∧ (∀ v ∈ d.entryPoints.entries, v.isText) ∧
      (d.program.isGiven → d.program.isText))
    ⟨fun ⟨p, q, f, n, c, e, i, s, g⟩ => ⟨p, q, f, n, c, e, i, s, g⟩,
      fun ⟨p, q, f, n, c, e, i, s, g⟩ => ⟨p, q, f, n, c, e, i, s, g⟩⟩

end Document

namespace FunctionEntry

def describes (e : FunctionEntry) : Bool := e.id.isGiven && !e.package.isNull

def keys? (e : FunctionEntry) : Option (Atom × Atom) :=
  if e.describes then
    match Atom.ofJson? e.id, Atom.ofJson? e.package with
    | some id, some path => some (id, path)
    | _, _ => none
  else none

end FunctionEntry

def Document.skipped (d : Document) : Nat := d.functions.entries.countP fun e => !e.describes

end CallAtlas
