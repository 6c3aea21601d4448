import CallAtlas.Analysis.Basic
import CallAtlas.Analysis.Document
import CallAtlas.Event
set_option autoImplicit false

/-!
# From documents to analyses

The entries of a document become a closed world: the package of every function and both ends of
every call are known. Functions and packages that are referred to but not described get a placeholder
that their id or path implies, which has to be a text for that.
-/

namespace CallAtlas

inductive LoadError where
  | misfit (m : Misfit)
  /-- Packages of the program do not compile; the messages in the order of the document. -/
  | packageErrors (messages : List String)
  | noEntryPoint
  | unknownEntryPoints (ids : List String)
  deriving DecidableEq, Repr

namespace LoadError

def message : LoadError → String
  | .misfit _ => ""
  | .packageErrors _ => "packages contain errors"
  | .noEntryPoint => "no main packages"
  | .unknownEntryPoints ids => "Unknown entry points: " ++ ", ".intercalate ids

end LoadError

/-- The packages and functions met so far, each in the order it was met first. -/
structure World where
  packages : List Package
  functions : List Function
  deriving Repr, Inhabited

namespace World

def knowsPackage (w : World) (path : Atom) : Bool :=
  (Roster.find? Package.key path.key w.packages).isSome

def knowsFunction (w : World) (id : Atom) : Bool :=
  (Roster.find? Function.id id.key w.functions).isSome

/-- The package of a path, with the name the path implies if nothing else is known. -/
def packageAt (w : World) (path : Atom) : Package :=
  (Roster.find? Package.key path.key w.packages).getD (Package.ofPath path)

def withPackage (w : World) (path : Atom) : World :=
  { w with packages := Roster.add Package.key (w.packageAt path) w.packages }

def nameOfId (id : String) : String := Text.afterLast '.' id

def described (w : World) (e : FunctionEntry) (id path : Atom) : Function :=
  { id := id.key
    name := e.name.getD (.text (nameOfId id.inSentence))
    package := path
    recv := e.recv
    synthetic := e.synthetic
    std := (w.packageAt path).std
    given := id
    met := id }

/-- A world that knows the function of an entry; a later entry for the same id replaces the earlier
one. -/
def declare (w : World) (e : FunctionEntry) : World :=
  match e.keys? with
  | none => w
  | some (id, path) =>
    let w := w.withPackage path
    { w with
      functions := Roster.putWith Function.id Function.renewed (w.described e id path) w.functions }

def pathOfId (id : String) : String :=
  if Text.beforeLast '.' id = "" then id else Text.beforeLast '.' id

def implied (w : World) (id : Atom) : Function :=
  let name := nameOfId id.inSentence
  let path : Atom := .text (pathOfId id.inSentence)
  { id := id.key
    name := if name = "" then id.toJson else .text name
    package := path
    std := (w.packageAt path).std
    given := id
    met := id }

def mention (w : World) (id : Atom) : World :=
  if w.knowsFunction id then w
  else
    let w := w.withPackage (.text (pathOfId id.inSentence))
    { w with functions := w.functions ++ [w.implied id] }

def mentionCall (w : World) (c : Call) : World := (w.mention c.caller).mention c.callee

/-- What is wrong with an entry that describes a function. The package is looked at before the name
and the name before the id. -/
def misfitOf (w : World) (e : FunctionEntry) : Option Misfit :=
  if !e.describes then none
  else match Atom.ofJson? e.package with
    | none => some .notSingle
    | some path =>
      if !path.isText && !w.knowsPackage path then some .notAText
      else if e.name.isNone && !e.id.isText then some .notAText
      else if (Atom.ofJson? e.id).isNone then some .notSingle
      else none

/-- Whether a call may end at a value: at a function that is known, or at one that a text implies. -/
def mayEndAt (w : World) (v : Json) : Bool :=
  v.isText || (Atom.ofJson? v).any w.knowsFunction

def misfitOfCall (w : World) (e : CallEntry) : Option Misfit :=
  if e.caller.isNull || e.callee.isNull || (w.mayEndAt e.caller && w.mayEndAt e.callee) then none
  else some .notAText

end World

namespace CallEntry

def call? (e : CallEntry) : Option Call :=
  match Atom.ofJson? e.caller, Atom.ofJson? e.callee with
  | some caller, some callee => some ⟨caller.key, callee.key, e.site, e.dynamic, callee⟩
  | _, _ => none

end CallEntry

namespace Analysis

def discover (packages : List Package) (functions : List Function) :
    Except LoadError (List Atom) :=
  match mains packages functions with
  | [] => .error .noEntryPoint
  | ids => if Atom.ofOneKind ids then .ok ids else .error (.misfit .severalKinds)

end Analysis

namespace PackageEntry

def package (e : PackageEntry) : Package :=
  { path := e.path, name := e.name.getD (Package.ofPath e.path).name, std := e.std }

end PackageEntry

namespace Document

/-- The packages that the package entries describe; a later entry for the same path replaces the
earlier one in its place. -/
def packageTable (entries : List PackageEntry) : List Package :=
  entries.foldl (fun packages e => Roster.putWith Package.key Package.renewed e.package packages) []

def packageErrors (d : Document) : List (String × String) :=
  d.packages.entries.flatMap fun e => e.errors.map fun message => (e.path.inSentence, message)

def events (d : Document) : List Event := d.packageErrors.map fun e => .packageError e.1 e.2

def callList (d : Document) : List Call := d.calls.entries.filterMap CallEntry.call?

def packaged (d : Document) : World := ⟨packageTable d.packages.entries, []⟩

def described (d : Document) : World := d.functions.entries.foldl World.declare d.packaged

/-- The packages and functions of the document with all placeholders. -/
def world (d : Document) : World := d.callList.foldl World.mentionCall d.described

def unknownStarts (d : Document) (w : World) : List Json :=
  d.entryPoints.entries.filter fun v => !(Atom.ofJson? v).any w.knowsFunction

def starts (d : Document) (w : World) : Except LoadError (List Atom) :=
  match d.entryPoints.misfit, d.entryPoints.entries with
  | some m, _ => .error (.misfit m)
  | none, [] => Analysis.discover w.packages w.functions
  | none, ids =>
    match d.unknownStarts w with
    | [] => .ok (ids.filterMap Atom.ofJson?)
    | unknown =>
      if unknown.all Json.isText then
        .error (.unknownEntryPoints (Text.sorted (unknown.filterMap Json.text?)))
      else .error (.misfit .notAnId)

/-- The first misfit among the functions and calls. What an entry refers to has to be known from the
sections before it unless it is a text. -/
def misfit? (d : Document) : Option Misfit :=
  (d.functions.misfitBy d.packaged.misfitOf).or (d.calls.misfitBy d.described.misfitOfCall)

/-- Loads a document. Package errors are looked at before any function, and the functions and calls
before the entry points. -/
def load (d : Document) : Except LoadError Analysis :=
  match d.packages.misfit with
  | some m => .error (.misfit m)
  | none =>
    if !d.packageErrors.isEmpty then
      .error (.packageErrors (d.packageErrors.map fun e => e.1 ++ ": " ++ e.2))
    else match d.misfit? with
      | some m => .error (.misfit m)
      | none =>
        let w := d.world
        match d.starts w with
        | .error e => .error e
        | .ok ids =>
          .ok { packages := w.packages, functions := w.functions, calls := d.callList
                entryPoints := ids, program := d.program }

end Document

end CallAtlas
