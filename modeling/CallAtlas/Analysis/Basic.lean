import CallAtlas.Analysis.Site
import CallAtlas.Json.Spelling
set_option autoImplicit false

/-!
# Analyses

A whole program call graph: packages, functions, all calls between them and the functions the
program starts at. Parallel calls are kept apart.
-/

namespace CallAtlas

structure Package where
  /-- The path as the entry that counts writes it. -/
  path : Atom
  name : Json
  std : Bool := false
  /-- The path as it was met first. -/
  met : Atom := path
  deriving Repr, Inhabited

structure Function where
  id : Atom
  name : Json
  package : Atom
  recv : Option Json := none
  /-- What a function that was not written by hand is for. -/
  synthetic : Option Json := none
  std : Bool := false
  /-- The id as the entry that counts writes it. -/
  given : Atom := id
  /-- The id as it was met first. -/
  met : Atom := id
  deriving Repr, Inhabited

def Function.isSynthetic (f : Function) : Bool := f.synthetic.isSome

structure Call where
  caller : Atom
  callee : Atom
  site : Json := .text ""
  dynamic : Bool := false
  /-- The callee as the call writes it. -/
  written : Atom := callee
  deriving Repr, Inhabited

/-- A whole program call graph; packages are known by the keys of their paths, functions by the keys
of their ids. -/
structure Analysis where
  packages : List Package
  functions : List Function
  calls : List Call
  entryPoints : List Atom
  program : Json
  deriving Repr, Inhabited

namespace Package

/-- The name a package has by its path: the last step that is not empty. -/
def nameOfPath (path : String) : String := Text.afterLast '/' (Text.dropTrailing '/' path)

def ofPath (path : Atom) : Package :=
  { path := path, name := .text (nameOfPath path.inSentence) }

def key (p : Package) : Atom := p.path.key

def pathAsMet (p : Package) : Atom := p.path.shownAs p.met

def renewed (known new : Package) : Package := { new with met := known.met }

@[simp] theorem key_renewed (known new : Package) : (known.renewed new).key = new.key := rfl

def isCalled (p : Package) (name : String) : Bool := p.name.text? = some name

end Package

namespace Function

def idAsGiven (f : Function) : Atom := f.id.shownAs f.given

def idAsMet (f : Function) : Atom := f.id.shownAs f.met

def renewed (known new : Function) : Function := { new with met := known.met }

@[simp] theorem id_renewed (known new : Function) : (known.renewed new).id = new.id := rfl

end Function

namespace Analysis

def mainName : String := "main"

def package? (a : Analysis) (path : Atom) : Option Package :=
  Roster.find? Package.key path.key a.packages

def function? (a : Analysis) (id : Atom) : Option Function :=
  Roster.find? Function.id id.key a.functions

def packagesCalled (a : Analysis) (name : String) : List Package :=
  a.packages.filter fun p => p.isCalled name

/-- Whether a program starts at `f`: a plain `main` of a package that is called `main`. -/
def isMain (packages : List Package) (f : Function) : Bool :=
  (Roster.find? Package.key f.package.key packages).any (fun p => p.isCalled mainName) &&
    f.name.text? = some mainName && f.recv.isNone && !f.isSynthetic

def mains (packages : List Package) (functions : List Function) : List Atom :=
  Atom.sortedBy id ((functions.filter (isMain packages)).map Function.idAsMet)

def callsBetween (a : Analysis) (caller callee : Atom) : List Call :=
  a.calls.filter fun c => c.caller = caller.key && c.callee = callee.key

def orderedCalls (a : Analysis) : List Call :=
  a.calls.mergeSort fun c d =>
    c.caller.before d.caller || (c.caller = d.caller && c.callee.le d.callee)

def metAs (a : Analysis) (id : Atom) : Atom :=
  if id.isText then id else ((Roster.find? Function.id id a.functions).map Function.met).getD id

/-- The callee of a call as the first call between the same functions writes it. -/
def calleeAsMet (a : Analysis) (c : Call) : Atom :=
  if c.callee.isText then c.callee
  else
    let first? := a.calls.find? fun d => d.caller = c.caller && d.callee = c.callee
    (first?.map Call.written).getD c.callee

def summary (a : Analysis) (programText : String) : String :=
  "AnalysisResult(program=" ++ programText ++ ", functions=" ++ toString a.functions.length ++
    ", edges=" ++ toString a.calls.length ++ ", entry_points=" ++ toString a.entryPoints.length ++ ")"

end Analysis

end CallAtlas
