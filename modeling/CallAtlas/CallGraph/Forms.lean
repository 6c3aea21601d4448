import CallAtlas.CallGraph.Around
set_option autoImplicit false

/-!
# Forms of ids

An id that is a number may be written in several forms, as `1`, `true` or `1.0`. A graph knows a
function by the key of its id; a view shows the form that is met first when the program is run from its
entry points. Texts have one form, so no table of forms holds one.
-/

namespace CallAtlas

abbrev Forms := List (Atom × Atom)

/-- The form of an id; an id that is not in the table is its only form. -/
def Forms.of (forms : Forms) (id : Atom) : Atom :=
  ((Roster.find? Prod.fst id forms).map Prod.snd).getD id

namespace Analysis

/-- The functions that can run in the order they are met in: one entry point after the other, and
from each the functions that fewer calls lead to first. -/
def meeting (a : Analysis) : List Atom :=
  a.starts.foldl (fun met start =>
    if start ∈ met then met
    else Search.layers a.calleesOf a.ids a.ids.length [start] (met ++ [start])) []

/-- The form in which a function is met first: as the first call to it from the functions met before,
or else as an entry point. -/
def formOf (a : Analysis) (meeting : List Atom) (id : Atom) : Atom :=
  let call? (caller : Atom) := a.calls.find? fun c => c.caller = caller && c.callee = id
  match (meeting.takeWhile (· ≠ id)).findSome? call? with
  | some c => c.written
  | none => (a.entryPoints.find? fun e => e.key = id).getD id

def forms (a : Analysis) : Forms :=
  match a.reachable.filter fun id => !id.isText with
  | [] => []
  | ids =>
    let meeting := a.meeting
    ids.map fun id => (id, a.formOf meeting id)

theorem forms_eq_nil {a : Analysis} (h : ∀ id ∈ a.reachable, id.isText) : a.forms = [] := by
  have : (a.reachable.filter fun id => !id.isText) = [] := by simpa using h
  rw [forms, this]

/-- The form of a caller: the one its function is shown in if most functions cannot run, and the one
its function was met in first if not. -/
def callerForm (a : Analysis) (forms : Forms) (id : Atom) : Atom :=
  if 2 * a.reachable.length < a.functions.length then forms.of id else a.metAs id

end Analysis

namespace CallGraph

/-- The form in which a function is met first behind another one, of which the functions are given in
the order they are met in. -/
def formBehind (g : CallGraph) (meeting : List Atom) (id : Atom) : Atom :=
  let edge? (caller : Atom) := g.edges.find? fun e => e.caller = caller && e.callee = id
  (((meeting.takeWhile (· ≠ id)).findSome? edge?).map Edge.written).getD id

/-- Forms with those of the functions that call or are called by a function, unless they are known. -/
def addFormsAround (g : CallGraph) (callerForm : Atom → Atom) (forms : Forms) (id : Atom) : Forms :=
  let meeting := Search.layers g.callees g.ids g.ids.length [id] [id]
  let before := (Search.reach g.callers g.ids [id]).map fun c => (c, callerForm c)
  let behind := meeting.map fun c => (c, g.formBehind meeting c)
  (before ++ behind).foldl (fun forms f => Roster.add Prod.fst f forms) forms

/-- The forms of what is left of a graph around a package. If that is less than half of the graph, the
functions outside the package are written as they are met from within it. -/
def formsAround (g : CallGraph) (callerForm : Atom → Atom) (path : Atom) (forms : Forms) : Forms :=
  if forms.isEmpty || g.functions.length ≤ 2 * (g.focused path).functions.length then forms
  else
    let members := Atom.sorted (g.members path)
    members.foldl (g.addFormsAround callerForm) (members.map fun id => (id, forms.of id))

end CallGraph

end CallAtlas
