import CallAtlas.CallGraph.Trace
set_option autoImplicit false

/-!
# Wrappers

A synthetic function that leads, through synthetic functions only, to at most one real function is
a wrapper and can be taken out: its callers are joined to that function.
-/

namespace CallAtlas.CallGraph

def synthetics (g : CallGraph) : List Atom := (g.functions.filter Function.isSynthetic).map Function.id

/-- A function that is taken out, the real function it leads to if there is one, and whether a
dynamic call was followed on the way. -/
structure Wrapper where
  id : Atom
  target : Option Atom
  dynamic : Bool
  /-- The target as the first call to it is written. -/
  written : Option Atom := target
  deriving Repr

/-- The wrapper that a synthetic function is, unless it leads to several real functions. -/
def wrapper? (g : CallGraph) (synthetic : List Atom) (id : Atom) : Option Wrapper :=
  let t := g.trace synthetic id
  match t.found with
  | [] => some ⟨id, none, t.dynamic, none⟩
  | [target] => some ⟨id, some target, t.dynamic, t.foundAs⟩
  | _ => none

def wrappers (g : CallGraph) : List Wrapper :=
  let synthetic := g.synthetics
  (Atom.sorted synthetic).filterMap (g.wrapper? synthetic)

/-- The edges that take the place of the calls to a wrapper by functions that stay. -/
def bridges (g : CallGraph) (gone : List Atom) (w : Wrapper) : List Edge :=
  match w.target with
  | none => []
  | some target =>
    ((g.into w.id).filter fun e => e.caller ∉ gone).map fun e =>
      { e with
        callee := target, dynamic := e.dynamic || w.dynamic, elided := true
        written := w.written.getD target }

def bridged (g : CallGraph) (wrappers : List Wrapper) : List Edge :=
  (wrappers.flatMap (g.bridges (wrappers.map Wrapper.id))).foldl (fun es e => addEdge e es) g.edges

def withoutWrappers (g : CallGraph) : CallGraph :=
  let wrappers := g.wrappers
  CallGraph.without ⟨g.functions, g.bridged wrappers⟩ (wrappers.map Wrapper.id)

theorem WellFormed.withoutWrappers {g : CallGraph} (h : g.WellFormed) :
    g.withoutWrappers.WellFormed :=
  wellFormed_restrict (g := ⟨g.functions, g.bridged g.wrappers⟩) h.nodup_ids
    (nodup_ends_addEdges _ h.nodup_ends) _

end CallAtlas.CallGraph
