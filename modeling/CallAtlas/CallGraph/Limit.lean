import CallAtlas.CallGraph.Basic
set_option autoImplicit false

/-!
# Limited packages

In limited packages only functions near the boundary are shown: those that the program starts at,
that nothing calls or that are called from outside stand on the first level, and every call inside
the limited packages leads one level deeper.
-/

namespace CallAtlas.CallGraph

def limited (g : CallGraph) (prefixes : List String) : List Atom :=
  (g.functions.filter fun f => f.package.startsWithAny prefixes).map Function.id

def isBoundary (g : CallGraph) (limited entryPoints : List Atom) (id : Atom) : Bool :=
  id ∈ entryPoints || (g.callers id).isEmpty || (g.callers id).any (· ∉ limited)

def shallow (g : CallGraph) (limited entryPoints : List Atom) (depth : Nat) : List Atom :=
  Search.within g.callees limited (depth - 1) (limited.filter (g.isBoundary limited entryPoints))

def tooDeep (g : CallGraph) (prefixes : List String) (entryPoints : List Atom) (depth : Nat) :
    List Atom :=
  let limited := g.limited prefixes
  let shown := g.shallow limited entryPoints depth
  limited.filter (· ∉ shown)

def withinLimit (g : CallGraph) (prefixes : List String) (entryPoints : List Atom) (depth : Nat) :
    CallGraph :=
  g.without (g.tooDeep prefixes entryPoints depth)

theorem WellFormed.withinLimit {g : CallGraph} (h : g.WellFormed)
    (prefixes : List String) (entryPoints : List Atom) (depth : Nat) :
    (g.withinLimit prefixes entryPoints depth).WellFormed := h.restrict _

end CallAtlas.CallGraph
