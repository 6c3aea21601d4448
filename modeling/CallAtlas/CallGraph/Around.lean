import CallAtlas.CallGraph.Basic
set_option autoImplicit false

/-!
# Path filters and focus

The functions of a graph that path prefixes let pass, and those that call or are called by the
functions of one package, directly or through others.
-/

namespace CallAtlas.CallGraph

/-- Whether a package is shown: no prefix of `ignore` fits and, if there is an `only`, one of its
does. -/
def passes (ignore only : List String) (package : Atom) : Bool :=
  !package.startsWithAny ignore && (only.isEmpty || package.startsWithAny only)

def filtered (g : CallGraph) (ignore only : List String) : CallGraph :=
  g.restrict fun f => passes ignore only f.package

theorem WellFormed.filtered {g : CallGraph} (h : g.WellFormed) (ignore only : List String) :
    (g.filtered ignore only).WellFormed := h.restrict _

def members (g : CallGraph) (path : Atom) : List Atom :=
  (g.functions.filter fun f => f.package.equals path).map Function.id

def around (g : CallGraph) (path : Atom) : List Atom :=
  let members := g.members path
  Search.reach g.callers g.ids members ++ Search.reach g.callees g.ids members

def focused (g : CallGraph) (path : Atom) : CallGraph :=
  let ids := g.around path
  g.restrict fun f => f.id ∈ ids

theorem WellFormed.focused {g : CallGraph} (h : g.WellFormed) (path : Atom) :
    (g.focused path).WellFormed := h.restrict _

end CallAtlas.CallGraph
