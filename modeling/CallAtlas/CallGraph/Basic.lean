import CallAtlas.Analysis.Basic
import CallAtlas.Roster
import CallAtlas.Search
set_option autoImplicit false

/-!
# Call graphs

The graph that a view is cut out of: functions, and at most one edge from a caller to a callee.
Each edge keeps the sites of all the calls it stands for.
-/

namespace CallAtlas

structure Edge where
  caller : Atom
  callee : Atom
  sites : List Site := []
  dynamic : Bool := false
  /-- Whether the edge stands for calls through a wrapper only. -/
  elided : Bool := false
  /-- The callee as the first of the calls writes it. -/
  written : Atom := callee
  deriving Repr, Inhabited

namespace Edge

def ends (e : Edge) : Atom × Atom := (e.caller, e.callee)

def merge (e d : Edge) : Edge :=
  { e with sites := Site.union d.sites e.sites, dynamic := e.dynamic || d.dynamic }

def calleeAsMet (e : Edge) : Atom := e.callee.shownAs e.written

@[simp] theorem ends_merge (e d : Edge) : (e.merge d).ends = e.ends := rfl

theorem ends_merge_of_eq (d e : Edge) (h : e.ends = d.ends) : (e.merge d).ends = d.ends := h

end Edge

structure CallGraph where
  functions : List Function
  edges : List Edge
  deriving Repr, Inhabited

namespace CallGraph

def ids (g : CallGraph) : List Atom := g.functions.map Function.id

def out (g : CallGraph) (id : Atom) : List Edge := g.edges.filter fun e => e.caller = id

def into (g : CallGraph) (id : Atom) : List Edge := g.edges.filter fun e => e.callee = id

def callees (g : CallGraph) (id : Atom) : List Atom := (g.out id).map Edge.callee

def callers (g : CallGraph) (id : Atom) : List Atom := (g.into id).map Edge.caller

def restrict (g : CallGraph) (keep : Function → Bool) : CallGraph :=
  let functions := g.functions.filter keep
  let ids := functions.map Function.id
  { functions := functions
    edges := g.edges.filter fun e => e.caller ∈ ids && e.callee ∈ ids }

def without (g : CallGraph) (gone : List Atom) : CallGraph := g.restrict fun f => f.id ∉ gone

/-- Edges with one more in it: the calls of an edge between the same functions are merged into
it. -/
def addEdge (d : Edge) (es : List Edge) : List Edge := Roster.putWith Edge.ends Edge.merge d es

theorem nodup_ends_addEdge (d : Edge) {es : List Edge} (h : (es.map Edge.ends).Nodup) :
    ((addEdge d es).map Edge.ends).Nodup :=
  Roster.nodup_keys_putWith Edge.ends_merge_of_eq d h

theorem nodup_ends_addEdges (ds : List Edge) {es : List Edge} (h : (es.map Edge.ends).Nodup) :
    ((ds.foldl (fun es d => addEdge d es) es).map Edge.ends).Nodup := by
  induction ds generalizing es with
  | nil => exact h
  | cons d ds ih => exact ih (nodup_ends_addEdge d h)

def ofCall (c : Call) : Edge :=
  { caller := c.caller, callee := c.callee, sites := Site.ofCall c.site, dynamic := c.dynamic
    written := c.written }

/-- Calls with the parallel ones put together, each pair where its first call stands. -/
def collapse (calls : List Call) : List Edge :=
  (calls.map ofCall).foldl (fun es e => addEdge e es) []

theorem nodup_ends_collapse (calls : List Call) : ((collapse calls).map Edge.ends).Nodup :=
  nodup_ends_addEdges _ .nil

/-- Functions are told apart by their ids and edges by their ends, and edges lead from function to
function. -/
structure WellFormed (g : CallGraph) : Prop where
  nodup_ids : g.ids.Nodup
  nodup_ends : (g.edges.map Edge.ends).Nodup
  caller_mem : ∀ e ∈ g.edges, e.caller ∈ g.ids
  callee_mem : ∀ e ∈ g.edges, e.callee ∈ g.ids

theorem mem_functions_restrict {g : CallGraph} {keep : Function → Bool} {f : Function} :
    f ∈ (g.restrict keep).functions ↔ f ∈ g.functions ∧ keep f = true := List.mem_filter

theorem mem_edges_restrict {g : CallGraph} {keep : Function → Bool} {e : Edge} :
    e ∈ (g.restrict keep).edges ↔
      e ∈ g.edges ∧ e.caller ∈ (g.restrict keep).ids ∧ e.callee ∈ (g.restrict keep).ids := by
  simp [restrict, ids]

theorem wellFormed_restrict {g : CallGraph} (hi : g.ids.Nodup) (he : (g.edges.map Edge.ends).Nodup)
    (keep : Function → Bool) : (g.restrict keep).WellFormed where
  nodup_ids := hi.sublist (List.filter_sublist.map Function.id)
  nodup_ends := he.sublist (List.filter_sublist.map Edge.ends)
  caller_mem _ h := (mem_edges_restrict.1 h).2.1
  callee_mem _ h := (mem_edges_restrict.1 h).2.2

theorem WellFormed.restrict {g : CallGraph} (h : g.WellFormed) (keep : Function → Bool) :
    (g.restrict keep).WellFormed := wellFormed_restrict h.nodup_ids h.nodup_ends keep

end CallGraph

namespace Analysis

def ids (a : Analysis) : List Atom := a.functions.map Function.id

def calleesOf (a : Analysis) (id : Atom) : List Atom :=
  (a.calls.filter fun c => c.caller = id).map Call.callee

def starts (a : Analysis) : List Atom := a.entryPoints.map Atom.key

/-- The functions that can run: those the entry points lead to, the entry points included. -/
def reachable (a : Analysis) : List Atom := Search.reach a.calleesOf a.ids a.starts

def reachableCalls (a : Analysis) : List Call :=
  let ids := a.reachable
  a.calls.filter fun c => c.caller ∈ ids && c.callee ∈ ids

def wholeGraph (a : Analysis) : CallGraph :=
  { functions := a.functions, edges := CallGraph.collapse a.calls }

def callGraph (a : Analysis) : CallGraph :=
  let ids := a.reachable
  a.wholeGraph.restrict fun f => f.id ∈ ids

theorem wellFormed_callGraph {a : Analysis} (h : a.ids.Nodup) : a.callGraph.WellFormed :=
  CallGraph.wellFormed_restrict (g := a.wholeGraph) h (CallGraph.nodup_ends_collapse a.calls) _

end Analysis

end CallAtlas
