import CallAtlas.CallGraph.Forms
import CallAtlas.Json.AtomTable
import CallAtlas.Settings
import CallAtlas.View.Cluster
set_option autoImplicit false

/-!
# Views

A view is what is left of a call graph after all filters, ready to be drawn: labelled nodes and the
edges between them, both in order, and the clusters the nodes are grouped in. Ids stand in a view in
the form they are shown in, and are compared by their keys.
-/

namespace CallAtlas

structure ViewNode where
  id : Atom
  name : Json
  label : Json
  package : Atom
  packageName : Json
  recv : Option Json := none
  synthetic : Bool := false
  std : Bool := false
  focused : Bool := false
  deriving Repr, Inhabited

structure ViewEdge where
  caller : Atom
  callee : Atom
  sites : List Site := []
  dynamic : Bool := false
  elided : Bool := false
  deriving Repr, Inhabited

structure View where
  nodes : List ViewNode
  edges : List ViewEdge
  clusters : List Cluster := []
  loose : List Atom := []
  focus : Option Atom := none
  group : List String := []
  program : Json := .text ""
  deriving Repr, Inhabited

def ViewNode.key (n : ViewNode) : Atom := n.id.key

def ViewEdge.key (e : ViewEdge) : Atom × Atom := (e.caller.key, e.callee.key)

namespace Function

/-- The name of a function with as much in front of it as the clusters around it do not tell. A name
with nothing in front of it stays the value that it is. -/
def label (f : Function) (packageName : Json) (group : List GroupKey) : Json :=
  let method := match f.recv with
    | some recv =>
      if .receiver ∈ group then f.name
      else .text ("(" ++ recv.inSentence ++ ")." ++ f.name.inSentence)
    | none => f.name
  if .package ∈ group then method
  else .text (packageName.inSentence ++ "." ++ method.inSentence)

def receiverType (recv : String) : String := Text.dropLeading '*' recv

def isIn (f : Function) (focus : Option Atom) : Bool := focus.any f.package.equals

/-- The clusters a function stands in, outermost first and all still empty. A function without
receiver stands in no cluster of a type. -/
def clusterPath (f : Function) (group : List GroupKey) (focus : Option Atom) : List Cluster :=
  group.filterMap fun
    | .package => some
        { kind := GroupKey.package.text, key := f.package, label := f.package, package := f.package
          focused := f.isIn focus }
    | .receiver => f.recv.map fun recv =>
        let type := receiverType recv.inSentence
        { kind := GroupKey.receiver.text, key := .text (f.package.inSentence ++ "." ++ type)
          label := .text type, package := f.package, focused := f.isIn focus }

end Function

namespace CallGraph

def orderedFunctions (g : CallGraph) : List Function :=
  g.functions.mergeSort fun f h => f.id.le h.id

theorem orderedFunctions_perm (g : CallGraph) : g.orderedFunctions.Perm g.functions :=
  List.mergeSort_perm _ _

theorem mem_orderedFunctions {g : CallGraph} {f : Function} :
    f ∈ g.orderedFunctions ↔ f ∈ g.functions := g.orderedFunctions_perm.mem_iff

def orderedEdges (g : CallGraph) : List Edge :=
  g.edges.mergeSort fun e d =>
    e.caller.before d.caller || (e.caller = d.caller && e.callee.le d.callee)

theorem orderedEdges_perm (g : CallGraph) : g.orderedEdges.Perm g.edges :=
  List.mergeSort_perm _ _

theorem mem_orderedEdges {g : CallGraph} {e : Edge} : e ∈ g.orderedEdges ↔ e ∈ g.edges :=
  g.orderedEdges_perm.mem_iff

end CallGraph

namespace View

def ids (v : View) : List Atom := v.nodes.map ViewNode.id

def node? (v : View) (id : Atom) : Option ViewNode := v.nodes.find? fun n => n.id.equals id

/-- All clusters, outer before inner, each with the one it stands in. -/
def clustersWithParents (v : View) : List (Cluster × Option Cluster) :=
  Cluster.forestWithParents none v.clusters

/-- All clusters as they are met by taking one after the other, each with the one it stands in. -/
def visits (v : View) : List (Cluster × Option Cluster) :=
  Cluster.visit (Cluster.push none v.clusters [])

/-- The clusters around each clustered node, outermost first. What is said last of a node counts. -/
def chains (v : View) : Atom.Table (List Cluster) :=
  Atom.Table.ofList (Cluster.forestPlacements [] v.clusters)

def chain? (v : View) (id : Atom) : Option (List Cluster) := v.chains.find? id

def nodeOf (a : Analysis) (group : List GroupKey) (focus : Option Atom) (forms : Forms)
    (f : Function) : ViewNode :=
  let packageName := ((a.package? f.package).map Package.name).getD f.package.toJson
  { id := forms.of f.id
    name := f.name
    label := f.label packageName group
    package := f.package
    packageName := packageName
    recv := f.recv
    synthetic := f.isSynthetic
    std := f.std
    focused := f.isIn focus }

def edgeOf (forms : Forms) (e : Edge) : ViewEdge :=
  { caller := forms.of e.caller, callee := e.calleeAsMet, sites := e.sites, dynamic := e.dynamic
    elided := e.elided }

def clustersOf (group : List GroupKey) (focus : Option Atom) (forms : Forms)
    (functions : List Function) : List Cluster :=
  Cluster.sortedForest (functions.foldl (fun forest f =>
    Cluster.place (forms.of f.id) (f.clusterPath group focus) forest) [])

def looseOf (group : List GroupKey) (focus : Option Atom) (forms : Forms)
    (functions : List Function) : List Atom :=
  (functions.filter fun f => (f.clusterPath group focus).isEmpty).map fun f => forms.of f.id

def ofGraph (a : Analysis) (group : List GroupKey) (focus : Option Atom) (forms : Forms)
    (g : CallGraph) : View :=
  let functions := g.orderedFunctions
  { nodes := functions.map (nodeOf a group focus forms)
    edges := g.orderedEdges.map (edgeOf forms)
    clusters := clustersOf group focus forms functions
    loose := looseOf group focus forms functions
    focus := focus
    group := group.map GroupKey.text
    program := a.program }

end View

end CallAtlas
