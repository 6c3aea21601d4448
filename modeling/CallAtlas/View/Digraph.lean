import CallAtlas.View.Basic
set_option autoImplicit false

/-!
# Directed graphs with attributes

A view as a plain directed graph in which every node and every pair of nodes carries at most one
record of attributes. Nodes are listed as they were met, and edges by the node they leave.
-/

namespace CallAtlas

structure Digraph where
  /-- Nodes by id; a node that only an edge speaks of has no attributes. -/
  nodes : Atom.Table (Option ViewNode)
  edges : List ViewEdge
  program : Json
  focus : Option Atom
  deriving Repr

namespace Digraph

def mention (nodes : Atom.Table (Option ViewNode)) (id : Atom) : Atom.Table (Option ViewNode) :=
  if (nodes.find? id).isSome then nodes else nodes.put id none

/-- The nodes of a view and the ends of its edges. What is said last of a node counts. -/
def nodesOf (v : View) : Atom.Table (Option ViewNode) :=
  v.edges.foldl (fun nodes e => mention (mention nodes e.caller) e.callee)
    (Atom.Table.ofList (v.nodes.map fun n => (n.id, some n)))

/-- What is said last of a pair of nodes, between the forms in which they were met first. -/
def renewed (known new : ViewEdge) : ViewEdge :=
  { new with caller := known.caller, callee := known.callee }

def edgesOf (v : View) : List ViewEdge :=
  v.edges.foldl (fun edges e => Roster.putWith ViewEdge.key renewed e edges) []

def leaving (edges : List ViewEdge) (id : Atom) : List ViewEdge :=
  (edges.filter fun e => e.caller.same id).map fun e => { e with caller := id }

def ofView (v : View) : Digraph :=
  let nodes := nodesOf v
  let edges := edgesOf v
  { nodes := nodes
    edges := nodes.flatMap fun n => leaving edges n.1
    program := v.program
    focus := v.focus }

end Digraph

end CallAtlas
