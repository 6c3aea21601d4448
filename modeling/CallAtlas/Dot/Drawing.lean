import CallAtlas.Dot.Document
import CallAtlas.Misfit
import CallAtlas.View.Basic
set_option autoImplicit false

/-!
# Drawing views with DOT

Which statements a view is written with, and how functions, calls and clusters look.
-/

namespace CallAtlas.Dot

inductive DrawingError where
  | unknownNode (id : Atom)
  | misfit (m : Misfit)
  deriving DecidableEq, Repr

/-- The characters of a value, which has to be a text to be written. -/
def written (v : Json) : Except DrawingError String :=
  match v with
  | .text s => .ok s
  | _ => .error (.misfit .notAText)

def graphLook : Attributes :=
  [("rankdir", "LR"), ("newrank", "true"), ("fontname", "Helvetica"), ("fontsize", "12"),
    ("nodesep", "0.3"), ("ranksep", "0.6"), ("pad", "0.2"), ("labelloc", "t")]

def nodeLook : Attributes :=
  [("shape", "box"), ("style", "rounded,filled"), ("fillcolor", "#fefce8"),
    ("fontname", "Helvetica"), ("fontsize", "10"), ("penwidth", "0.6")]

def edgeLook : Attributes := [("color", "#475569"), ("arrowsize", "0.6"), ("penwidth", "0.7")]

def focusFill : String := "#bae6fd"
def stdFill : String := "#dcfce7"
def syntheticFill : String := "#e2e8f0"
def packageClusterFill : String := "#f8fafc"
def typeClusterFill : String := "#eef2ff"
def focusClusterFill : String := "#e0f2fe"

/-- Attributes with one set: it keeps its place if it was set before. -/
def set (name value : String) (as : Attributes) : Attributes := Roster.put Prod.fst (name, value) as

def nodeStyle (n : ViewNode) (plain : Attributes) : Attributes :=
  let filled :=
    if n.focused then set "penwidth" "1.5" (set "fillcolor" focusFill plain)
    else if n.std then set "fillcolor" stdFill plain
    else plain
  if n.synthetic then
    set "style" "dashed,rounded,filled" (set "fillcolor" syntheticFill filled)
  else filled

def nodeStatement (n : ViewNode) : Except DrawingError NodeStatement := do
  let id ← written n.id.toJson
  let label ← written n.label
  return { id := id, attributes := nodeStyle n [("label", label), ("tooltip", id)] }

def siteTexts (sites : List Site) : Except DrawingError (List String) :=
  match sites.mapM Atom.text? with
  | some texts => .ok texts
  | none => .error (.misfit .siteNotText)

/-- Elided edges are dotted and other dynamic ones dashed. -/
def edgeStyle (e : ViewEdge) : Attributes :=
  if e.elided then [("style", "dotted")] else if e.dynamic then [("style", "dashed")] else []

/-- The statement of an edge; its sites are looked at before its ends. -/
def edgeStatement (e : ViewEdge) : Except DrawingError EdgeStatement := do
  let texts ← siteTexts e.sites
  let tail ← written e.caller.toJson
  let head ← written e.callee.toJson
  let tooltip := if texts.isEmpty then [] else [("tooltip", "\n".intercalate texts)]
  return { tail := tail, head := head, attributes := edgeStyle e ++ tooltip }

def nodeNamed (nodes : List ViewNode) (id : Atom) : Except DrawingError NodeStatement :=
  match Roster.find? ViewNode.key id.key nodes.reverse with
  | some n => nodeStatement n
  | none => .error (.unknownNode id)

def clusterAttributes (kind key label : String) (focused : Bool) : Attributes :=
  let fill :=
    if focused then focusClusterFill
    else if kind = GroupKey.receiver.text then typeClusterFill
    else packageClusterFill
  [("label", label), ("tooltip", kind ++ ": " ++ key), ("style", "rounded,filled"),
    ("fillcolor", fill), ("penwidth", if focused then "1.4" else "0.6")]

mutual

/-- The block of a cluster that has the number `n`, and the number of the next block. -/
def blockOf (nodes : List ViewNode) (n : Nat) : Cluster → Except DrawingError (Block × Nat)
  | ⟨kind, key, label, _, members, clusters, focused⟩ => do
    let label ← written label.toJson
    let statements ← members.mapM (nodeNamed nodes)
    let (blocks, next) ← blocksOf nodes (n + 1) clusters
    return (⟨n, clusterAttributes kind key.inSentence label focused, statements, blocks⟩, next)

def blocksOf (nodes : List ViewNode) (n : Nat) :
    List Cluster → Except DrawingError (List Block × Nat)
  | [] => .ok ([], n)
  | c :: cs => do
    let (b, n) ← blockOf nodes n c
    let (bs, n) ← blocksOf nodes n cs
    return (b :: bs, n)

end

/-- What stands above the drawing: the program and the package in focus. A program that is no text
cannot stand alone. -/
def title (v : View) : Except DrawingError String :=
  let program := if v.program.isGiven then v.program else .text "callgraph"
  match v.focus.filter Atom.isGiven with
  | some path => .ok (program.inSentence ++ " (focus: " ++ path.inSentence ++ ")")
  | none => written program

def Document.ofView (v : View) : Except DrawingError Document := do
  let title ← title v
  let (blocks, _) ← blocksOf v.nodes 0 v.clusters
  let loose ← v.loose.mapM (nodeNamed v.nodes)
  let edges ← v.edges.mapM edgeStatement
  return { graph := graphLook ++ [("label", title)], nodeDefaults := nodeLook
           edgeDefaults := edgeLook, blocks := blocks, nodes := loose, edges := edges }

def write (v : View) : Except DrawingError String := (Document.ofView v).map Document.render

end CallAtlas.Dot
