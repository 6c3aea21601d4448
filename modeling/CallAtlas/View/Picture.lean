import CallAtlas.Misfit
import CallAtlas.View.Digraph
set_option autoImplicit false

/-!
# Static pictures

What a picture of a view shows: the nodes with the colour of their outermost cluster, static calls as
solid and dynamic calls as dashed lines, outlines around the functions in focus, labels and a title.
Where the nodes stand is not part of a picture.
-/

namespace CallAtlas

inductive Layout where
  | spring
  | kamadaKawai
  deriving DecidableEq, Repr

namespace Layout

def text : Layout → String
  | .spring => "spring"
  | .kamadaKawai => "kamada-kawai"

def ofText (s : String) : Layout := if s = "kamada-kawai" then .kamadaKawai else .spring

end Layout

structure Color where
  red : Nat
  green : Nat
  blue : Nat
  alpha : Nat := 255
  deriving DecidableEq, Repr, Inhabited

structure Picture where
  layout : Layout
  nodes : List (Atom × Color)
  solid : List (Atom × Atom)
  dashed : List (Atom × Atom)
  outlined : List Atom
  labels : Option (List (Atom × Json))
  title : String
  deriving Repr

inductive PictureError where
  | noNodes
  | unknownNode (id : Atom)
  | misfit (m : Misfit)
  deriving DecidableEq, Repr

def PictureError.message : PictureError → String
  | .noNodes => "Graph contains no nodes to visualize."
  | .unknownNode _ | .misfit _ => ""

structure PictureRequest where
  layout : Layout := .spring
  showLabels : Bool := true
  title : Option String := none
  deriving Repr

namespace Picture

def palette : List Color :=
  [⟨0x1f, 0x77, 0xb4, 255⟩, ⟨0xae, 0xc7, 0xe8, 255⟩, ⟨0xff, 0x7f, 0x0e, 255⟩,
    ⟨0xff, 0xbb, 0x78, 255⟩, ⟨0x2c, 0xa0, 0x2c, 255⟩, ⟨0x98, 0xdf, 0x8a, 255⟩,
    ⟨0xd6, 0x27, 0x28, 255⟩, ⟨0xff, 0x98, 0x96, 255⟩, ⟨0x94, 0x67, 0xbd, 255⟩,
    ⟨0xc5, 0xb0, 0xd5, 255⟩, ⟨0x8c, 0x56, 0x4b, 255⟩, ⟨0xc4, 0x9c, 0x94, 255⟩,
    ⟨0xe3, 0x77, 0xc2, 255⟩, ⟨0xf7, 0xb6, 0xd2, 255⟩, ⟨0x7f, 0x7f, 0x7f, 255⟩,
    ⟨0xc7, 0xc7, 0xc7, 255⟩, ⟨0xbc, 0xbd, 0x22, 255⟩, ⟨0xdb, 0xdb, 0x8d, 255⟩,
    ⟨0x17, 0xbe, 0xcf, 255⟩, ⟨0x9e, 0xda, 0xe5, 255⟩]

def labelLimit : Nat := 150

def ungrouped : Atom := .text "(ungrouped)"

/-- The group of a node: the label of the outermost of the clusters around it. -/
def groupOf (chains : Atom.Table (List Cluster)) (id : Atom) : Atom :=
  match chains.find? id with
  | some (c :: _) => c.label
  | _ => ungrouped

def groups (v : View) : Atom.Table Atom :=
  let chains := v.chains
  Atom.Table.ofList (v.nodes.map fun n => (n.id, groupOf chains n.id))

/-- The colour of a group among all groups: by its place in their order. -/
def color (groups : List Atom) (group : Atom) : Color :=
  let ordered := Atom.sorted (groups.map Atom.key).eraseDups
  palette.getD (ordered.idxOf group.key % palette.length) default

/-- The title of a picture that is given none: how many nodes are in each group. -/
def summary (groups : List Atom) : String :=
  ", ".intercalate ((Atom.sortedBy id (groups.eraseDupsBy Atom.same)).map fun group =>
    group.inSentence ++ ": " ++ toString (groups.countP group.same))

def ofView (v : View) (request : PictureRequest) : Except PictureError Picture :=
  let g := Digraph.ofView v
  let table := groups v
  let names := table.map Prod.snd
  if v.nodes.isEmpty then .error .noNodes
  else if !Atom.ofOneKind names then .error (.misfit .severalKinds)
  else
    match List.find? (fun n => n.2.isNone) g.nodes with
    | some (id, _) => .error (.unknownNode id)
    | none =>
      let known := g.nodes.filterMap fun n => n.2.map fun node => (n.1, node)
      let chains := v.chains
      .ok
        { layout := request.layout
          nodes := known.map fun n => (n.1, color names (groupOf chains n.1))
          solid := (g.edges.filter fun e => !e.dynamic).map fun e => (e.caller, e.callee)
          dashed := (g.edges.filter fun e => e.dynamic).map fun e => (e.caller, e.callee)
          outlined := (known.filter fun n => n.2.focused).map Prod.fst
          labels :=
            if request.showLabels && known.length ≤ labelLimit then
              some (known.map fun n => (n.1, n.2.label))
            else none
          title := request.title.getD (summary names) }

end Picture

end CallAtlas
