import CallAtlas.Dot.Quoted
set_option autoImplicit false

/-!
# DOT documents

The statements a call graph is written with: default attributes, numbered clusters that hold nodes
and clusters, nodes outside clusters, and edges. Every statement stands on lines of its own.
-/

namespace CallAtlas.Dot

abbrev Attributes := List (String × String)

structure NodeStatement where
  id : String
  attributes : Attributes
  deriving DecidableEq, Repr

structure EdgeStatement where
  tail : String
  head : String
  attributes : Attributes
  deriving DecidableEq, Repr

structure Block where
  number : Nat
  attributes : Attributes
  nodes : List NodeStatement
  blocks : List Block
  deriving Repr

structure Document where
  graph : Attributes
  nodeDefaults : Attributes
  edgeDefaults : Attributes
  blocks : List Block
  nodes : List NodeStatement
  edges : List EdgeStatement
  deriving Repr

def indent (depth : Nat) : String := String.ofList (List.replicate (4 * depth) ' ')

def assignment (a : String × String) : String := a.1 ++ "=" ++ quoted a.2

def bracketed (as : Attributes) : String := "[" ++ ", ".intercalate (as.map assignment) ++ "]"

namespace NodeStatement

def line (s : NodeStatement) : String := quoted s.id ++ " " ++ bracketed s.attributes ++ ";"

end NodeStatement

namespace EdgeStatement

def line (s : EdgeStatement) : String :=
  quoted s.tail ++ " -> " ++ quoted s.head ++
    (if s.attributes.isEmpty then "" else " " ++ bracketed s.attributes) ++ ";"

end EdgeStatement

namespace Block

mutual

def lines (depth : Nat) : Block → List String
  | ⟨number, attributes, nodes, blocks⟩ =>
    [indent depth ++ "subgraph cluster_" ++ toString number ++ " \x7b"] ++
      attributes.map (fun a => indent (depth + 1) ++ assignment a ++ ";") ++
      nodes.map (fun s => indent (depth + 1) ++ s.line) ++
      allLines (depth + 1) blocks ++ [indent depth ++ "\x7d"]

def allLines (depth : Nat) : List Block → List String
  | [] => []
  | b :: bs => lines depth b ++ allLines depth bs

end

end Block

namespace Document

def lines (d : Document) : List String :=
  ["digraph callgraph \x7b", indent 1 ++ "graph " ++ bracketed d.graph ++ ";",
    indent 1 ++ "node " ++ bracketed d.nodeDefaults ++ ";",
    indent 1 ++ "edge " ++ bracketed d.edgeDefaults ++ ";", ""] ++
    Block.allLines 1 d.blocks ++ d.nodes.map (fun s => indent 1 ++ s.line) ++
    (if d.edges.isEmpty then [] else [""]) ++ d.edges.map (fun s => indent 1 ++ s.line) ++ ["\x7d"]

def render (d : Document) : String := "\n".intercalate d.lines ++ "\n"

end Document

end CallAtlas.Dot
