import CallAtlas.Misfit
import CallAtlas.View.Basic
set_option autoImplicit false

/-!
# Diagram elements

A view as the flat list of elements that an interactive diagram takes: the clusters, outer before
inner, then the functions and then the calls. Clusters and functions name the cluster they stand in.
-/

namespace CallAtlas

inductive Element where
  | cluster (id : String) (label : Atom) (kind : String) (focused : Bool) (parent : Option String)
  | function (node : ViewNode) (color : String) (parent : Option String)
  | call (id : String) (edge : ViewEdge) (sites : String)
  deriving Repr

namespace Element

def palette : List String :=
  ["#38bdf8", "#a855f7", "#ec4899", "#f97316", "#22d3ee", "#4ade80", "#facc15", "#fb7185"]

/-- The colour of a package among all packages of a view: by its place in their order. -/
def color (packages : List Atom) (package : Atom) : String :=
  let ordered := Atom.sorted (packages.map Atom.key).eraseDups
  palette.getD (ordered.idxOf package.key % palette.length) ""

def clusterId (parent : Option String) (kind : String) (key : Atom) : String :=
  (match parent with
    | some p => p ++ "/"
    | none => "") ++ "cluster:" ++ kind ++ ":" ++ key.inSentence

mutual

def ofCluster (parent : Option String) : Cluster → List Element
  | ⟨kind, key, label, _, _, clusters, focused⟩ =>
    let id := clusterId parent kind key
    .cluster id label kind focused parent :: ofForest (some id) clusters

def ofForest (parent : Option String) : List Cluster → List Element
  | [] => []
  | c :: cs => ofCluster parent c ++ ofForest parent cs

end

mutual

/-- Each function of a cluster and of all clusters in it with the id of its innermost cluster. -/
def homes (parent : Option String) : Cluster → List (Atom × String)
  | ⟨kind, key, _, _, members, clusters, _⟩ =>
    let id := clusterId parent kind key
    members.map (fun member => (member, id)) ++ forestHomes (some id) clusters

def forestHomes (parent : Option String) : List Cluster → List (Atom × String)
  | [] => []
  | c :: cs => homes parent c ++ forestHomes parent cs

end

/-- The id of the cluster a function stands in, the last one if there are several. -/
def home? (v : View) (id : Atom) : Option String :=
  ((forestHomes none v.clusters).reverse.find? fun h => h.1.same id).map Prod.snd

def ofEdge? (e : ViewEdge) (place : Nat) : Option Element :=
  (e.sites.mapM Atom.text?).map fun sites =>
    .call ("edge-" ++ toString place) e (", ".intercalate sites)

end Element

/-- The elements of a view. The packages have to be of one kind for their colours, and the call sites
texts. -/
def View.elements (v : View) : Except Misfit (List Element) :=
  let packages := v.nodes.map ViewNode.package
  if !Atom.ofOneKind packages then .error .severalKinds
  else match v.edges.zipIdx.mapM fun e => Element.ofEdge? e.1 e.2 with
    | none => .error .siteNotText
    | some calls =>
      let functions := v.nodes.map fun n =>
        Element.function n (Element.color packages n.package) (Element.home? v n.id)
      .ok (Element.ofForest none v.clusters ++ functions ++ calls)

end CallAtlas
