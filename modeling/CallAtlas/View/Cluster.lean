import CallAtlas.Json.Atom
set_option autoImplicit false

/-!
# Clusters

A cluster holds functions, by their ids, and further clusters. This module walks through forests of
clusters: outer clusters come before the ones in them, and siblings in their order.
-/

namespace CallAtlas

structure Cluster where
  kind : String
  key : Atom
  label : Atom
  /-- The path of the package of the function that the cluster was made for. -/
  package : Atom
  members : List Atom := []
  clusters : List Cluster := []
  focused : Bool := false
  deriving Repr, Inhabited

namespace Cluster

def before (c d : Cluster) : Bool := c.kind < d.kind || (c.kind = d.kind && c.key.before d.key)

def same (c d : Cluster) : Bool := c.kind = d.kind && c.key.same d.key

/-- Whether siblings have an order: keys of one kind are all texts, or none is. -/
def siblingsOrdered (cs : List Cluster) : Bool :=
  cs.all fun c => Atom.ofOneKind ((cs.filter fun d => d.kind = c.kind).map Cluster.key)

mutual

/-- A cluster and all clusters in it, each with the one it stands in. -/
def withParents (parent : Option Cluster) : Cluster → List (Cluster × Option Cluster)
  | ⟨kind, key, label, package, members, clusters, focused⟩ =>
    let c : Cluster := ⟨kind, key, label, package, members, clusters, focused⟩
    (c, parent) :: forestWithParents (some c) clusters

def forestWithParents (parent : Option Cluster) : List Cluster → List (Cluster × Option Cluster)
  | [] => []
  | c :: cs => withParents parent c ++ forestWithParents parent cs

end

/-- Puts clusters in front of those that wait, each with the one it stands in. They are put there
one by one, the last one first. -/
def push (parent : Option Cluster) (cs : List Cluster) (waiting : List (Cluster × Option Cluster)) :
    List (Cluster × Option Cluster) :=
  cs.reverse.foldl (fun waiting c => (c, parent) :: waiting) waiting

theorem push_eq (parent : Option Cluster) (cs : List Cluster)
    (waiting : List (Cluster × Option Cluster)) :
    push parent cs waiting = cs.map (fun c => (c, parent)) ++ waiting := by
  induction cs with
  | nil => rfl
  | cons c cs ih =>
    rw [push, List.reverse_cons, List.foldl_append]
    exact congrArg _ ih

theorem sizeOf_append (cs ds : List Cluster) : sizeOf (cs ++ ds) + 1 = sizeOf cs + sizeOf ds := by
  induction cs with
  | nil =>
    rw [List.nil_append, List.nil.sizeOf_spec]
    omega
  | cons c cs ih =>
    rw [List.cons_append, List.cons.sizeOf_spec, List.cons.sizeOf_spec]
    omega

theorem sizeOf_push_lt (c : Cluster) (waiting : List (Cluster × Option Cluster)) :
    sizeOf ((push (some c) c.clusters waiting).map Prod.fst) <
      sizeOf (c :: waiting.map Prod.fst) := by
  have smaller : sizeOf c.clusters < sizeOf c := by
    cases c
    simp only [mk.sizeOf_spec]
    omega
  have firsts : (push (some c) c.clusters waiting).map Prod.fst =
      c.clusters ++ waiting.map Prod.fst := by
    rw [push_eq, List.map_append, List.map_map]
    exact congrArg (· ++ _) (List.map_id _)
  have parts := sizeOf_append c.clusters (waiting.map Prod.fst)
  rw [firsts, List.cons.sizeOf_spec]
  omega

/-- Takes the clusters that wait one after the other. Those in a cluster are put in front of the
others as soon as it is taken. -/
def visit : List (Cluster × Option Cluster) → List (Cluster × Option Cluster)
  | [] => []
  | (c, parent) :: waiting => (c, parent) :: visit (push (some c) c.clusters waiting)
termination_by waiting => sizeOf (waiting.map Prod.fst)
decreasing_by exact sizeOf_push_lt c waiting

mutual

/-- The functions of a cluster and of all clusters in it, each with the clusters around it,
outermost first. -/
def placements (outer : List Cluster) : Cluster → List (Atom × List Cluster)
  | ⟨kind, key, label, package, members, clusters, focused⟩ =>
    let chain := outer ++ [⟨kind, key, label, package, members, clusters, focused⟩]
    members.map (fun id => (id, chain)) ++ forestPlacements chain clusters

def forestPlacements (outer : List Cluster) : List Cluster → List (Atom × List Cluster)
  | [] => []
  | c :: cs => placements outer c ++ forestPlacements outer cs

end

def functions (c : Cluster) : List Atom := (placements [] c).map Prod.fst

mutual

def isOrdered : Cluster → Bool
  | ⟨_, _, _, _, _, clusters, _⟩ => siblingsOrdered clusters && forestOrdered clusters

def forestOrdered : List Cluster → Bool
  | [] => true
  | c :: cs => isOrdered c && forestOrdered cs

end

def inOrder (forest : List Cluster) : Bool := siblingsOrdered forest && forestOrdered forest

/-- Whether `c` is less than `d` by kind, or by key if both are of one kind. -/
def less (c d : Cluster) : Bool := c.kind < d.kind || (c.kind = d.kind && c.key.less d.key)

def sortedSiblings (cs : List Cluster) : List Cluster :=
  if cs.any fun c => c.key.isNotANumber then Run.sort less cs
  else cs.mergeSort fun c d => !d.before c

mutual

def sortedInside : Cluster → Cluster
  | ⟨kind, key, label, package, members, clusters, focused⟩ =>
    ⟨kind, key, label, package, members, sortedSiblings (forestSortedInside clusters), focused⟩

def forestSortedInside : List Cluster → List Cluster
  | [] => []
  | c :: cs => sortedInside c :: forestSortedInside cs

end

def sortedForest (forest : List Cluster) : List Cluster :=
  sortedSiblings (forestSortedInside forest)

/-- Siblings with `c` changed by `change`; a cluster that is not there yet comes last. -/
def modify (c : Cluster) (change : Cluster → Cluster) : List Cluster → List Cluster
  | [] => [change c]
  | d :: ds => if d.same c then change d :: ds else d :: modify c change ds

/-- Siblings with a function put into the innermost cluster of a path. The clusters of the path that
are not there yet are made as the path gives them. -/
def place (id : Atom) : List Cluster → List Cluster → List Cluster
  | [], siblings => siblings
  | [c], siblings => modify c (fun d => { d with members := d.members ++ [id] }) siblings
  | c :: path, siblings =>
    modify c (fun d => { d with clusters := place id path d.clusters }) siblings

end Cluster

end CallAtlas
