import CallAtlas.Json.Atom
set_option autoImplicit false

/-!
# Call sites

Where in the sources calls stand. A site is an atom; exporters that number their calls write numbers
instead of texts. The sites of an edge are collected in order, each once, and the first form of a site
is the one that stays.
-/

namespace CallAtlas

abbrev Site := Atom

namespace Site

/-- The sites that a single call contributes, by the value that its document holds. -/
def ofCall (v : Json) : List Site := if v.isGiven then (Atom.ofJson? v).toList else []

def insert (s : Site) : List Site → List Site
  | [] => [s]
  | t :: ts =>
    if t.same s then t :: ts else if s.before t then s :: t :: ts else t :: insert s ts

/-- The sites of both lists, strictly ordered if the second list is. -/
def union (ss ts : List Site) : List Site := ss.foldr insert ts

end Site

end CallAtlas
