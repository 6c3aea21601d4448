import CallAtlas.Analysis.Assembly
import CallAtlas.CallGraph.Around
import CallAtlas.Settings
import Mathlib.Logic.Relation

set_option autoImplicit false

/-!
# Outlines

What a call graph says when the order of its parts and the data on its edges are left out: which
functions there are, and which of them call which. The stages of a reduction are stated here on
outlines, by paths where the stages search. Nothing in an outline depends on the order of an
analysis, so analyses that list the same things have the same outlines.
-/

namespace CallAtlas

/-- `n` steps of a relation lead from `a` to `b`. -/
inductive Steps {α : Type} (r : α → α → Prop) : Nat → α → α → Prop where
  | stay (a : α) : Steps r 0 a a
  | step {n : Nat} {a b c : α} : r a b → Steps r n b c → Steps r (n + 1) a c

theorem Steps.reflTransGen {α : Type} {r : α → α → Prop} {n : Nat} {a b : α} (h : Steps r n a b) :
    Relation.ReflTransGen r a b := by
  induction h with
  | stay a => exact .refl
  | step hr _ ih => exact .head hr ih

namespace Analysis

def Calls (a : Analysis) (u v : Atom) : Prop := ∃ c ∈ a.calls, c.caller = u ∧ c.callee = v

def Runs (a : Analysis) (v : Atom) : Prop := ∃ u ∈ a.starts, Relation.ReflTransGen a.Calls u v

/-- The graph of an analysis is closed: ids tell functions apart, calls lead from function to
function, and entry points are functions. What is loaded is so, by
`Document.WellTyped.wellFormed_of_load`. -/
structure WellFormed (a : Analysis) : Prop where
  nodup_ids : a.ids.Nodup
  caller_mem : ∀ c ∈ a.calls, c.caller ∈ a.ids
  callee_mem : ∀ c ∈ a.calls, c.callee ∈ a.ids
  start_mem : ∀ id ∈ a.starts, id ∈ a.ids

/-- Ids, paths, receivers, names and sites are texts, as they are when a well typed document is
loaded, by `Document.WellTyped.textual_of_load`. -/
structure Textual (a : Analysis) : Prop where
  ids : ∀ f ∈ a.functions, f.id.isText
  packages : ∀ f ∈ a.functions, f.package.isText
  names : ∀ f ∈ a.functions, f.name.isText
  receivers : ∀ f ∈ a.functions, f.recv.all Json.isText
  sites : ∀ c ∈ a.calls, c.site.isText

/-- Paths are texts, and they tell packages apart. -/
structure Catalogued (a : Analysis) : Prop where
  nodup_paths : (a.packages.map Package.key).Nodup
  paths : ∀ p ∈ a.packages, p.path.isText

end Analysis

structure Outline where
  has : Function → Prop
  calls : Atom → Atom → Prop

namespace Outline

variable (o : Outline)

def names (id : Atom) : Prop := ∃ f, o.has f ∧ f.id = id

def part (p : Function → Prop) : Outline where
  has f := o.has f ∧ p f
  calls u v := o.calls u v ∧ (∃ f, (o.has f ∧ p f) ∧ f.id = u) ∧ ∃ f, (o.has f ∧ p f) ∧ f.id = v

def whole (a : Analysis) : Outline :=
  Outline.part ⟨fun f => f ∈ a.functions, a.Calls⟩ fun f => a.Runs f.id

def IsSynthetic (id : Atom) : Prop := ∃ f, o.has f ∧ f.isSynthetic = true ∧ f.id = id

/-- A non-empty path whose inner functions are all synthetic leads from `u` to the function `v`,
which is not. -/
inductive Means : Atom → Atom → Prop where
  | call {u v : Atom} : o.calls u v → ¬ o.IsSynthetic v → Means u v
  | through {u v w : Atom} : o.calls u v → o.IsSynthetic v → Means v w → Means u w

/-- A synthetic function that means at most one function. -/
def IsWrapper (f : Function) : Prop :=
  o.has f ∧ f.isSynthetic = true ∧ ∀ u v, o.Means f.id u → o.Means f.id v → u = v

/-- A call of a wrapper counts as a call of the function that the wrapper means. -/
def Bridges (u v : Atom) : Prop := ∃ f, o.IsWrapper f ∧ o.calls u f.id ∧ o.Means f.id v

/-- Wrappers are gone, and their callers call what they mean. -/
def direct : Outline :=
  Outline.part ⟨o.has, fun u v => o.calls u v ∨ o.Bridges u v⟩ fun f => ¬ o.IsWrapper f

def IsLimited (prefixes : List String) (id : Atom) : Prop :=
  ∃ f, o.has f ∧ f.package.startsWithAny prefixes = true ∧ f.id = id

/-- A limited function on the first level: an entry point, a function without caller, or one with a
caller that is not limited. -/
def IsFirst (prefixes : List String) (starts : List Atom) (id : Atom) : Prop :=
  o.IsLimited prefixes id ∧
    (id ∈ starts ∨ (∀ u, ¬ o.calls u id) ∨ ∃ u, o.calls u id ∧ ¬ o.IsLimited prefixes u)

def LimitedCall (prefixes : List String) (u v : Atom) : Prop :=
  o.calls u v ∧ o.IsLimited prefixes v

/-- Limited functions are gone unless at most `depth - 1` calls of limited functions lead to them
from the first level. -/
def shallow (prefixes : List String) (starts : List Atom) (depth : Nat) : Outline :=
  o.part fun f => o.IsLimited prefixes f.id →
    ∃ u, o.IsFirst prefixes starts u ∧ ∃ n ≤ depth - 1, Steps (o.LimitedCall prefixes) n u f.id

/-- No path of the functions starts with an ignored prefix and, if there are others, each starts
with one of those. -/
def passing (ignore only : List String) : Outline :=
  o.part fun f => f.package.startsWithAny ignore = false ∧
    (only = [] ∨ f.package.startsWithAny only = true)

def around (path : Atom) : Outline :=
  o.part fun f => ∃ m, o.has m ∧ m.package.equals path = true ∧
    (Relation.ReflTransGen o.calls f.id m.id ∨ Relation.ReflTransGen o.calls m.id f.id)

end Outline

namespace Selection

variable (s : Selection) (a : Analysis)

def authored : Outline :=
  if s.hideStd then (Outline.whole a).part fun f => f.std = false else Outline.whole a

def direct : Outline := if s.hideWrappers then (s.authored a).direct else s.authored a

def shallow : Outline :=
  if s.limit = [] then s.direct a else (s.direct a).shallow s.limit a.starts s.limitDepth

def passing : Outline := (s.shallow a).passing s.ignore s.only

def shown (focus : Option Atom) : Outline :=
  match focus with
  | none => s.passing a
  | some path => (s.passing a).around path

variable {s a} {f : Function}

theorem mem_of_authored (h : (s.authored a).has f) : f ∈ a.functions := by
  unfold authored at h
  split at h
  · exact h.1.1
  · exact h.1

theorem authored_of_direct (h : (s.direct a).has f) : (s.authored a).has f := by
  unfold direct at h
  split at h
  · exact h.1
  · exact h

theorem direct_of_shallow (h : (s.shallow a).has f) : (s.direct a).has f := by
  unfold shallow at h
  split at h
  · exact h
  · exact h.1

theorem shallow_of_shown {focus : Option Atom} (h : (s.shown a focus).has f) :
    (s.shallow a).has f := by
  cases focus with
  | none => exact h.1
  | some path => exact h.1.1

theorem mem_of_direct (h : (s.direct a).has f) : f ∈ a.functions :=
  mem_of_authored (authored_of_direct h)

theorem mem_of_shallow (h : (s.shallow a).has f) : f ∈ a.functions :=
  mem_of_direct (direct_of_shallow h)

theorem mem_of_shown {focus : Option Atom} (h : (s.shown a focus).has f) : f ∈ a.functions :=
  mem_of_shallow (shallow_of_shown h)

end Selection

end CallAtlas
