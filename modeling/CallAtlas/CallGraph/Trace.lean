import CallAtlas.CallGraph.Basic
set_option autoImplicit false

/-!
# Traces

Synthetic functions stand between a caller and the function that was meant. `CallGraph.Leads` is the
relation between a function and what it leads to through synthetic functions only;
`CallGraph.trace` finds all of it and looks at every synthetic function on the way once.
-/

namespace CallAtlas.CallGraph

/-- A non-empty path whose inner functions are all synthetic leads from `a` to the real function
`b`. -/
inductive Leads (g : CallGraph) (synthetic : List Atom) : Atom → Atom → Prop where
  | call {a b : Atom} : b ∈ g.callees a → b ∉ synthetic → Leads g synthetic a b
  | through {a b c : Atom} :
    b ∈ g.callees a → b ∈ synthetic → Leads g synthetic b c → Leads g synthetic a c

/-- How far the search for what a function leads to has come. -/
structure Trace where
  waiting : List Atom
  seen : List Atom
  found : List Atom := []
  dynamic : Bool := false
  /-- The first real function met, as the call to it is written. -/
  foundAs : Option Atom := none
  deriving Repr

namespace Trace

/-- Follows one edge. An edge to a synthetic function that was met before is not followed. -/
def follow (synthetic : List Atom) (t : Trace) (e : Edge) : Trace :=
  if e.callee ∈ synthetic then
    if e.callee ∈ t.seen then t
    else
      { t with
        waiting := e.callee :: t.waiting
        seen := e.callee :: t.seen
        dynamic := t.dynamic || e.dynamic }
  else
    { t with
      found := if e.callee ∈ t.found then t.found else t.found ++ [e.callee]
      dynamic := t.dynamic || e.dynamic
      foundAs := t.foundAs.or (some e.written) }

/-- The work that is left: functions that wait or can still be met. -/
def size (synthetic : List Atom) (t : Trace) : Nat :=
  (Search.unseen synthetic t.seen).length + t.waiting.length

theorem size_follow_le (synthetic : List Atom) (t : Trace) (e : Edge) :
    (t.follow synthetic e).size synthetic ≤ t.size synthetic := by
  unfold follow
  split
  · split
    · exact Nat.le_refl _
    · rename_i hs hn
      have := Search.length_unseen_cons_lt hs hn
      simp only [size, List.length_cons]
      omega
  · exact Nat.le_refl _

theorem size_foldl_follow_le (synthetic : List Atom) (es : List Edge) (t : Trace) :
    (es.foldl (follow synthetic) t).size synthetic ≤ t.size synthetic := by
  induction es generalizing t with
  | nil => exact Nat.le_refl _
  | cons e es ih => exact Nat.le_trans (ih _) (size_follow_le synthetic t e)

theorem mem_found_foldl_follow {synthetic : List Atom} {es : List Edge} {t : Trace} {b : Atom} :
    b ∈ (es.foldl (follow synthetic) t).found ↔
      b ∈ t.found ∨ b ∈ es.map Edge.callee ∧ b ∉ synthetic := by
  induction es generalizing t with
  | nil => simp
  | cons e es ih =>
    rw [List.foldl_cons, ih]
    unfold follow
    split
    · split <;> grind
    · split <;> grind

theorem mem_seen_foldl_follow {synthetic : List Atom} {es : List Edge} {t : Trace} {b : Atom} :
    b ∈ (es.foldl (follow synthetic) t).seen ↔
      b ∈ t.seen ∨ b ∈ es.map Edge.callee ∧ b ∈ synthetic := by
  induction es generalizing t with
  | nil => simp
  | cons e es ih =>
    rw [List.foldl_cons, ih]
    unfold follow
    split
    · split <;> grind
    · grind

theorem mem_waiting_foldl_follow {synthetic : List Atom} {es : List Edge} {t : Trace}
    {b : Atom} :
    b ∈ (es.foldl (follow synthetic) t).waiting ↔
      b ∈ t.waiting ∨ b ∈ es.map Edge.callee ∧ b ∈ synthetic ∧ b ∉ t.seen := by
  induction es generalizing t with
  | nil => simp
  | cons e es ih =>
    rw [List.foldl_cons, ih]
    unfold follow
    split
    · split <;> grind
    · grind

theorem settled_of_foldl_follow {synthetic : List Atom} {es : List Edge} {t : Trace} {a : Atom}
    (ha : a ∈ (es.foldl (follow synthetic) t).seen)
    (hw : a ∉ (es.foldl (follow synthetic) t).waiting) : a ∈ t.seen ∧ a ∉ t.waiting := by
  rw [mem_seen_foldl_follow] at ha
  rw [mem_waiting_foldl_follow] at hw
  refine ⟨?_, fun hr => hw (.inl hr)⟩
  rcases ha with ha | ⟨hc, hs⟩
  · exact ha
  · exact Decidable.not_not.1 fun hn => hw (.inr ⟨hc, hs, hn⟩)

theorem nodup_foldl_follow {synthetic : List Atom} {es : List Edge} {t : Trace}
    (hs : t.seen.Nodup) (hf : t.found.Nodup) :
    (es.foldl (follow synthetic) t).seen.Nodup ∧ (es.foldl (follow synthetic) t).found.Nodup := by
  induction es generalizing t with
  | nil => exact ⟨hs, hf⟩
  | cons e es ih =>
    rw [List.foldl_cons]
    unfold follow
    split
    · split
      · exact ih hs hf
      · rename_i hn
        exact ih (List.nodup_cons.2 ⟨hn, hs⟩) hf
    · refine ih hs ?_
      dsimp only
      split
      · exact hf
      · grind

end Trace

/-- Follows all edges that synthetic functions lead to, the latest function first. -/
def traceFrom (g : CallGraph) (synthetic : List Atom) (t : Trace) : Trace :=
  match _h : t.waiting with
  | [] => t
  | id :: rest =>
    traceFrom g synthetic ((g.out id).foldl (Trace.follow synthetic) { t with waiting := rest })
termination_by t.size synthetic
decreasing_by
  have := Trace.size_foldl_follow_le synthetic (g.out id) { t with waiting := rest }
  simp only [Trace.size, _h, List.length_cons] at this ⊢
  omega

def trace (g : CallGraph) (synthetic : List Atom) (id : Atom) : Trace :=
  g.traceFrom synthetic { waiting := [id], seen := [id] }

end CallAtlas.CallGraph
