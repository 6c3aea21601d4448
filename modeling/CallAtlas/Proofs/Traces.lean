import CallAtlas.CallGraph.Wrappers
import Mathlib.Data.List.Perm.Basic
import Mathlib.Data.List.Nodup

set_option autoImplicit false

/-!
# Traces in any order

A turn of the search for what a function leads to takes the latest function that waits and follows its
calls one after the other, and nothing says in which order these come. Whatever the order is, the
search ends: no turn takes a function that was taken before, and once nothing waits the real functions
that were found are those that the function leads to. `CallGraph.trace` takes its turns in the order of
the graph.
-/

namespace CallAtlas.CallGraph

def Trace.start (id : Atom) : Trace := { waiting := [id], seen := [id] }

/-- The latest function that waits is taken, and its calls are followed in some order. -/
inductive Turn (g : CallGraph) (synthetic : List Atom) (t : Trace) (id : Atom) : Trace → Prop where
  | take {rest : List Atom} {es : List Edge} : t.waiting = id :: rest → es.Perm (g.out id) →
    Turn g synthetic t id (es.foldl (Trace.follow synthetic) { t with waiting := rest })

inductive Turns (g : CallGraph) (synthetic : List Atom) : Trace → List Atom → Trace → Prop where
  | none (t : Trace) : Turns g synthetic t [] t
  | turn {t u v : Trace} {id : Atom} {taken : List Atom} :
    Turn g synthetic t id u → Turns g synthetic u taken v → Turns g synthetic t (id :: taken) v

theorem Trace.exists_new_foldl_follow (synthetic : List Atom) (es : List Edge) (t : Trace) :
    ∃ new, (es.foldl (follow synthetic) t).seen = new ++ t.seen ∧
      (es.foldl (follow synthetic) t).waiting = new ++ t.waiting := by
  induction es generalizing t with
  | nil => exact ⟨[], rfl, rfl⟩
  | cons e es ih =>
    obtain ⟨new, seen, waiting⟩ := ih (t.follow synthetic e)
    rw [List.foldl_cons, seen, waiting]
    by_cases first : e.callee ∈ synthetic ∧ e.callee ∉ t.seen
    · refine ⟨new ++ [e.callee], ?_⟩
      simp [follow, first]
    · refine ⟨new, ?_⟩
      by_cases real : e.callee ∈ synthetic
      · simp [follow, real, Decidable.not_not.1 fun h => first ⟨real, h⟩]
      · simp [follow, real]

section

variable {g : CallGraph} {synthetic : List Atom} {t u : Trace} {id a b : Atom}

namespace Turn

variable (h : g.Turn synthetic t id u)

include h

theorem size_lt : u.size synthetic < t.size synthetic := by
  obtain @⟨rest, es, waits, -⟩ := h
  have less := Trace.size_foldl_follow_le synthetic es { t with waiting := rest }
  simp only [Trace.size, waits, List.length_cons] at less ⊢
  omega

theorem exists_new : ∃ rest new, t.waiting = id :: rest ∧ u.waiting = new ++ rest ∧
    u.seen = new ++ t.seen := by
  obtain @⟨rest, es, waits, -⟩ := h
  obtain ⟨new, seen, waiting⟩ :=
    Trace.exists_new_foldl_follow synthetic es { t with waiting := rest }
  exact ⟨rest, new, waits, waiting, seen⟩

theorem mem_seen : a ∈ u.seen ↔ a ∈ t.seen ∨ a ∈ g.callees id ∧ a ∈ synthetic := by
  obtain @⟨rest, es, -, order⟩ := h
  rw [Trace.mem_seen_foldl_follow, (order.map Edge.callee).mem_iff]
  rfl

theorem mem_found : b ∈ u.found ↔ b ∈ t.found ∨ b ∈ g.callees id ∧ b ∉ synthetic := by
  obtain @⟨rest, es, -, order⟩ := h
  rw [Trace.mem_found_foldl_follow, (order.map Edge.callee).mem_iff]
  rfl

theorem nodup (seen : t.seen.Nodup) (found : t.found.Nodup) : u.seen.Nodup ∧ u.found.Nodup := by
  obtain @⟨rest, es, -, -⟩ := h
  exact Trace.nodup_foldl_follow (t := { t with waiting := rest }) seen found

end Turn

/-- No search goes on for ever, from wherever it starts. -/
theorem wellFounded_turn (g : CallGraph) (synthetic : List Atom) :
    WellFounded fun u t => ∃ id, g.Turn synthetic t id u :=
  Subrelation.wf (fun ⟨_, h⟩ => h.size_lt) (measure (Trace.size synthetic)).wf

theorem exists_turn (waits : t.waiting ≠ []) : ∃ id u, g.Turn synthetic t id u := by
  obtain ⟨id, rest, h⟩ := List.exists_cons_of_ne_nil waits
  exact ⟨id, _, .take h (.refl _)⟩

theorem exists_turns_traceFrom (g : CallGraph) (synthetic : List Atom) (t : Trace) :
    (∃ taken, g.Turns synthetic t taken (g.traceFrom synthetic t)) ∧
      (g.traceFrom synthetic t).waiting = [] := by
  fun_induction traceFrom g synthetic t with
  | case1 t ht => exact ⟨⟨[], .none t⟩, ht⟩
  | case2 t id rest ht ih =>
    obtain ⟨⟨taken, turns⟩, done⟩ := ih
    exact ⟨⟨id :: taken, .turn (.take ht (.refl _)) turns⟩, done⟩

theorem Leads.of_path (h : Search.Path g.callees synthetic id a) (leads : g.Leads synthetic a b) :
    g.Leads synthetic id b := by
  induction h with
  | refl => exact leads
  | step call inside _ ih => exact .through call inside (ih leads)

end

/-- How far a search from `start` is when it has taken some functions: all that was seen waits or was
taken, and lies behind the start. What was taken called nothing but synthetic functions that were seen
and real functions that were found. -/
structure Explored (g : CallGraph) (synthetic : List Atom) (start : Atom) (taken : List Atom)
    (t : Trace) : Prop where
  seen : t.seen.Perm (t.waiting ++ taken)
  nodup_seen : t.seen.Nodup
  nodup_found : t.found.Nodup
  started : start ∈ t.seen
  behind : ∀ a ∈ t.seen, Search.Path g.callees synthetic start a
  followed : ∀ a ∈ taken, ∀ b ∈ g.callees a, b ∈ synthetic → b ∈ t.seen
  found : ∀ b, b ∈ t.found ↔ b ∉ synthetic ∧ ∃ a ∈ taken, b ∈ g.callees a

namespace Explored

variable {g : CallGraph} {synthetic : List Atom} {start id : Atom} {taken more : List Atom}
  {t u : Trace}

theorem init (g : CallGraph) (synthetic : List Atom) (start : Atom) :
    g.Explored synthetic start [] (.start start) where
  seen := .refl _
  nodup_seen := List.nodup_singleton start
  nodup_found := .nil
  started := List.mem_singleton_self start
  behind a ha := by
    rw [List.mem_singleton.1 ha]
    exact .refl start
  followed _ ha := nomatch ha
  found b := by simp [Trace.start]

theorem turn (h : g.Explored synthetic start taken t) (turn : g.Turn synthetic t id u) :
    g.Explored synthetic start (taken ++ [id]) u := by
  obtain ⟨rest, new, waits, waiting, seen⟩ := turn.exists_new
  obtain ⟨nodup_seen, nodup_found⟩ := turn.nodup h.nodup_seen h.nodup_found
  have known : id ∈ t.seen := h.seen.mem_iff.2 (by simp [waits])
  refine ⟨?_, nodup_seen, nodup_found, turn.mem_seen.2 (.inl h.started), fun a ha => ?_,
    fun a ha b hb inside => ?_, fun b => ?_⟩
  · -- The function that is taken moves from the front of what waits to the end of what was taken.
    have moved : (id :: (rest ++ taken)).Perm (rest ++ (taken ++ [id])) := by
      rw [← List.append_assoc]
      exact (List.perm_append_singleton id (rest ++ taken)).symm
    have before : t.seen.Perm (id :: (rest ++ taken)) := by
      rw [← List.cons_append, ← waits]
      exact h.seen
    rw [seen, waiting, List.append_assoc]
    exact (before.trans moved).append_left new
  · rcases turn.mem_seen.1 ha with ha | ⟨call, inside⟩
    · exact h.behind a ha
    · exact (h.behind id known).trans (.step call inside (.refl a))
  · rcases List.mem_append.1 ha with ha | ha
    · exact turn.mem_seen.2 (.inl (h.followed a ha b hb inside))
    · rw [List.mem_singleton.1 ha] at hb
      exact turn.mem_seen.2 (.inr ⟨hb, inside⟩)
  · rw [turn.mem_found, h.found]
    simp only [List.mem_append, List.mem_singleton, or_and_right, exists_or, exists_eq_left,
      and_or_left, and_comm]

theorem turns (h : g.Explored synthetic start taken t) (turns : g.Turns synthetic t more u) :
    g.Explored synthetic start (taken ++ more) u := by
  induction turns generalizing taken with
  | none => rwa [List.append_nil]
  | turn first _ ih =>
    rw [List.append_cons]
    exact ih (h.turn first)

section

variable (h : g.Explored synthetic start taken t)

include h

theorem nodup_taken : taken.Nodup := (List.nodup_append.1 (h.seen.nodup_iff.1 h.nodup_seen)).2.1

theorem path_of_mem_taken {a : Atom} (ha : a ∈ taken) : Search.Path g.callees synthetic start a :=
  h.behind a (h.seen.mem_iff.2 (List.mem_append_right _ ha))

theorem mem_found_of_leads (done : t.waiting = []) {a b : Atom} (leads : g.Leads synthetic a b)
    (ha : a ∈ taken) : b ∈ t.found := by
  have all (c : Atom) : c ∈ t.seen ↔ c ∈ taken := by rw [h.seen.mem_iff, done, List.nil_append]
  induction leads with
  | @call a b call real => exact (h.found b).2 ⟨real, a, ha, call⟩
  | through call inside _ ih => exact ih ((all _).1 (h.followed _ ha _ call inside))

theorem mem_seen_iff (done : t.waiting = []) {a : Atom} :
    a ∈ t.seen ↔ Search.Path g.callees synthetic start a := by
  refine ⟨h.behind a, fun path => path.mem_of_closed (fun x hx y call inside => ?_) h.started⟩
  have taken : x ∈ taken := by simpa [done] using h.seen.mem_iff.1 hx
  exact h.followed x taken y call inside

theorem mem_found_iff (done : t.waiting = []) {b : Atom} :
    b ∈ t.found ↔ g.Leads synthetic start b := by
  constructor
  · intro hb
    obtain ⟨real, a, ha, call⟩ := (h.found b).1 hb
    exact .of_path (h.path_of_mem_taken ha) (.call call real)
  · intro leads
    have first : start ∈ taken := by simpa [done] using h.seen.mem_iff.1 h.started
    exact h.mem_found_of_leads done leads first

end

end Explored

section

variable {g : CallGraph} {synthetic : List Atom} {id a b : Atom}

theorem waiting_trace (g : CallGraph) (synthetic : List Atom) (id : Atom) :
    (g.trace synthetic id).waiting = [] := (exists_turns_traceFrom g synthetic (.start id)).2

theorem explored_trace (g : CallGraph) (synthetic : List Atom) (id : Atom) :
    ∃ taken, g.Explored synthetic id taken (g.trace synthetic id) := by
  obtain ⟨⟨taken, run⟩, -⟩ := exists_turns_traceFrom g synthetic (.start id)
  exact ⟨taken, (Explored.init g synthetic id).turns run⟩

theorem nodup_trace (g : CallGraph) (synthetic : List Atom) (id : Atom) :
    (g.trace synthetic id).seen.Nodup ∧ (g.trace synthetic id).found.Nodup := by
  obtain ⟨taken, explored⟩ := explored_trace g synthetic id
  exact ⟨explored.nodup_seen, explored.nodup_found⟩

theorem mem_seen_trace :
    a ∈ (g.trace synthetic id).seen ↔ Search.Path g.callees synthetic id a := by
  obtain ⟨taken, explored⟩ := explored_trace g synthetic id
  exact explored.mem_seen_iff (waiting_trace g synthetic id)

theorem mem_found_trace : b ∈ (g.trace synthetic id).found ↔ g.Leads synthetic id b := by
  obtain ⟨taken, explored⟩ := explored_trace g synthetic id
  exact explored.mem_found_iff (waiting_trace g synthetic id)

end

/-- The search behind a synthetic function ends in whatever order calls are followed. It takes no
function twice and synthetic functions only, goes on as long as one waits, and has then found what the
function leads to. The search of the graph is one of them. -/
theorem trace_in_any_order {g : CallGraph} {synthetic : List Atom} {id : Atom}
    (inside : id ∈ synthetic) :
    (WellFounded fun u t => ∃ x, g.Turn synthetic t x u) ∧
    (∀ taken t, g.Turns synthetic (.start id) taken t →
      taken.Nodup ∧ (∀ a ∈ taken, a ∈ synthetic) ∧
      (t.waiting ≠ [] → ∃ x u, g.Turn synthetic t x u) ∧
      (t.waiting = [] → t.found.Nodup ∧ ∀ b, b ∈ t.found ↔ g.Leads synthetic id b)) ∧
    (∃ taken, g.Turns synthetic (.start id) taken (g.trace synthetic id)) ∧
      (g.trace synthetic id).waiting = [] := by
  refine ⟨wellFounded_turn g synthetic, fun taken t run => ?_,
    exists_turns_traceFrom g synthetic (.start id)⟩
  have explored : g.Explored synthetic id taken t := (Explored.init g synthetic id).turns run
  refine ⟨explored.nodup_taken, fun a ha => ?_, exists_turn, fun done =>
    ⟨explored.nodup_found, fun b => explored.mem_found_iff done⟩⟩
  exact (explored.path_of_mem_taken ha).mem_of_closed (fun _ _ _ _ hr => hr) inside

/-- Three synthetic functions that call each other and themselves, and two real ones. -/
def whirl : CallGraph where
  functions := [
    { id := .text "q", name := .text "q", package := .text "p" },
    { id := .text "r", name := .text "r", package := .text "p" },
    { id := .text "s", name := .text "s", package := .text "p", synthetic := some (.text "thunk") },
    { id := .text "t", name := .text "t", package := .text "p", synthetic := some (.text "thunk") },
    { id := .text "u", name := .text "u", package := .text "p", synthetic := some (.text "thunk") }]
  edges := [
    { caller := .text "s", callee := .text "t" }, { caller := .text "s", callee := .text "u" },
    { caller := .text "t", callee := .text "s" }, { caller := .text "t", callee := .text "q" },
    { caller := .text "u", callee := .text "u" }, { caller := .text "u", callee := .text "t" },
    { caller := .text "u", callee := .text "r" }]

/-- The calls of `s` the other way round: `t` is taken before `u`, and `q` is found before `r`. -/
theorem turns_whirl : ∃ t, whirl.Turns whirl.synthetics (.start (.text "s"))
    [.text "s", .text "t", .text "u"] t ∧ t.waiting = [] ∧ t.found = [.text "q", .text "r"] := by
  have back : (whirl.out (.text "s")).reverse.Perm (whirl.out (.text "s")) := List.reverse_perm _
  refine ⟨_, .turn (.take rfl back) (.turn (.take rfl (.refl _))
    (.turn (.take rfl (.refl _)) (.none _))), ?_, ?_⟩
  · decide
  · decide

theorem trace_in_any_order_whirl :
    .text "s" ∈ whirl.synthetics ∧
    (whirl.trace whirl.synthetics (.text "s")).found = [.text "r", .text "q"] ∧
    ∃ t, whirl.Turns whirl.synthetics (.start (.text "s"))
        [.text "s", .text "t", .text "u"] t ∧ t.found = [.text "q", .text "r"] ∧
      ∀ b, b ∈ t.found ↔ whirl.Leads whirl.synthetics (.text "s") b := by
  have inside : .text "s" ∈ whirl.synthetics := by decide
  obtain ⟨-, every, -⟩ := trace_in_any_order inside
  obtain ⟨t, run, done, found⟩ := turns_whirl
  obtain ⟨-, -, -, ending⟩ := every _ t run
  exact ⟨inside, by cbv, t, run, found, (ending done).2⟩

end CallAtlas.CallGraph
