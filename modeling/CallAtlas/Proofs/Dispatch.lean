import CallAtlas.Proofs.Edges

set_option autoImplicit false

/-!
# Dynamic calls behind wrappers

Which dynamic calls a search through synthetic functions follows depends on the order of the calls.
It follows every dynamic call of a function that is not synthetic, and none that it cannot reach. So
the order decides only about dynamic calls between synthetic functions.
-/

namespace CallAtlas

namespace CallGraph

namespace Trace

variable {synthetic : List Atom} {es : List Edge} {t : Trace} {e : Edge}

theorem dynamic_follow : (t.follow synthetic e).dynamic = true ↔
    t.dynamic = true ∨ e.dynamic = true ∧ (e.callee ∉ synthetic ∨ e.callee ∉ t.seen) := by
  unfold follow
  split
  · split <;> simp [*]
  · simp [*]

theorem dynamic_foldl_follow_of_dynamic (h : t.dynamic = true) :
    (es.foldl (follow synthetic) t).dynamic = true := by
  induction es generalizing t with
  | nil => exact h
  | cons e es ih => exact ih (dynamic_follow.2 (.inl h))

theorem dynamic_foldl_follow_of_mem (he : e ∈ es) (real : e.callee ∉ synthetic)
    (hd : e.dynamic = true) : (es.foldl (follow synthetic) t).dynamic = true := by
  induction es generalizing t with
  | nil => cases he
  | cons d es ih =>
    rw [List.foldl_cons]
    rcases List.mem_cons.1 he with rfl | he
    · exact dynamic_foldl_follow_of_dynamic (dynamic_follow.2 (.inr ⟨hd, .inl real⟩))
    · exact ih he

theorem exists_of_dynamic_foldl_follow (h : (es.foldl (follow synthetic) t).dynamic = true) :
    t.dynamic = true ∨ ∃ e ∈ es, e.dynamic = true := by
  induction es generalizing t with
  | nil => exact .inl h
  | cons d es ih =>
    rcases ih h with h | ⟨e, he, hd⟩
    · rcases dynamic_follow.1 h with h | ⟨hd, -⟩
      · exact .inl h
      · exact .inr ⟨d, List.mem_cons_self, hd⟩
    · exact .inr ⟨e, List.mem_cons_of_mem d he, hd⟩

end Trace

variable {g : CallGraph} {synthetic : List Atom} {t : Trace} {id x : Atom} {e : Edge}

/-- If only functions that wait have dynamic calls of real functions that were not followed, none
has one in the end. -/
theorem dynamic_traceFrom (h : ∀ a ∈ t.seen, a ∉ t.waiting → ∀ e ∈ g.out a,
      e.callee ∉ synthetic → e.dynamic = true → t.dynamic = true) :
    ∀ a ∈ (g.traceFrom synthetic t).seen, ∀ e ∈ g.out a,
      e.callee ∉ synthetic → e.dynamic = true → (g.traceFrom synthetic t).dynamic = true := by
  fun_induction traceFrom g synthetic t with
  | case1 t ht => exact fun a ha => h a ha (by simp [ht])
  | case2 t id rest ht ih =>
    refine ih fun a ha hw e he real hd => ?_
    by_cases hi : a = id
    · subst hi
      exact Trace.dynamic_foldl_follow_of_mem he real hd
    · obtain ⟨hs, hn⟩ := Trace.settled_of_foldl_follow ha hw
      have waits : a ∉ t.waiting := by
        rw [ht, List.mem_cons, not_or]
        exact ⟨hi, hn⟩
      exact Trace.dynamic_foldl_follow_of_dynamic (h a hs waits e he real hd)

theorem exists_of_dynamic_traceFrom (h : (g.traceFrom synthetic t).dynamic = true) :
    t.dynamic = true ∨ ∃ a ∈ t.waiting, ∃ x, Search.Path g.callees synthetic a x ∧
      ∃ e ∈ g.out x, e.dynamic = true := by
  fun_induction traceFrom g synthetic t with
  | case1 => exact .inl h
  | case2 t id rest ht ih =>
    rw [ht]
    rcases ih h with h | ⟨a, ha, x, hp, he⟩
    · rcases Trace.exists_of_dynamic_foldl_follow h with h | he
      · exact .inl h
      · exact .inr ⟨id, List.mem_cons_self, id, .refl id, he⟩
    · rcases Trace.mem_waiting_foldl_follow.1 ha with ha | ⟨hc, hs, -⟩
      · exact .inr ⟨a, List.mem_cons_of_mem id ha, x, hp, he⟩
      · exact .inr ⟨id, List.mem_cons_self, x, .step hc hs hp, he⟩

theorem dynamic_trace_of_path (hp : Search.Path g.callees synthetic id x) (he : e ∈ g.out x)
    (real : e.callee ∉ synthetic) (hd : e.dynamic = true) :
    (g.trace synthetic id).dynamic = true := by
  have seen : x ∈ (g.trace synthetic id).seen := mem_seen_trace.2 hp
  exact dynamic_traceFrom (fun a ha hw => absurd ha hw) x seen e he real hd

theorem exists_of_dynamic_trace (h : (g.trace synthetic id).dynamic = true) :
    ∃ x, Search.Path g.callees synthetic id x ∧ ∃ e ∈ g.out x, e.dynamic = true := by
  rcases exists_of_dynamic_traceFrom h with h | ⟨a, ha, hx⟩
  · cases h
  · exact List.mem_singleton.1 ha ▸ hx

end CallGraph

namespace Analysis

variable (a : Analysis)

def IsSynthetic (id : Atom) : Prop := ∃ f ∈ a.functions, f.isSynthetic = true ∧ f.id = id

def StaticChains : Prop :=
  ∀ c ∈ a.calls, a.IsSynthetic c.caller → a.IsSynthetic c.callee → c.dynamic = false

end Analysis

namespace Selection

variable (s : Selection) (a : Analysis)

/-- Calls through synthetic functions lead from `id` to `x`, itself synthetic or the start. -/
def Behind (id x : Atom) : Prop :=
  Relation.ReflTransGen
    (fun u v => (s.authored a).calls u v ∧ (s.authored a).IsSynthetic v) id x

/-- A call of `u` ends at a wrapper that means `v`, and behind the wrapper a dynamic call is
followed. -/
def Dispatches (u v : Atom) : Prop :=
  ∃ c ∈ a.calls, c.caller = u ∧ s.Replaces a c.callee v ∧ s.dispatches a c.callee = true

variable {s a} {id x : Atom}

theorem isSynthetic_of_authored (h : (s.authored a).IsSynthetic id) : a.IsSynthetic id := by
  obtain ⟨f, hf, hs, hi⟩ := h
  exact ⟨f, mem_of_authored hf, hs, hi⟩

theorem Replaces.isSynthetic {v : Atom} (h : s.Replaces a id v) :
    (s.authored a).IsSynthetic id := by
  obtain ⟨-, f, hf, hi, -⟩ := h
  exact ⟨f, hf.1, hf.2.1, hi⟩

theorem Behind.isSynthetic (h : s.Behind a id x) (hid : (s.authored a).IsSynthetic id) :
    (s.authored a).IsSynthetic x := by
  induction h with
  | refl => exact hid
  | tail _ hc _ => exact hc.2

end Selection

namespace Stages

variable {a : Analysis} (ha : a.WellFormed) (ht : a.Textual) (s : Selection) {id : Atom}

include ha

theorem path_iff_behind {x : Atom} :
    Search.Path (run a s none).authored.callees (run a s none).authored.synthetics id x ↔
      s.Behind a id x := by
  have fits := fits_authored ha s none
  refine Search.path_iff_reflTransGen fun u v => ?_
  rw [CallGraph.mem_callees, fits.calls, fits.mem_synthetics]

include ht

/-- A dynamic call that leads out of the synthetic functions is followed, whatever the order. -/
theorem dispatches_of_behind {c : Call} (hc : c ∈ a.calls) (behind : s.Behind a id c.caller)
    (caller : (s.authored a).names c.caller) (callee : (s.authored a).names c.callee)
    (real : ¬ (s.authored a).IsSynthetic c.callee) (hd : c.dynamic = true) :
    s.dispatches a id = true := by
  have fits := fits_authored ha s none
  have edge := authored_dynamic ht s none (fits.names.1 caller) (fits.names.1 callee) false
  simp only [Bool.or_false] at edge
  obtain ⟨e, he, hends, hd⟩ := edge.2 ⟨c, hc, rfl, rfl, hd⟩
  have hcaller : e.caller = c.caller := congrArg Prod.fst hends
  have hcallee : e.callee = c.callee := congrArg Prod.snd hends
  have out : e ∈ (run a s none).authored.out c.caller :=
    List.mem_filter.2 ⟨he, decide_eq_true hcaller⟩
  refine CallGraph.dynamic_trace_of_path ((path_iff_behind ha s).2 behind) out ?_ hd
  rwa [fits.mem_synthetics, hcallee]

theorem exists_of_dispatches (h : s.dispatches a id = true) :
    ∃ c ∈ a.calls, s.Behind a id c.caller ∧ (s.authored a).names c.caller ∧
      (s.authored a).names c.callee ∧ c.dynamic = true := by
  have fits := fits_authored ha s none
  have wellFormed := wellFormed_authored ha s none
  obtain ⟨x, hp, e, he, hd⟩ := CallGraph.exists_of_dynamic_trace h
  obtain ⟨he, hx⟩ := List.mem_filter.1 he
  have hx : e.caller = x := of_decide_eq_true hx
  have caller := wellFormed.caller_mem e he
  have callee := wellFormed.callee_mem e he
  have edge := authored_dynamic ht s none caller callee false
  simp only [Bool.or_false] at edge
  obtain ⟨c, hc, hcaller, hcallee, hd⟩ := edge.1 ⟨e, he, rfl, hd⟩
  rw [← fits.names, ← hcaller] at caller
  rw [← fits.names, ← hcallee] at callee
  refine ⟨c, hc, ?_, caller, callee, hd⟩
  rw [hcaller, hx]
  exact (path_iff_behind ha s).1 hp

end Stages

end CallAtlas
