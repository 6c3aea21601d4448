import CallAtlas.Proofs.Limits

set_option autoImplicit false

/-!
# Levels of what is left

A limit drops the functions below some levels of the limited packages. What is left has a first
level of its own, since its functions may have lost callers. But the functions of the first level
stay with their callers from outside, and so do the functions on the way from them to whatever
stays. So each function that stays is found on the same level again, or nearer to the first one,
and a limit that is applied twice drops nothing the second time.
-/

namespace CallAtlas

theorem Steps.concat {α : Type} {r : α → α → Prop} {n : Nat} {a b c : α} (h : Steps r n a b)
    (hc : r b c) : Steps r (n + 1) a c := by
  induction h with
  | stay a => exact .step hc (.stay c)
  | step hr _ ih => exact .step hr (ih hc)

namespace Outline

variable {o : Outline} {prefixes : List String} {starts : List Atom} {depth n k : Nat}
  {u v w : Atom}

/-- At most `n` calls of limited functions lead to the function from the first level. -/
def IsWithin (o : Outline) (prefixes : List String) (starts : List Atom) (n : Nat) (v : Atom) :
    Prop :=
  ∃ u, o.IsFirst prefixes starts u ∧ ∃ k ≤ n, Steps (o.LimitedCall prefixes) k u v

theorem isLimited_shallow_iff : (o.shallow prefixes starts depth).IsLimited prefixes v ↔
    o.IsLimited prefixes v ∧ o.IsWithin prefixes starts (depth - 1) v := by
  constructor
  · rintro ⟨f, ⟨hf, within⟩, hs, rfl⟩
    have limited : o.IsLimited prefixes f.id := ⟨f, hf, hs, rfl⟩
    exact ⟨limited, within limited⟩
  · rintro ⟨⟨f, hf, hs, rfl⟩, within⟩
    exact ⟨f, ⟨hf, fun _ => within⟩, hs, rfl⟩

theorem names_of_isLimited (h : o.IsLimited prefixes v) : o.names v := by
  obtain ⟨f, hf, -, rfl⟩ := h
  exact ⟨f, hf, rfl⟩

theorem names_shallow_of_not_isLimited (hn : o.names v) (h : ¬ o.IsLimited prefixes v) :
    (o.shallow prefixes starts depth).names v := by
  obtain ⟨f, hf, rfl⟩ := hn
  exact ⟨f, ⟨hf, fun limited => absurd limited h⟩, rfl⟩

/-- The first level stays, and it is on the first level of what stays. -/
theorem IsFirst.shallow (callers : ∀ u v, o.calls u v → o.names u)
    (h : o.IsFirst prefixes starts v) :
    (o.shallow prefixes starts depth).IsFirst prefixes starts v := by
  have limited : (o.shallow prefixes starts depth).IsLimited prefixes v :=
    isLimited_shallow_iff.2 ⟨h.1, v, h, 0, Nat.zero_le _, .stay v⟩
  refine ⟨limited, ?_⟩
  rcases h.2 with start | uncalled | ⟨u, hc, hu⟩
  · exact .inl start
  · exact .inr (.inl fun u hc => uncalled u hc.1)
  · -- A caller from outside is not touched by the limit, so it still calls from outside.
    have caller : (o.shallow prefixes starts depth).names u :=
      names_shallow_of_not_isLimited (callers u v hc) hu
    refine .inr (.inr ⟨u, ⟨hc, caller, names_of_isLimited limited⟩, ?_⟩)
    exact fun hl => hu (isLimited_shallow_iff.1 hl).1

/-- The induction is on the calls that are left to go. All functions up to the last one are within
the limit, as the calls gone so far and those left to go are not too many together. -/
theorem steps_shallow (first : o.IsFirst prefixes starts u)
    (before : Steps (o.LimitedCall prefixes) k u v) (limited : o.IsLimited prefixes v)
    (h : Steps (o.LimitedCall prefixes) n v w) (few : k + n ≤ depth - 1) :
    Steps ((o.shallow prefixes starts depth).LimitedCall prefixes) n v w := by
  induction h generalizing k with
  | stay v => exact .stay v
  | @step n v x w hc _ ih =>
    have there : (o.shallow prefixes starts depth).IsLimited prefixes v :=
      isLimited_shallow_iff.2 ⟨limited, u, first, k, by omega, before⟩
    have next : (o.shallow prefixes starts depth).IsLimited prefixes x :=
      isLimited_shallow_iff.2 ⟨hc.2, u, first, k + 1, by omega, before.concat hc⟩
    have call : (o.shallow prefixes starts depth).LimitedCall prefixes v x :=
      ⟨⟨hc.1, names_of_isLimited there, names_of_isLimited next⟩, next⟩
    exact .step call (ih (before.concat hc) hc.2 (by omega))

theorem isWithin_shallow (callers : ∀ u v, o.calls u v → o.names u)
    (h : (o.shallow prefixes starts depth).IsLimited prefixes v) :
    (o.shallow prefixes starts depth).IsWithin prefixes starts (depth - 1) v := by
  obtain ⟨-, u, first, n, few, steps⟩ := isLimited_shallow_iff.1 h
  refine ⟨u, first.shallow callers, n, few, ?_⟩
  exact steps_shallow first (.stay u) first.1 steps (by omega)

end Outline

namespace CallGraph

variable {g : CallGraph}

/-- From limited functions on the first level, fewer calls than there are levels lead to every
limited function, and only through limited functions. -/
def Levelled (g : CallGraph) (prefixes : List String) (starts : List Atom) (depth : Nat) : Prop :=
  ∀ id ∈ g.limited prefixes, ∃ first ∈ g.limited prefixes,
    (first ∈ starts ∨ g.callers first = [] ∨
      ∃ caller ∈ g.callers first, caller ∉ g.limited prefixes) ∧
    ∃ n ≤ depth - 1, Search.Walk g.callees (g.limited prefixes) n first id

theorem Fits.levelled_iff {o : Outline} (h : g.Fits o) {prefixes : List String}
    {starts : List Atom} {depth : Nat} :
    g.Levelled prefixes starts depth ↔
      ∀ id, o.IsLimited prefixes id → o.IsWithin prefixes starts (depth - 1) id := by
  have callers (u v : Atom) : u ∈ g.callers v ↔ o.calls u v := by rw [mem_callers, h.calls]
  have walks (n : Nat) (u v : Atom) : Search.Walk g.callees (g.limited prefixes) n u v ↔
      Steps (o.LimitedCall prefixes) n u v := Search.walk_iff_steps h.limitedCall_iff
  simp only [Levelled, Outline.IsWithin, Outline.IsFirst, List.eq_nil_iff_forall_not_mem,
    h.mem_limited, callers, walks, and_assoc]

theorem WellFormed.names_of_calls (h : g.WellFormed) (u v : Atom) (hc : g.outline.calls u v) :
    g.outline.names u := by
  obtain ⟨e, he, rfl, rfl⟩ := hc
  exact g.fits_outline.names.2 (h.caller_mem e he)

/-- A limit drops limited functions only, no function that it leaves is stranded, and it drops
nothing when it is applied again. -/
theorem withinLimit_settled (h : g.WellFormed) (prefixes : List String) (starts : List Atom)
    (depth : Nat) :
    (∀ f ∈ g.functions, f.id ∉ g.limited prefixes →
      f ∈ (g.withinLimit prefixes starts depth).functions) ∧
    (g.withinLimit prefixes starts depth).Levelled prefixes starts depth ∧
    (g.withinLimit prefixes starts depth).tooDeep prefixes starts depth = [] ∧
    (g.withinLimit prefixes starts depth).withinLimit prefixes starts depth =
      g.withinLimit prefixes starts depth := by
  have fits := g.fits_outline
  have left := fits.withinLimit prefixes starts depth
  have within (id : Atom) (limited : (g.outline.shallow prefixes starts depth).IsLimited prefixes id) :
      (g.outline.shallow prefixes starts depth).IsWithin prefixes starts (depth - 1) id :=
    Outline.isWithin_shallow h.names_of_calls limited
  have none : (g.withinLimit prefixes starts depth).tooDeep prefixes starts depth = [] := by
    rw [List.eq_nil_iff_forall_not_mem]
    intro id hid
    obtain ⟨limited, deep⟩ := left.mem_tooDeep.1 hid
    exact deep (within id limited)
  refine ⟨fun f hf unlimited => ?_, left.levelled_iff.2 within, none, ?_⟩
  · exact (left.functions f).2 ⟨hf, fun limited => absurd (fits.mem_limited.2 limited) unlimited⟩
  · rw [withinLimit, none]
    exact without_nil (h.withinLimit prefixes starts depth)

/-- Functions `a` to `c` of the package `lib` call each other in turn, `e` is an entry point that only
`c` calls, nothing calls `z`, and `x` and `y` call each other. -/
def spiral : CallGraph where
  functions := { id := .text "m", name := .text "m", package := .text "main" } ::
    ["a", "b", "c", "d", "e", "x", "y", "z"].map fun id =>
      { id := .text id, name := .text id, package := .text "lib" }
  edges := [("m", "a"), ("a", "b"), ("b", "c"), ("c", "a"), ("c", "d"), ("c", "e"), ("z", "d"),
    ("x", "y"), ("y", "x"), ("y", "b")].map fun e => { caller := .text e.1, callee := .text e.2 }

theorem wellFormed_spiral : spiral.WellFormed where
  nodup_ids := by decide
  nodup_ends := by decide
  caller_mem := by decide
  callee_mem := by decide

theorem withinLimit_settled_spiral :
    spiral.WellFormed ∧ spiral.tooDeep ["lib"] [.text "e"] 2 = [.text "c", .text "x", .text "y"] ∧
      (spiral.withinLimit ["lib"] [.text "e"] 2).callers (.text "e") = [] ∧
      (spiral.withinLimit ["lib"] [.text "e"] 2).Levelled ["lib"] [.text "e"] 2 ∧
      (spiral.withinLimit ["lib"] [.text "e"] 2).withinLimit ["lib"] [.text "e"] 2 =
        spiral.withinLimit ["lib"] [.text "e"] 2 := by
  obtain ⟨-, levelled, -, settled⟩ := withinLimit_settled wellFormed_spiral ["lib"] [.text "e"] 2
  exact ⟨wellFormed_spiral, by cbv, by cbv, levelled, settled⟩

end CallGraph

end CallAtlas
