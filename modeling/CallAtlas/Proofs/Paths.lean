import CallAtlas.Proofs.Outline
import CallAtlas.CallGraph.Trace

set_option autoImplicit false

/-!
# Paths of searches

The searches go through lists of next elements inside a region. What they find is said here of
relations, and a search that may take as many steps as there are elements to see finds everything.
-/

namespace CallAtlas.Search

variable {α : Type} {next : α → List α} {region : List α} {r : α → α → Prop}

theorem path_iff_reflTransGen (hr : ∀ x y, r x y ↔ y ∈ next x ∧ y ∈ region) {a b : α} :
    Path next region a b ↔ Relation.ReflTransGen r a b := by
  constructor
  · intro h
    induction h with
    | refl a => exact .refl
    | step hb hm _ ih => exact .head ((hr _ _).2 ⟨hb, hm⟩) ih
  · intro h
    induction h using Relation.ReflTransGen.head_induction_on with
    | refl => exact .refl b
    | head hs _ ih => exact .step ((hr _ _).1 hs).1 ((hr _ _).1 hs).2 ih

theorem walk_iff_steps (hr : ∀ x y, r x y ↔ y ∈ next x ∧ y ∈ region) {n : Nat} {a b : α} :
    Walk next region n a b ↔ Steps r n a b := by
  constructor
  · intro h
    induction h with
    | stay a => exact .stay a
    | step hb hm _ ih => exact .step ((hr _ _).2 ⟨hb, hm⟩) ih
  · intro h
    induction h with
    | stay a => exact .stay a
    | step hs _ ih => exact .step ((hr _ _).1 hs).1 ((hr _ _).1 hs).2 ih

variable [DecidableEq α]

theorem unseen_append (region seen new : List α) :
    unseen region (seen ++ new) = (unseen region seen).filter fun a => a ∉ new := by
  unfold unseen
  rw [List.filter_filter]
  apply List.filter_congr
  intro a _
  by_cases hs : a ∈ seen <;> by_cases hn : a ∈ new <;> simp [hs, hn]

theorem length_unseen_append_lt {region seen new : List α} {a : α} (hn : a ∈ new)
    (hr : a ∈ region) (hs : a ∉ seen) :
    (unseen region (seen ++ new)).length < (unseen region seen).length := by
  rw [unseen_append]
  have hu : a ∈ unseen region seen := by simp [unseen, hr, hs]
  exact List.length_filter_lt_length_iff_exists.2 ⟨a, hu, by simpa using hn⟩

/-- With a step for every element to see, only elements behind the frontier were left out, and then
none is. -/
theorem layers_closed {n : Nat} {frontier seen : List α}
    (enough : (unseen region seen).length ≤ n)
    (closed : ∀ a ∈ seen, a ∉ frontier → ∀ b ∈ next a, b ∈ region → b ∈ seen) :
    ∀ a ∈ layers next region n frontier seen, ∀ b ∈ next a, b ∈ region →
      b ∈ layers next region n frontier seen := by
  induction n generalizing frontier seen with
  | zero =>
    intro a _ b _ hr
    have hu : unseen region seen = [] := List.length_eq_zero_iff.1 (by omega)
    have hb : b ∈ seen := by
      have := List.filter_eq_nil_iff.1 hu b hr
      simpa using this
    exact hb
  | succ n ih =>
    unfold layers
    split
    · rename_i hnone
      intro a ha b hb hr
      by_cases hs : b ∈ seen
      · exact hs
      · by_cases hf : a ∈ frontier
        · have hm := mem_ahead.2 ⟨⟨a, hf, hb⟩, hr, hs⟩
          rw [hnone] at hm
          cases hm
        · exact closed a ha hf b hb hr
    · rename_i new hsome
      have mem_new (c : α) : c ∈ ahead next region frontier seen ↔
          (∃ a ∈ frontier, c ∈ next a) ∧ c ∈ region ∧ c ∉ seen := mem_ahead
      generalize ahead next region frontier seen = new at mem_new hsome
      obtain ⟨c, hc⟩ := List.exists_mem_of_ne_nil new hsome
      have hlt := length_unseen_append_lt hc ((mem_new c).1 hc).2.1 ((mem_new c).1 hc).2.2
      apply ih (by omega)
      intro a ha hn b hb hr
      by_cases hs : b ∈ seen
      · exact List.mem_append_left _ hs
      · rcases List.mem_append.1 ha with ha | ha
        · by_cases hf : a ∈ frontier
          · exact List.mem_append_right _ ((mem_new b).2 ⟨⟨a, hf, hb⟩, hr, hs⟩)
          · exact absurd (closed a ha hf b hb hr) hs
        · exact absurd ha hn

/-- Everything that can be reached is reached within as many steps as there are other elements. -/
theorem mem_within_of_path {starts : List α} {n : Nat} {a b : α}
    (enough : (unseen region starts).length ≤ n) (ha : a ∈ starts) (h : Path next region a b) :
    b ∈ within next region n starts := by
  have closed : ∀ a ∈ within next region n starts, ∀ b ∈ next a, b ∈ region →
      b ∈ within next region n starts := layers_closed enough fun _ hs hf => absurd hs hf
  refine h.mem_of_closed closed ?_
  exact mem_within.2 ⟨a, ha, 0, Nat.zero_le n, .stay a⟩

end CallAtlas.Search
