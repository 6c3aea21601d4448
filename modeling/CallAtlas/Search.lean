set_option autoImplicit false

/-!
# Search

Which elements of a finite region can be reached from a list of starts. `Search.Path` and
`Search.Walk` are the relations, the latter with the number of steps. `Search.visit` goes through a
worklist and ends because every element of the region is visited once, and `Search.layers` counts
steps. `mem_reach` and `mem_within` say that the searches find exactly what the relations hold of.
-/

namespace CallAtlas.Search

variable {α : Type}

/-- Some steps lead from `a` to `b`, and every one of them ends in the region. -/
inductive Path (next : α → List α) (region : List α) : α → α → Prop where
  | refl (a : α) : Path next region a a
  | step {a b c : α} : b ∈ next a → b ∈ region → Path next region b c → Path next region a c

/-- `n` steps lead from `a` to `b`, and every one of them ends in the region. -/
inductive Walk (next : α → List α) (region : List α) : Nat → α → α → Prop where
  | stay (a : α) : Walk next region 0 a a
  | step {n : Nat} {a b c : α} :
    b ∈ next a → b ∈ region → Walk next region n b c → Walk next region (n + 1) a c

theorem Path.trans {next : α → List α} {region : List α} {a b c : α}
    (h : Path next region a b) (k : Path next region b c) : Path next region a c := by
  induction h with
  | refl => exact k
  | step hb hr _ ih => exact .step hb hr (ih k)

theorem Path.mem_of_closed {next : α → List α} {region s : List α} {a b : α}
    (h : Path next region a b) (closed : ∀ x ∈ s, ∀ y ∈ next x, y ∈ region → y ∈ s) (ha : a ∈ s) :
    b ∈ s := by
  induction h with
  | refl => exact ha
  | step hb hr _ ih => exact ih (closed _ ha _ hb hr)

variable [DecidableEq α]

def unseen (region seen : List α) : List α := region.filter fun a => a ∉ seen

theorem length_unseen_cons_le (region seen : List α) (a : α) :
    (unseen region (a :: seen)).length ≤ (unseen region seen).length := by
  induction region with
  | nil => simp [unseen]
  | cons b region ih =>
    simp only [unseen, List.filter_cons, List.mem_cons, not_or, decide_not] at ih ⊢
    by_cases hb : b ∈ seen
    · simpa [hb] using ih
    · by_cases hab : b = a
      · simp only [hab] at ih ⊢
        simp only [not_true_eq_false, false_and, decide_false, Bool.false_eq_true, if_false]
        split
        · simp only [List.length_cons]; omega
        · exact ih
      · simpa [hb, hab] using ih

theorem length_unseen_cons_lt {region seen : List α} {a : α} (hr : a ∈ region) (hs : a ∉ seen) :
    (unseen region (a :: seen)).length < (unseen region seen).length := by
  induction region with
  | nil => cases hr
  | cons b region ih =>
    by_cases hab : b = a
    · subst hab
      have := length_unseen_cons_le region seen b
      simp [unseen, hs] at this ⊢
      omega
    · have hr : a ∈ region := (List.mem_cons.1 hr).resolve_left fun h => hab h.symm
      have := ih hr
      by_cases hb : b ∈ seen
      · simpa [unseen, hb] using this
      · simpa [unseen, hb, hab] using this

/-- Goes through the elements that wait, newest first; the elements seen are the latest first. -/
def visit (next : α → List α) (region : List α) (waiting seen : List α) : List α :=
  match waiting with
  | [] => seen
  | a :: rest =>
    if a ∈ region ∧ a ∉ seen then visit next region (next a ++ rest) (a :: seen)
    else visit next region rest seen
termination_by ((unseen region seen).length, waiting.length)
decreasing_by
  · rename_i h
    exact Prod.Lex.left _ _ (length_unseen_cons_lt h.1 h.2)
  · exact Prod.Lex.right _ (by simp)

theorem subset_visit (next : α → List α) (region waiting seen : List α) :
    ∀ a ∈ seen, a ∈ visit next region waiting seen := by
  fun_induction visit next region waiting seen with
  | case1 => exact fun a ha => ha
  | case2 seen a rest _ ih => exact fun b hb => ih b (List.mem_cons_of_mem a hb)
  | case3 seen a rest _ ih => exact ih

theorem mem_visit_of_waiting (next : α → List α) (region waiting seen : List α) :
    ∀ a ∈ waiting, a ∈ region → a ∈ visit next region waiting seen := by
  fun_induction visit next region waiting seen with
  | case1 => exact fun a ha => nomatch ha
  | case2 seen a rest _ ih =>
    intro b hb hr
    rcases List.mem_cons.1 hb with rfl | hb
    · exact subset_visit next region _ _ b (List.mem_cons_self)
    · exact ih b (List.mem_append_right _ hb) hr
  | case3 seen a rest h ih =>
    intro b hb hr
    rcases List.mem_cons.1 hb with rfl | hb
    · exact subset_visit next region _ _ b (Decidable.not_not.1 fun hs => h ⟨hr, hs⟩)
    · exact ih b hb hr

theorem path_of_mem_visit (next : α → List α) (region waiting seen : List α) :
    ∀ b ∈ visit next region waiting seen,
      b ∈ seen ∨ ∃ a ∈ waiting, a ∈ region ∧ Path next region a b := by
  fun_induction visit next region waiting seen with
  | case1 => exact fun b hb => .inl hb
  | case2 seen a rest h ih =>
    intro b hb
    rcases ih b hb with hb | ⟨c, hc, hr, hp⟩
    · rcases List.mem_cons.1 hb with rfl | hb
      · exact .inr ⟨b, List.mem_cons_self, h.1, .refl b⟩
      · exact .inl hb
    · rcases List.mem_append.1 hc with hc | hc
      · exact .inr ⟨a, List.mem_cons_self, h.1, .step hc hr hp⟩
      · exact .inr ⟨c, List.mem_cons_of_mem a hc, hr, hp⟩
  | case3 seen a rest _ ih =>
    intro b hb
    rcases ih b hb with hb | ⟨c, hc, hr, hp⟩
    · exact .inl hb
    · exact .inr ⟨c, List.mem_cons_of_mem a hc, hr, hp⟩

/-- If only elements that wait are missing behind the elements seen, none is missing in the end. -/
theorem visit_closed (next : α → List α) (region waiting seen : List α)
    (h : ∀ a ∈ seen, ∀ b ∈ next a, b ∈ region → b ∈ seen ∨ b ∈ waiting) :
    ∀ a ∈ visit next region waiting seen, ∀ b ∈ next a, b ∈ region →
      b ∈ visit next region waiting seen := by
  fun_induction visit next region waiting seen with
  | case1 =>
    intro a ha b hb hr
    exact (h a ha b hb hr).resolve_right fun hw => nomatch hw
  | case2 seen c rest _ ih =>
    refine ih fun a ha b hb hr => ?_
    rcases List.mem_cons.1 ha with rfl | ha
    · exact .inr (List.mem_append_left _ hb)
    · rcases h a ha b hb hr with hs | hw
      · exact .inl (List.mem_cons_of_mem c hs)
      · rcases List.mem_cons.1 hw with rfl | hw
        · exact .inl List.mem_cons_self
        · exact .inr (List.mem_append_right _ hw)
  | case3 seen c rest hc ih =>
    refine ih fun a ha b hb hr => ?_
    rcases h a ha b hb hr with hs | hw
    · exact .inl hs
    · rcases List.mem_cons.1 hw with rfl | hw
      · exact .inl (Decidable.not_not.1 fun hs => hc ⟨hr, hs⟩)
      · exact .inr hw

/-- The elements of the region that the starts lead to, the starts in it included. -/
def reach (next : α → List α) (region starts : List α) : List α := visit next region starts []

theorem mem_reach {next : α → List α} {region starts : List α} {b : α} :
    b ∈ reach next region starts ↔ ∃ a ∈ starts, a ∈ region ∧ Path next region a b := by
  constructor
  · intro hb
    exact (path_of_mem_visit next region starts [] b hb).resolve_left fun h => nomatch h
  · rintro ⟨a, ha, hr, hp⟩
    exact hp.mem_of_closed (visit_closed next region starts [] fun _ h => nomatch h)
      (mem_visit_of_waiting next region starts [] a ha hr)

def ahead (next : α → List α) (region frontier seen : List α) : List α :=
  ((frontier.flatMap next).filter fun a => a ∈ region ∧ a ∉ seen).eraseDups

theorem mem_ahead {next : α → List α} {region frontier seen : List α} {b : α} :
    b ∈ ahead next region frontier seen ↔
      (∃ a ∈ frontier, b ∈ next a) ∧ b ∈ region ∧ b ∉ seen := by
  simp [ahead, List.mem_eraseDups]

/-- What at most `n` steps inside the region add to the elements seen, when the last step ended at
the frontier. -/
def layers (next : α → List α) (region : List α) : Nat → List α → List α → List α
  | 0, _, seen => seen
  | n + 1, frontier, seen =>
    match ahead next region frontier seen with
    | [] => seen
    | new => layers next region n new (seen ++ new)

theorem mem_or_walk_of_walk {next : α → List α} {region frontier seen new : List α}
    (closed : ∀ a ∈ seen, a ∉ frontier → ∀ b ∈ next a, b ∈ region → b ∈ seen)
    (mem_new : ∀ b, b ∈ new ↔ (∃ a ∈ frontier, b ∈ next a) ∧ b ∈ region ∧ b ∉ seen)
    {k : Nat} {a b : α} (h : Walk next region k a b) (ha : a ∈ seen) :
    b ∈ seen ∨ ∃ c ∈ new, ∃ j, j < k ∧ Walk next region j c b := by
  induction h with
  | stay => exact .inl ha
  | @step k a b c hb hr hw ih =>
    by_cases hs : b ∈ seen
    · rcases ih hs with h | ⟨d, hd, j, hj, hw⟩
      · exact .inl h
      · exact .inr ⟨d, hd, j, Nat.lt_succ_of_lt hj, hw⟩
    · by_cases hf : a ∈ frontier
      · exact .inr ⟨b, (mem_new b).2 ⟨⟨a, hf, hb⟩, hr, hs⟩, k, Nat.lt_succ_self k, hw⟩
      · exact absurd (closed a ha hf b hb hr) hs

theorem mem_layers {next : α → List α} {region frontier seen : List α} {n : Nat} {b : α}
    (sub : ∀ a ∈ frontier, a ∈ seen)
    (closed : ∀ a ∈ seen, a ∉ frontier → ∀ b ∈ next a, b ∈ region → b ∈ seen) :
    b ∈ layers next region n frontier seen ↔
      b ∈ seen ∨ ∃ a ∈ frontier, ∃ k, k ≤ n ∧ Walk next region k a b := by
  induction n generalizing frontier seen with
  | zero =>
    simp only [layers, Nat.le_zero]
    constructor
    · exact .inl
    · rintro (h | ⟨a, ha, k, rfl, hw⟩)
      · exact h
      · cases hw
        exact sub _ ha
  | succ n ih =>
    have mem_new (c : α) : c ∈ ahead next region frontier seen ↔
        (∃ a ∈ frontier, c ∈ next a) ∧ c ∈ region ∧ c ∉ seen := mem_ahead
    simp only [layers]
    generalize ahead next region frontier seen = new at mem_new
    have leaves {k : Nat} {a : α} (ha : a ∈ frontier) (hw : Walk next region k a b) :=
      mem_or_walk_of_walk closed mem_new hw (sub a ha)
    split
    · constructor
      · exact .inl
      · rintro (h | ⟨a, ha, k, _, hw⟩)
        · exact h
        · exact (leaves ha hw).resolve_right fun ⟨_, hc, _⟩ => nomatch hc
    · rw [ih]
      · constructor
        · rintro (h | ⟨a, ha, k, hk, hw⟩)
          · rcases List.mem_append.1 h with h | h
            · exact .inl h
            · obtain ⟨⟨a, ha, hb⟩, hr, _⟩ := (mem_new b).1 h
              exact .inr ⟨a, ha, 1, Nat.succ_le_succ (Nat.zero_le n), .step hb hr (.stay b)⟩
          · obtain ⟨⟨c, hc, hb⟩, hr, _⟩ := (mem_new a).1 ha
            exact .inr ⟨c, hc, k + 1, Nat.succ_le_succ hk, .step hb hr hw⟩
        · rintro (h | ⟨a, ha, k, hk, hw⟩)
          · exact .inl (List.mem_append_left _ h)
          · rcases leaves ha hw with h | ⟨c, hc, j, hj, hw⟩
            · exact .inl (List.mem_append_left _ h)
            · exact .inr ⟨c, hc, j, by omega, hw⟩
      · exact fun a ha => List.mem_append_right _ ha
      · intro a ha hn c hc hr
        rcases List.mem_append.1 ha with ha | ha
        · by_cases hs : c ∈ seen
          · exact List.mem_append_left _ hs
          · by_cases hf : a ∈ frontier
            · exact List.mem_append_right _ ((mem_new c).2 ⟨⟨a, hf, hc⟩, hr, hs⟩)
            · exact absurd (closed a ha hf c hc hr) hs
        · exact absurd ha hn

/-- The elements that at most `n` steps inside the region lead to from the starts. -/
def within (next : α → List α) (region : List α) (n : Nat) (starts : List α) : List α :=
  layers next region n starts starts

theorem mem_within {next : α → List α} {region starts : List α} {n : Nat} {b : α} :
    b ∈ within next region n starts ↔ ∃ a ∈ starts, ∃ k, k ≤ n ∧ Walk next region k a b := by
  rw [within, mem_layers (fun _ h => h) fun _ ha hn => absurd ha hn]
  constructor
  · rintro (h | h)
    · exact ⟨b, h, 0, Nat.zero_le n, .stay b⟩
    · exact h
  · exact .inr

end CallAtlas.Search
