import CallAtlas.Json.Atom
import Mathlib.Data.List.Sort
import Mathlib.Data.Prod.Basic

set_option autoImplicit false

/-!
# Sorting by keys

Functions, edges and clusters are sorted by what they are known by, and no two of a list are known
alike. So the sorted list is strictly ordered, and it does not depend on the order before.
-/

namespace CallAtlas

/-- A comparison sorts by a key if it puts nothing in front of a smaller key. -/
def SortsBy {α κ : Type} (r : κ → κ → Prop) (key : α → κ) (le : α → α → Bool) : Prop :=
  ∀ x y, le x y = true ↔ ¬ r (key y) (key x)

namespace SortsBy

variable {α κ : Type} {r : κ → κ → Prop} [IsStrictTotalOrder κ r] {key : α → κ}
  {le : α → α → Bool} (h : SortsBy r key le)

include h

theorem trans (x y z : α) (hxy : le x y) (hyz : le y z) : le x z := by
  rw [h] at hxy hyz ⊢
  intro hzx
  rcases trichotomous_of r (key x) (key y) with hr | hr | hr
  · exact hyz (trans_of r hzx hr)
  · exact hyz (hr ▸ hzx)
  · exact hxy hr

theorem total (x y : α) : le x y || le y x := by
  rw [Bool.or_eq_true, h, h]
  by_cases hr : r (key y) (key x)
  · exact .inr (asymm_of r hr)
  · exact .inl hr

theorem key_eq {x y : α} (hxy : le x y) (hyx : le y x) : key x = key y := by
  rcases trichotomous_of r (key x) (key y) with hr | hr | hr
  · exact absurd hr ((h y x).1 hyx)
  · exact hr
  · exact absurd hr ((h x y).1 hxy)

/-- What is told apart by a key is strictly ordered once it is sorted. -/
theorem pairwise_mergeSort {xs : List α} (nodup : (xs.map key).Nodup) :
    (xs.mergeSort le).Pairwise fun x y => r (key x) (key y) := by
  have sorted := List.pairwise_mergeSort h.trans h.total xs
  have distinct := List.pairwise_map.1
    (((List.mergeSort_perm xs le).map key).nodup_iff.2 nodup)
  refine (sorted.and distinct).imp fun {x y} hxy => ?_
  rcases trichotomous_of r (key x) (key y) with hr | hr | hr
  · exact hr
  · exact absurd hr hxy.2
  · exact absurd hr ((h x y).1 hxy.1)

end SortsBy

/-- Elements that are told apart by their order are sorted into one list, however they come. -/
theorem mergeSort_eq_of_perm {α : Type} {le : α → α → Bool} {xs ys : List α}
    (trans : ∀ x y z, le x y → le y z → le x z) (total : ∀ x y, le x y || le y x)
    (antisymm : ∀ x ∈ xs, ∀ y ∈ xs, le x y → le y x → x = y) (h : xs.Perm ys) :
    xs.mergeSort le = ys.mergeSort le := by
  have sorted := (List.mergeSort_perm xs le).trans (h.trans (List.mergeSort_perm ys le).symm)
  refine sorted.eq_of_pairwise ?_ (List.pairwise_mergeSort trans total xs)
    (List.pairwise_mergeSort trans total ys)
  intro x y hx hy
  have hx := (List.mergeSort_perm xs le).mem_iff.1 hx
  have hy := h.mem_iff.2 ((List.mergeSort_perm ys le).mem_iff.1 hy)
  exact antisymm x hx y hy

theorem eq_of_pairwise_of_mem_iff {α κ : Type} {r : κ → κ → Prop} [IsStrictTotalOrder κ r]
    {key : α → κ} {xs ys : List α} (hx : xs.Pairwise fun x y => r (key x) (key y))
    (hy : ys.Pairwise fun x y => r (key x) (key y)) (same : ∀ x, x ∈ xs ↔ x ∈ ys) : xs = ys := by
  have antisymm : Std.Antisymm fun x y => r (key x) (key y) :=
    ⟨fun _ _ hxy hyx => absurd hyx (asymm_of r hxy)⟩
  have irrefl : Std.Irrefl fun x y => r (key x) (key y) := ⟨fun x => irrefl_of r (key x)⟩
  exact hx.eq_of_mem_iff hy same

namespace Atom

def Before (a b : Atom) : Prop := a.before b = true

instance : IsStrictTotalOrder Atom Before where
  irrefl := before_irrefl
  trans _ _ _ := before_trans
  trichotomous _ _ := eq_of_not_before

abbrev PairBefore : Atom × Atom → Atom × Atom → Prop := Prod.Lex Before Before

instance : IsStrictTotalOrder (Atom × Atom) PairBefore where

theorem le_iff {a b : Atom} : a.le b = true ↔ ¬ Before b a := by
  rw [le, Bool.not_eq_true', ← Bool.not_eq_true]
  rfl

theorem sortedBy_id_of_texts {as : List Atom} (h : ∀ a ∈ as, a.isText) :
    sortedBy id as = sorted as := sortedBy_of_texts h

theorem pairwise_sorted_of_nodup {as : List Atom} (nodup : as.Nodup) :
    (sorted as).Pairwise Before := by
  have sorts : SortsBy Before id le := fun _ _ => le_iff
  exact sorts.pairwise_mergeSort (by rwa [List.map_id])

theorem pair_le_iff {a b c d : Atom} :
    (a.before c || (decide (a = c) && b.le d)) = true ↔ ¬ PairBefore (c, d) (a, b) := by
  rw [PairBefore, Prod.lex_iff, Bool.or_eq_true, Bool.and_eq_true, decide_eq_true_iff, le_iff]
  change Before a c ∨ a = c ∧ ¬ Before d b ↔ ¬ (Before c a ∨ c = a ∧ Before d b)
  constructor
  · rintro (h | ⟨same, h⟩) (k | ⟨same', k⟩)
    · exact asymm_of Before h k
    · exact irrefl_of Before _ (same' ▸ h)
    · exact irrefl_of Before _ (same ▸ k)
    · exact h k
  · intro h
    rcases trichotomous_of Before a c with k | k | k
    · exact .inl k
    · exact .inr ⟨k, fun hk => h (.inr ⟨k.symm, hk⟩)⟩
    · exact absurd (.inl k) h

end Atom

end CallAtlas
