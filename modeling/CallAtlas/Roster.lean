set_option autoImplicit false

/-!
# Rosters

A roster is a list in which every entry is known by a key. Putting an entry under a key that is
known replaces the entry in its place, or combines with it; any other entry comes last. So a roster
keeps the order in which the keys were met, and `find?_put` says what is found under each key
afterwards.
-/

namespace CallAtlas.Roster

variable {α κ : Type} [DecidableEq κ]

def find? (key : α → κ) (k : κ) (xs : List α) : Option α := xs.find? fun x => key x = k

def putWith (key : α → κ) (combine : α → α → α) (x : α) : List α → List α
  | [] => [x]
  | y :: ys => if key y = key x then combine y x :: ys else y :: putWith key combine x ys

def put (key : α → κ) (x : α) (xs : List α) : List α := putWith key (fun _ x => x) x xs

def add (key : α → κ) (x : α) (xs : List α) : List α :=
  if (find? key (key x) xs).isSome then xs else xs ++ [x]

theorem find?_nil (key : α → κ) (k : κ) : find? key k [] = none := rfl

theorem find?_cons (key : α → κ) (k : κ) (x : α) (xs : List α) :
    find? key k (x :: xs) = if key x = k then some x else find? key k xs := by
  by_cases h : key x = k <;> simp [find?, h]

theorem key_of_find? {key : α → κ} {k : κ} {xs : List α} {x : α} (h : find? key k xs = some x) :
    key x = k := by
  simpa using List.find?_some h

theorem mem_of_find? {key : α → κ} {k : κ} {xs : List α} {x : α} (h : find? key k xs = some x) :
    x ∈ xs := List.mem_of_find?_eq_some h

theorem find?_isSome {key : α → κ} {k : κ} {xs : List α} :
    (find? key k xs).isSome ↔ k ∈ xs.map key := by
  simp [find?, List.find?_isSome]

theorem find?_putWith {key : α → κ} {combine : α → α → α}
    (keeps : ∀ x y, key y = key x → key (combine y x) = key x) (k : κ) (x : α) (xs : List α) :
    find? key k (putWith key combine x xs) =
      if key x = k then some ((find? key k xs).elim x fun y => combine y x)
      else find? key k xs := by
  induction xs with
  | nil => simp [putWith, find?_cons, find?_nil]
  | cons y ys ih =>
    unfold putWith
    by_cases hy : key y = key x
    · rw [if_pos hy, find?_cons, find?_cons, keeps x y hy, hy]
      split <;> rfl
    · rw [if_neg hy, find?_cons, find?_cons, ih]
      by_cases hk : key y = k
      · rw [if_pos hk, if_neg fun h => hy (hk.trans h.symm), if_pos hk]
      · rw [if_neg hk, if_neg hk]

theorem find?_put (key : α → κ) (k : κ) (x : α) (xs : List α) :
    find? key k (put key x xs) = if key x = k then some x else find? key k xs := by
  rw [put, find?_putWith fun _ _ _ => rfl]
  cases find? key k xs <;> rfl

theorem mem_keys_putWith {key : α → κ} {combine : α → α → α}
    (keeps : ∀ x y, key y = key x → key (combine y x) = key x) (k : κ) (x : α) (xs : List α) :
    k ∈ (putWith key combine x xs).map key ↔ k = key x ∨ k ∈ xs.map key := by
  induction xs with
  | nil => simp [putWith]
  | cons y ys ih =>
    unfold putWith
    by_cases hy : key y = key x
    · simp [hy, keeps x y hy]
    · simp only [hy, if_false, List.map_cons, List.mem_cons, ih]
      constructor
      · rintro (h | h | h) <;> simp [h]
      · rintro (h | h | h) <;> simp [h]

theorem nodup_keys_putWith {key : α → κ} {combine : α → α → α}
    (keeps : ∀ x y, key y = key x → key (combine y x) = key x) (x : α) {xs : List α}
    (h : (xs.map key).Nodup) : ((putWith key combine x xs).map key).Nodup := by
  induction xs with
  | nil => simp [putWith]
  | cons y ys ih =>
    rw [List.map_cons, List.nodup_cons] at h
    unfold putWith
    by_cases hy : key y = key x
    · rw [if_pos hy, List.map_cons, List.nodup_cons, keeps x y hy, ← hy]
      exact h
    · simp only [hy, if_false, List.map_cons, List.nodup_cons]
      refine ⟨?_, ih h.2⟩
      rw [mem_keys_putWith keeps]
      rintro (e | e)
      · exact hy e
      · exact h.1 e

theorem nodup_keys_add (key : α → κ) (x : α) {xs : List α} (h : (xs.map key).Nodup) :
    ((add key x xs).map key).Nodup := by
  unfold add
  split
  · exact h
  · rename_i hx
    rw [find?_isSome] at hx
    rw [List.map_append, List.nodup_append]
    refine ⟨h, by simp, ?_⟩
    intro a ha b hb
    rw [List.map_singleton, List.mem_singleton] at hb
    exact fun e => hx (hb ▸ e ▸ ha)

end CallAtlas.Roster
