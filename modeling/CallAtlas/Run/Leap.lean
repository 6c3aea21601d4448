set_option autoImplicit false

/-!
# Leaps

Where a stretch of places ends that pass a test: by halving, or by steps that double from a place
where the end may be near. Both ask about few places, and they end also if the places that pass are
no stretch; then the answer is an end of some stretch.
-/

namespace CallAtlas.Run

def bisect (test : Nat → Bool) (low high : Nat) : Nat :=
  if low < high then
    let middle := low + (high - low) / 2
    if test middle then bisect test (middle + 1) high else bisect test low middle
  else high
termination_by high - low
decreasing_by all_goals omega

/-- The last of doubling steps that passes a test and the step after it, which goes no further than
`most`. -/
def stride (test : Nat → Bool) (most passed step : Nat) : Nat × Nat :=
  if step < most then
    if test step then stride test most step (2 * step + 1) else (passed, step)
  else (passed, most)
termination_by most - step

/-- The end of the places below `count` that pass a test, looked for from `start` on. -/
def leap (test : Nat → Bool) (count start : Nat) : Nat :=
  if test start then
    let (passed, stop) := stride (fun n => test (start + n)) (count - start) 0 1
    bisect test (start + passed + 1) (start + stop)
  else
    let (passed, stop) := stride (fun n => !test (start - n)) (start + 1) 0 1
    bisect test (start + 1 - stop) (start - passed)

variable {α : Type}

def passesAt (test : α → Bool) (xs : List α) (n : Nat) : Bool := xs[n]?.any test

def countFromFront (test : α → Bool) (xs : List α) : Nat :=
  leap (passesAt test xs) xs.length 0

def countFromBack (test : α → Bool) (xs : List α) : Nat :=
  leap (passesAt test xs) xs.length (xs.length - 1)

/-- A run with one more element, behind those that it is not less than. -/
def insert (less : α → α → Bool) (run : List α) (x : α) : List α :=
  let n := bisect (passesAt (fun y => !less x y) run) 0 run.length
  run.take n ++ x :: run.drop n

theorem insert_perm (less : α → α → Bool) (run : List α) (x : α) :
    (insert less run x).Perm (x :: run) := by
  unfold insert
  exact List.perm_middle.trans (by rw [List.take_append_drop])

theorem foldl_insert_perm (less : α → α → Bool) (xs run : List α) :
    (xs.foldl (insert less) run).Perm (run ++ xs) := by
  induction xs generalizing run with
  | nil => simp
  | cons x xs ih =>
    rw [List.foldl_cons]
    exact (ih _).trans (((insert_perm less run x).append_right xs).trans List.perm_middle.symm)

end CallAtlas.Run
