import CallAtlas.Run.Leap
set_option autoImplicit false

/-!
# Merging runs

Two runs that stand behind each other are merged into one. The parts of the first run that nothing
of the second one is less than, and of the second that are not less than anything of the first, stay
where they are. The shorter of what is left is held, and elements are taken from the ends that meet
where it stood: one by one, or whole stretches once one run has given many in a row. `merge_perm`
says that nothing is lost, whatever is less than what.
-/

namespace CallAtlas.Run

variable {α : Type}

/-- Two runs that are being merged: what was taken and what is left of both. -/
structure Merging (α : Type) where
  taken : List α := []
  held : List α
  other : List α

namespace Merging

def isOver (m : Merging α) : Bool := m.other.isEmpty || m.held.length ≤ 1

def result (m : Merging α) : List α := m.taken ++ m.other ++ m.held

def takeHeld (m : Merging α) (n : Nat) : Merging α :=
  { m with taken := m.taken ++ m.held.take n, held := m.held.drop n }

def takeOther (m : Merging α) (n : Nat) : Merging α :=
  { m with taken := m.taken ++ m.other.take n, other := m.other.drop n }

theorem result_takeHeld_perm (m : Merging α) (n : Nat) : (m.takeHeld n).result.Perm m.result := by
  simp only [result, takeHeld, List.append_assoc]
  refine List.Perm.append_left _ (List.perm_append_comm_assoc _ _ _ |>.trans ?_)
  rw [List.take_append_drop]

theorem result_takeOther (m : Merging α) (n : Nat) : (m.takeOther n).result = m.result := by
  simp [result, takeOther]

end Merging

/-- From which end runs are merged, told by what is asked of their elements. -/
structure Manner (α : Type) where
  /-- Whether the next element of the other run goes before the next one that is held. -/
  otherFirst : α → α → Bool
  heldBefore : α → List α → Nat
  otherBefore : α → List α → Nat
  /-- Whether a stretch is looked for among the elements that are held first. -/
  heldFirst : Bool

namespace Manner

/-- From the front, where the first run is held. -/
def front (less : α → α → Bool) : Manner α :=
  { otherFirst := fun x y => less y x
    heldBefore := fun y xs => countFromFront (fun x => !less y x) xs
    otherBefore := fun x ys => countFromFront (fun y => less y x) ys
    heldFirst := true }

def back (less : α → α → Bool) : Manner α :=
  { otherFirst := fun x y => less x y
    heldBefore := fun y xs => xs.length - countFromBack (fun x => less x y) xs.reverse
    otherBefore := fun x ys => ys.length - countFromBack (fun y => !less x y) ys.reverse
    heldFirst := false }

/-- Takes a stretch of the elements that are held and the one of the other run that ends it; with
the length of the stretch. -/
def leapHeld (how : Manner α) (m : Merging α) : Merging α × Nat :=
  match m.other with
  | [] => (m, 0)
  | y :: _ =>
    let n := how.heldBefore y m.held
    let m := m.takeHeld n
    (if m.isOver then m else m.takeOther 1, n)

def leapOther (how : Manner α) (m : Merging α) : Merging α × Nat :=
  match m.held with
  | [] => (m, 0)
  | x :: _ =>
    let n := how.otherBefore x m.other
    let m := m.takeOther n
    (if m.isOver then m else m.takeHeld 1, n)

def leapBoth (how : Manner α) (m : Merging α) : Merging α × Nat :=
  let (first, second) :=
    if how.heldFirst then (how.leapHeld, how.leapOther) else (how.leapOther, how.leapHeld)
  let (m, n) := first m
  if m.isOver then (m, n)
  else
    let (m, k) := second m
    (m, max n k)

theorem result_leapHeld_perm (how : Manner α) (m : Merging α) :
    (how.leapHeld m).1.result.Perm m.result := by
  unfold leapHeld
  split
  · exact .refl _
  · dsimp only
    split
    · exact m.result_takeHeld_perm _
    · rw [Merging.result_takeOther]
      exact m.result_takeHeld_perm _

theorem result_leapOther_perm (how : Manner α) (m : Merging α) :
    (how.leapOther m).1.result.Perm m.result := by
  unfold leapOther
  split
  · exact .refl _
  · dsimp only
    split
    · rw [Merging.result_takeOther]
    · refine (Merging.result_takeHeld_perm _ _).trans ?_
      rw [Merging.result_takeOther]

theorem result_leapBoth_perm (how : Manner α) (m : Merging α) :
    (how.leapBoth m).1.result.Perm m.result := by
  unfold leapBoth
  cases how.heldFirst
  · simp only [Bool.false_eq_true, if_false]
    split
    · exact how.result_leapOther_perm m
    · exact (how.result_leapHeld_perm _).trans (how.result_leapOther_perm m)
  · simp only [if_true]
    split
    · exact how.result_leapHeld_perm m
    · exact (how.result_leapOther_perm _).trans (how.result_leapHeld_perm m)

end Manner

structure Progress (α : Type) where
  merging : Merging α
  /-- How many elements in a row make that stretches are looked for. -/
  patience : Nat
  leaping : Bool := false
  /-- How many elements in a row were held, and of the other run, until now. -/
  rows : Nat × Nat := (0, 0)

namespace Progress

/-- The least length of a stretch that makes the next one worth looking for. -/
def worthwhile : Nat := 7

def inRows (p : Progress α) (m : Merging α) (rows : Nat × Nat) : Progress α :=
  { p with merging := m, rows := rows, leaping := p.patience ≤ max rows.1 rows.2 }

def takeOne (how : Manner α) (p : Progress α) : Progress α :=
  match p.merging.held, p.merging.other with
  | x :: _, y :: _ =>
    if how.otherFirst x y then p.inRows (p.merging.takeOther 1) (0, p.rows.2 + 1)
    else p.inRows (p.merging.takeHeld 1) (p.rows.1 + 1, 0)
  | _, _ => p

/-- Takes a stretch of both runs. Long ones make the merge less patient, short ones more. -/
def takeStretches (how : Manner α) (p : Progress α) : Progress α :=
  let (m, n) := how.leapBoth p.merging
  if m.isOver then { p with merging := m }
  else if worthwhile ≤ n then { p with merging := m, patience := max 1 (p.patience - 1) }
  else { merging := m, patience := p.patience + 1 }

def step (how : Manner α) (p : Progress α) : Progress α :=
  if p.leaping then p.takeStretches how else p.takeOne how

def steps (how : Manner α) : Nat → Progress α → Progress α
  | 0, p => p
  | n + 1, p => if p.merging.isOver then p else steps how n (p.step how)

theorem result_step_perm (how : Manner α) (p : Progress α) :
    (p.step how).merging.result.Perm p.merging.result := by
  unfold step takeStretches takeOne
  split
  · dsimp only
    split
    · exact how.result_leapBoth_perm p.merging
    · split <;> exact how.result_leapBoth_perm p.merging
  · split
    · split
      · exact .of_eq (p.merging.result_takeOther 1)
      · exact p.merging.result_takeHeld_perm 1
    · exact .refl _

theorem result_steps_perm (how : Manner α) (n : Nat) (p : Progress α) :
    (steps how n p).merging.result.Perm p.merging.result := by
  induction n generalizing p with
  | zero => exact .refl _
  | succ n ih =>
    unfold steps
    split
    · exact .refl _
    · exact (ih _).trans (result_step_perm how p)

end Progress

/-- Two runs merged, of which the first of the other one goes first; with the patience that is
left. -/
def mergeFrom (how : Manner α) (patience : Nat) (held other : List α) : List α × Nat :=
  let p := Progress.steps how (held.length + other.length)
    { merging := Merging.takeOther { held := held, other := other } 1, patience := patience }
  (p.merging.result, p.patience)

theorem mergeFrom_perm (how : Manner α) (patience : Nat) (held other : List α) :
    (mergeFrom how patience held other).1.Perm (other ++ held) := by
  unfold mergeFrom
  refine (Progress.result_steps_perm how _ _).trans ?_
  rw [Merging.result_takeOther]
  exact .of_eq rfl

/-- Two runs merged from the end where the shorter one is, with the patience that is left. -/
def mergeFromShorter (less : α → α → Bool) (patience : Nat) (first second : List α) :
    List α × Nat :=
  if first.isEmpty || second.isEmpty then (first ++ second, patience)
  else if first.length ≤ second.length then mergeFrom (.front less) patience first second
  else (mergeFrom (.back less) patience second.reverse first.reverse).map List.reverse id

theorem mergeFromShorter_perm (less : α → α → Bool) (patience : Nat) (first second : List α) :
    (mergeFromShorter less patience first second).1.Perm (first ++ second) := by
  unfold mergeFromShorter
  split
  · exact .refl _
  · split
    · exact (mergeFrom_perm _ _ _ _).trans List.perm_append_comm
    · refine (List.reverse_perm _).trans ((mergeFrom_perm _ _ _ _).trans ?_)
      exact (List.reverse_perm _).append (List.reverse_perm _)

/-- How much of a run nothing of the one behind it is less than. -/
def settledBefore (less : α → α → Bool) (first second : List α) : Nat :=
  match second with
  | [] => first.length
  | y :: _ => countFromFront (fun x => !less y x) first

/-- How much of a run stands before what is not less than anything of the one in front of it. -/
def settledBehind (less : α → α → Bool) (first second : List α) : Nat :=
  match first.getLast? with
  | none => 0
  | some x => countFromBack (fun y => less y x) second

def merge (less : α → α → Bool) (patience : Nat) (first second : List α) : List α × Nat :=
  let n := settledBefore less first second
  let k := settledBehind less (first.drop n) second
  let (middle, patience) :=
    mergeFromShorter less patience (first.drop n) (second.take k)
  (first.take n ++ middle ++ second.drop k, patience)

theorem merge_perm (less : α → α → Bool) (patience : Nat) (first second : List α) :
    (merge less patience first second).1.Perm (first ++ second) := by
  refine (((mergeFromShorter_perm less patience _ _).append_left _).append_right _).trans
    (.of_eq ?_)
  rw [← List.append_assoc, List.take_append_drop, List.append_assoc, List.take_append_drop]

end CallAtlas.Run
