import CallAtlas.Run.Merge
set_option autoImplicit false

/-!
# Sorting by runs

A list is cut into runs, which are sorted; then neighbours are merged, such that runs of about the
same length meet. If the order of the elements is total, the outcome is the one sorted list in which
equal elements keep their order. If some elements are not less and not greater than any other, it is
still a rule what becomes of them: `sort_perm` says that nothing is lost.
-/

namespace CallAtlas.Run

variable {α : Type}

/-- The elements that follow on each other behind `x`, and the rest. -/
def splitChain (follows : α → α → Bool) (x : α) : List α → List α × List α
  | [] => ([], [])
  | y :: ys =>
    if follows x y then (splitChain follows y ys).map (y :: ·) id else ([], y :: ys)

theorem splitChain_append (follows : α → α → Bool) (x : α) (xs : List α) :
    (splitChain follows x xs).1 ++ (splitChain follows x xs).2 = xs := by
  induction xs generalizing x with
  | nil => rfl
  | cons y ys ih =>
    unfold splitChain
    split
    · simpa using ih y
    · rfl

/-- The first run of a list and the rest. A run in which each element is less than the one before is
turned round. -/
def firstRun (less : α → α → Bool) : List α → List α × List α
  | [] => ([], [])
  | [x] => ([x], [])
  | x :: y :: ys =>
    if less y x then
      (splitChain (fun a b => less b a) y ys).map (fun run => (x :: y :: run).reverse) id
    else (splitChain (fun a b => !less b a) y ys).map (x :: y :: ·) id

theorem firstRun_perm (less : α → α → Bool) (xs : List α) :
    ((firstRun less xs).1 ++ (firstRun less xs).2).Perm xs := by
  match xs with
  | [] => exact .refl _
  | [x] => exact .refl _
  | x :: y :: ys =>
    by_cases h : less y x
    · rw [firstRun, if_pos h]
      refine ((List.reverse_perm _).append_right _).trans (.of_eq ?_)
      simpa using splitChain_append _ y ys
    · rw [firstRun, if_neg h]
      simp [splitChain_append]

/-- The shortest run of a list of so many elements: less than 64, and such that the list is cut into
about a power of two of them. -/
def leastLength (count : Nat) (isOdd : Bool) : Nat :=
  if count < 64 then count + isOdd.toNat else leastLength (count / 2) (isOdd || count % 2 = 1)

def lengthened (less : α → α → Bool) (least : Nat) (run rest : List α) : List α × List α :=
  let n := least - run.length
  ((rest.take n).foldl (insert less) run, rest.drop n)

theorem lengthened_perm (less : α → α → Bool) (least : Nat) (run rest : List α) :
    ((lengthened less least run rest).1 ++ (lengthened less least run rest).2).Perm
      (run ++ rest) := by
  unfold lengthened
  refine ((foldl_insert_perm less _ run).append_right _).trans (.of_eq ?_)
  rw [List.append_assoc, List.take_append_drop]

/-- At most so many runs of a list, and what is behind them as one more. -/
def cut (less : α → α → Bool) (least : Nat) : Nat → List α → List (List α)
  | _, [] => []
  | 0, xs => [xs]
  | n + 1, x :: xs =>
    let (run, rest) := firstRun less (x :: xs)
    let (run, rest) := lengthened less least run rest
    run :: cut less least n rest

theorem flatten_cut_perm (less : α → α → Bool) (least n : Nat) (xs : List α) :
    (cut less least n xs).flatten.Perm xs := by
  fun_induction cut less least n xs with
  | case1 => exact .refl _
  | case2 => simp
  | case3 n x xs run rest e run' rest' e' ih =>
    rw [List.flatten_cons]
    refine (ih.append_left _).trans ?_
    have hf := firstRun_perm less (x :: xs)
    have hl := lengthened_perm less least run rest
    rw [e] at hf
    rw [e'] at hl
    exact hl.trans hf

/-- How many times a list is halved until its middles part two places, which are given twice over. -/
def power (count : Nat) : Nat → Nat → Nat → Nat
  | 0, _, _ => 0
  | n + 1, a, b =>
    if count ≤ a then power count n (2 * (a - count)) (2 * (b - count)) + 1
    else if count ≤ b then 1
    else power count n (2 * a) (2 * b) + 1

structure Pending (α : Type) where
  run : List α
  start : Nat
  /-- How far the list is halved between the run and the next one. -/
  power : Nat := 0

structure Stack (α : Type) where
  pending : List (Pending α) := []
  patience : Nat := Progress.worthwhile

namespace Stack

def items (s : Stack α) : List α := (s.pending.reverse.map Pending.run).flatten

/-- The merge of two neighbours, which waits as the first of them. -/
def join (less : α → α → Bool) (patience : Nat) (first second : Pending α) : Pending α × Nat :=
  (merge less patience first.run second.run).map (fun run => { first with run := run }) id

/-- Merges the last two runs while the list is halved more often between them than `power` says. -/
def settle (less : α → α → Bool) (power : Nat) : Nat → Stack α → Stack α
  | n + 1, ⟨last :: first :: rest, patience⟩ =>
    if power < first.power then
      let (joined, patience) := join less patience first last
      settle less power n ⟨joined :: rest, patience⟩
    else ⟨last :: first :: rest, patience⟩
  | _, s => s

def append (s : Stack α) (power : Nat) (run : List α) : Stack α :=
  match s.pending with
  | [] => { s with pending := [{ run := run, start := 0 }] }
  | last :: rest =>
    let next := { run := run, start := last.start + last.run.length }
    { s with pending := next :: { last with power := power } :: rest }

/-- Puts a run behind those that wait, some of which are merged before. -/
def push (less : α → α → Bool) (count : Nat) (s : Stack α) (run : List α) : Stack α :=
  match s.pending with
  | [] => s.append 0 run
  | last :: _ =>
    let a := 2 * last.start + last.run.length
    let p := power count count a (a + last.run.length + run.length)
    (s.settle less p s.pending.length).append p run

/-- Merges all runs from the last one on. Of three neighbours the first two are merged if the first
is shorter than the last. -/
def finish (less : α → α → Bool) : Nat → Stack α → Stack α
  | n + 1, ⟨c :: b :: a :: rest, patience⟩ =>
    if a.run.length < c.run.length then
      let (joined, patience) := join less patience a b
      finish less n ⟨c :: joined :: rest, patience⟩
    else
      let (joined, patience) := join less patience b c
      finish less n ⟨joined :: a :: rest, patience⟩
  | _, ⟨[b, a], patience⟩ =>
    let (joined, patience) := join less patience a b
    ⟨[joined], patience⟩
  | _, s => s

theorem items_cons (p : Pending α) (ps : List (Pending α)) (patience : Nat) :
    items ⟨p :: ps, patience⟩ = items ⟨ps, patience⟩ ++ p.run := by
  simp [items]

theorem run_join_perm (less : α → α → Bool) (patience : Nat) (first second : Pending α) :
    (join less patience first second).1.run.Perm (first.run ++ second.run) :=
  merge_perm less patience first.run second.run

theorem items_settle_perm (less : α → α → Bool) (power n : Nat) (s : Stack α) :
    (settle less power n s).items.Perm s.items := by
  fun_induction settle less power n s with
  | case1 n last first rest patience h joined patience' e ih =>
    refine ih.trans ?_
    have hj := run_join_perm less patience first last
    rw [e] at hj
    simp only [items_cons, List.append_assoc]
    exact hj.append_left _
  | case2 => exact .refl _
  | case3 => exact .refl _

theorem items_append (s : Stack α) (power : Nat) (run : List α) :
    (s.append power run).items = s.items ++ run := by
  unfold append
  split <;> simp_all [items]

theorem items_push_perm (less : α → α → Bool) (count : Nat) (s : Stack α) (run : List α) :
    (s.push less count run).items.Perm (s.items ++ run) := by
  unfold push
  split
  · exact .of_eq (items_append s 0 run)
  · dsimp only
    rw [items_append]
    exact (items_settle_perm less _ _ s).append_right run

theorem items_finish_perm (less : α → α → Bool) (n : Nat) (s : Stack α) :
    (finish less n s).items.Perm s.items := by
  fun_induction finish less n s with
  | case1 n c b a rest patience h joined patience' e ih =>
    have hj := run_join_perm less patience a b
    rw [e] at hj
    refine ih.trans ?_
    simp only [items_cons, List.append_assoc]
    refine .append_left _ ?_
    rw [← List.append_assoc]
    exact hj.append_right _
  | case2 n c b a rest patience h joined patience' e ih =>
    have hj := run_join_perm less patience b c
    rw [e] at hj
    refine ih.trans ?_
    simp only [items_cons, List.append_assoc]
    exact .append_left _ (.append_left _ hj)
  | case3 n b a patience joined patience' e =>
    have hj := run_join_perm less patience a b
    rw [e] at hj
    simp only [items_cons, List.append_assoc]
    exact .append_left _ hj
  | case4 => exact .refl _

theorem items_foldl_push_perm (less : α → α → Bool) (count : Nat) (runs : List (List α))
    (s : Stack α) : (runs.foldl (push less count) s).items.Perm (s.items ++ runs.flatten) := by
  induction runs generalizing s with
  | nil => simp
  | cons run runs ih =>
    refine (ih _).trans (((items_push_perm less count s run).append_right _).trans (.of_eq ?_))
    simp

end Stack

def sort (less : α → α → Bool) (xs : List α) : List α :=
  let runs := cut less (leastLength xs.length false) xs.length xs
  let s := runs.foldl (Stack.push less xs.length) {}
  (s.finish less s.pending.length).items

theorem sort_perm (less : α → α → Bool) (xs : List α) : (sort less xs).Perm xs :=
  (Stack.items_finish_perm less _ _).trans
    ((Stack.items_foldl_push_perm less _ _ _).trans (flatten_cut_perm less _ _ xs))

end CallAtlas.Run
