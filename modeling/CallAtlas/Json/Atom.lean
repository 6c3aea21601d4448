import CallAtlas.Json.Shortest
import CallAtlas.Run.Sort
import CallAtlas.Text.Split
set_option autoImplicit false

/-!
# Atoms

The values of a document that have no parts: texts, flags and numbers. Functions, packages and call
sites are known by atoms, which are texts in all documents that are well typed. A flag counts as the
number 1 or 0, so numbers and flags of equal size are the same to a collection, though each keeps its
form: the `key` of an atom is the plainest form of all that are the same. Texts come before numbers in
the order of atoms; `le_total`, `le_trans` and `le_antisymm` say that it is an order. What is not a
number has its place in it, but is neither `less` nor greater than anything; a list with it in is
sorted by runs.
-/

namespace CallAtlas

inductive Atom where
  | text (value : String)
  | flag (value : Bool)
  | int (value : Int)
  | decimal (value : Decimal)
  deriving DecidableEq, Repr, Inhabited

/-- Where a number stands among all numbers: below, within or above the finite ones, and its multiple
of the least distance between doubles. -/
structure Place where
  rank : Int
  steps : Int
  deriving DecidableEq, Repr

namespace Decimal

def form : Decimal → List Int
  | .finite negative digits exponent => [0, if negative then 0 else 1, digits, exponent]
  | .infinite negative => [1, if negative then 0 else 1]
  | .notANumber => [2]

theorem form_injective {c d : Decimal} (h : c.form = d.form) : c = d := by
  cases c <;> cases d <;> grind [form]

/-- The place of the nearest double; what is not a number comes last. -/
def place (d : Decimal) : Place :=
  let f := d.toFloat
  let sign : Int := if f.toBits.toNat / Shortest.signBit = 1 then -1 else 1
  if f != f then ⟨2, 0⟩
  else if f.isInf then ⟨sign, 0⟩
  else
    let (m, q) := Shortest.parts f
    ⟨0, sign * (m * Nat.pow 2 (q + 1074).toNat : Nat)⟩

end Decimal

namespace Atom

def one : Nat := Nat.pow 2 1074

def ofJson? : Json → Option Atom
  | .text s => some (.text s)
  | .bool b => some (.flag b)
  | .int n => some (.int n)
  | .decimal d => some (.decimal d)
  | .null | .array _ | .object _ => none

def toJson : Atom → Json
  | .text s => .text s
  | .flag b => .bool b
  | .int n => .int n
  | .decimal d => .decimal d

@[simp] theorem ofJson?_toJson (a : Atom) : ofJson? a.toJson = some a := by cases a <;> rfl

theorem toJson_of_ofJson? {v : Json} {a : Atom} (h : ofJson? v = some a) : a.toJson = v := by
  cases v <;> simp only [ofJson?, Option.some.injEq, reduceCtorEq] at h <;> subst h <;> rfl

def text? : Atom → Option String
  | .text s => some s
  | _ => none

def isText (a : Atom) : Bool := a.text?.isSome

theorem isText_iff {a : Atom} : a.isText ↔ ∃ s, a = .text s := by
  cases a <;> simp [isText, text?]

def startsWithAny (a : Atom) (prefixes : List String) : Bool :=
  a.text?.any fun s => Text.startsWithAny s prefixes

def isGiven (a : Atom) : Bool := a.toJson.isGiven

def place? : Atom → Option Place
  | .text _ => none
  | .flag b => some ⟨0, if b then one else 0⟩
  | .int n => some ⟨0, n * one⟩
  | .decimal d => some d.place

/-- The plainest form of a number: an integer if it is whole, and the fewest digits if not. -/
def ofDecimal (d : Decimal) : Atom :=
  let p := d.place
  if p.rank = 0 then
    if p.steps % one = 0 then .int (p.steps / one)
    else
      let (m, q) := Shortest.parts d.toFloat
      let (n, last) := Shortest.digits m q
      .decimal (.finite (p.steps < 0) n last)
  else if p.rank = 2 then .decimal .notANumber
  else .decimal (.infinite (p.rank < 0))

/-- The plainest form of an atom, which a collection knows it by. -/
def key : Atom → Atom
  | .text s => .text s
  | .flag b => .int (if b then 1 else 0)
  | .int n => .int n
  | .decimal d => ofDecimal d

@[simp] theorem key_text (s : String) : (Atom.text s).key = .text s := rfl

theorem text?_ofDecimal (d : Decimal) : (ofDecimal d).text? = none := by
  unfold ofDecimal
  grind [text?]

@[simp] theorem text?_key (a : Atom) : a.key.text? = a.text? := by
  cases a
  case decimal d => exact text?_ofDecimal d
  all_goals rfl

@[simp] theorem isText_key (a : Atom) : a.key.isText = a.isText := by simp [isText]

theorem key_of_isText {a : Atom} (h : a.isText) : a.key = a := by
  cases a with
  | text s => rfl
  | flag | int | decimal => cases h

theorem key_eq_text {a : Atom} {s : String} : a.key = .text s ↔ a = .text s := by
  refine ⟨fun h => ?_, fun h => by rw [h, key_text]⟩
  have ht : a.isText := by rw [← isText_key, h]; rfl
  rw [← key_of_isText ht, h]

/-- The form that an atom is shown in, where a text has no other form than itself. -/
def shownAs (a form : Atom) : Atom := if a.isText then a else form

theorem shownAs_of_isText {a : Atom} (h : a.isText) (form : Atom) : a.shownAs form = a := if_pos h

/-- Whether a collection takes two atoms for the same: equal texts, or numbers of equal size. -/
def same (a b : Atom) : Bool := a.key = b.key

def isNotANumber (a : Atom) : Bool := a.key = .decimal .notANumber

/-- Whether two atoms are equal. What is not a number equals nothing, though a collection takes it for
the same as itself. -/
def equals (a b : Atom) : Bool := a.same b && !a.isNotANumber

@[simp] theorem same_text {s t : String} : (Atom.text s).same (.text t) = decide (s = t) := by
  simp [same]

@[simp] theorem equals_text {s t : String} :
    (Atom.text s).equals (.text t) = decide (s = t) := by
  simp [equals, isNotANumber]

def form : Atom → List Int
  | .text _ => []
  | .flag b => [0, if b then 1 else 0]
  | .int n => [1, n]
  | .decimal d => 2 :: d.form

theorem form_injective {a b : Atom} (ha : a.text? = none) (hb : b.text? = none)
    (h : a.form = b.form) : a = b := by
  cases a <;> cases b <;> simp_all [form, text?]
  case flag.flag b c => cases b <;> cases c <;> simp_all
  case decimal.decimal => exact Decimal.form_injective h

/-- What numbers are ordered by: their place, then their form. -/
def sortKey (a : Atom) : List Int :=
  match a.place? with
  | some p => p.rank :: p.steps :: a.form
  | none => []

theorem sortKey_injective {a b : Atom} (ha : a.text? = none) (hb : b.text? = none)
    (h : a.sortKey = b.sortKey) : a = b := by
  refine form_injective ha hb ?_
  cases a <;> cases b <;> simp_all only [sortKey, place?, text?, List.cons.injEq, reduceCtorEq]

/-- Whether `a` comes before `b`: texts by code point, then numbers by size. -/
def before : Atom → Atom → Bool
  | .text s, .text t => s < t
  | .text _, _ => true
  | _, .text _ => false
  | a, b => a.sortKey < b.sortKey

def le (a b : Atom) : Bool := !b.before a

@[simp] theorem before_text {s t : String} : (Atom.text s).before (.text t) ↔ s < t := by
  simp [before]

@[simp] theorem le_text {s t : String} : (Atom.text s).le (.text t) ↔ ¬ t < s := by
  simp [le, before]

theorem before_irrefl (a : Atom) : ¬ a.before a := by
  cases a <;> simp [before]

theorem before_trans {a b c : Atom} (h : a.before b) (k : b.before c) : a.before c := by
  cases a <;> cases b <;> cases c <;>
    simp_all only [before, decide_eq_true_eq, Bool.false_eq_true]
  case text.text.text => exact String.lt_trans h k
  all_goals exact List.lt_trans h k

theorem eq_of_not_before {a b : Atom} (h : ¬ a.before b) (k : ¬ b.before a) : a = b := by
  cases a <;> cases b <;>
    simp_all only [before, decide_eq_true_eq, not_true_eq_false, List.not_lt, String.not_lt,
      text.injEq]
  case text.text => exact String.le_antisymm k h
  all_goals exact sortKey_injective rfl rfl (List.le_antisymm k h)

theorem le_total (a b : Atom) : a.le b || b.le a := by
  simp only [le, Bool.or_eq_true, Bool.not_eq_true']
  by_cases h : b.before a
  · exact .inr (Bool.eq_false_iff.2 fun k => before_irrefl a (before_trans k h))
  · exact .inl (Bool.eq_false_iff.2 h)

theorem le_trans {a b c : Atom} (h : a.le b) (k : b.le c) : a.le c := by
  simp only [le, Bool.not_eq_true', ← Bool.not_eq_true] at h k ⊢
  intro hca
  by_cases hab : a.before b
  · exact k (before_trans hca hab)
  · exact k (eq_of_not_before hab h ▸ hca)

theorem le_antisymm {a b : Atom} (h : a.le b) (k : b.le a) : a = b := by
  simp only [le, Bool.not_eq_true', ← Bool.not_eq_true] at h k
  exact eq_of_not_before k h

def sorted (as : List Atom) : List Atom := as.mergeSort le

theorem sorted_perm (as : List Atom) : (sorted as).Perm as := List.mergeSort_perm _ _

@[simp] theorem mem_sorted {as : List Atom} {a : Atom} : a ∈ sorted as ↔ a ∈ as :=
  (sorted_perm as).mem_iff

theorem pairwise_sorted (as : List Atom) : (sorted as).Pairwise fun a b => a.le b := by
  have trans (a b c : Atom) (h : a.le b) (k : b.le c) : a.le c := le_trans h k
  simpa [sorted] using List.pairwise_mergeSort trans le_total as

def less : Atom → Atom → Bool
  | .text s, .text t => s < t
  | a, b =>
    match a.place?, b.place? with
    | some p, some q =>
      !a.isNotANumber && !b.isNotANumber &&
        (p.rank < q.rank || (p.rank = q.rank && p.steps < q.steps))
    | _, _ => false

def sortedBy {α : Type} (atom : α → Atom) (xs : List α) : List α :=
  if xs.any fun x => (atom x).isNotANumber then Run.sort (fun x y => (atom x).less (atom y)) xs
  else xs.mergeSort fun x y => (atom x).le (atom y)

theorem sortedBy_perm {α : Type} (atom : α → Atom) (xs : List α) :
    (sortedBy atom xs).Perm xs := by
  unfold sortedBy
  split
  · exact Run.sort_perm _ xs
  · exact List.mergeSort_perm _ _

@[simp] theorem mem_sortedBy {α : Type} {atom : α → Atom} {xs : List α} {x : α} :
    x ∈ sortedBy atom xs ↔ x ∈ xs := (sortedBy_perm atom xs).mem_iff

theorem isNotANumber_of_isText {a : Atom} (h : a.isText) : a.isNotANumber = false := by
  cases a with
  | text s => rfl
  | flag | int | decimal => cases h

theorem sortedBy_of_texts {α : Type} {atom : α → Atom} {xs : List α}
    (h : ∀ x ∈ xs, (atom x).isText) :
    sortedBy atom xs = xs.mergeSort fun x y => (atom x).le (atom y) := by
  refine if_neg ?_
  rw [List.any_eq_true]
  rintro ⟨x, hx, hn⟩
  rw [isNotANumber_of_isText (h x hx)] at hn
  cases hn

/-- Whether atoms have a common order: all are texts, or none is. -/
def ofOneKind (as : List Atom) : Bool := as.all isText || as.all fun a => !a.isText

theorem ofOneKind_of_texts {as : List Atom} (h : ∀ a ∈ as, a.isText) : ofOneKind as := by
  simp only [ofOneKind, Bool.or_eq_true, List.all_eq_true]
  exact .inl h

theorem ofOneKind_map {α : Type} {atom : α → Atom} {xs : List α} (h : ∀ x ∈ xs, (atom x).isText) :
    ofOneKind (xs.map atom) :=
  ofOneKind_of_texts (List.forall_mem_map.2 h)

end Atom

end CallAtlas
