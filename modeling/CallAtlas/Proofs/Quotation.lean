import CallAtlas.Dot.Document
import Mathlib.Data.List.Basic

set_option autoImplicit false

/-!
# Quotes, lines and braces

What is written of a document are words, marks between them and quoted texts. Values stand in quotes
only, so none of them opens or closes a cluster, and none ends a line: the lines of a text are the
lines of its document, every quote is closed on its line, and the braces outside quotes balance.
-/

namespace CallAtlas.Dot

/-- A machine that reads `xs` step by step comes from one state to another. -/
def Runs {σ α : Type} (step : σ → α → Option σ) (s t : σ) (xs : List α) : Prop :=
  xs.foldlM step s = some t

namespace Runs

variable {σ α : Type} {step : σ → α → Option σ} {s t u : σ} {x : α} {xs ys : List α}

theorem single (h : step s x = some t) : Runs step s t [x] := by
  rw [Runs, List.foldlM_cons, h]
  rfl

theorem append (h : Runs step s t xs) (k : Runs step t u ys) : Runs step s u (xs ++ ys) := by
  rw [Runs, List.foldlM_append, h]
  exact k

end Runs

/-! ## Documents with words for names -/

def IsWord (s : String) : Prop := ∀ c ∈ s.toList, c.isAlpha = true

instance (s : String) : Decidable (IsWord s) :=
  List.decidableBAll (fun c : Char => c.isAlpha = true) s.toList

def Attributes.Worded (as : Attributes) : Prop := ∀ a ∈ as, IsWord a.1

instance (as : Attributes) : Decidable as.Worded :=
  inferInstanceAs (Decidable (∀ a ∈ as, IsWord a.1))

inductive Block.Worded : Block → Prop where
  | intro {b : Block} : b.attributes.Worded → (∀ s ∈ b.nodes, s.attributes.Worded) →
      (∀ c ∈ b.blocks, Worded c) → Worded b

structure Document.Worded (d : Document) : Prop where
  graph : d.graph.Worded
  nodeDefaults : d.nodeDefaults.Worded
  edgeDefaults : d.edgeDefaults.Worded
  blocks : ∀ b ∈ d.blocks, b.Worded
  nodes : ∀ s ∈ d.nodes, s.attributes.Worded
  edges : ∀ s ∈ d.edges, s.attributes.Worded

/-! ## Sealed texts -/

def IsPlain (c : Char) : Prop := c ∉ ['"', '\x7b', '\x7d', '\n']

instance : DecidablePred IsPlain := fun c => inferInstanceAs (Decidable (c ∉ _))

def Plain (cs : List Char) : Prop := ∀ c ∈ cs, IsPlain c

instance (cs : List Char) : Decidable (Plain cs) := List.decidableBAll IsPlain cs

/-- All quotes of a text are closed, and neither braces nor line feeds stand outside of them. -/
inductive Sealed : List Char → Prop where
  | nil : Sealed []
  | plain {c : Char} {cs : List Char} : IsPlain c → Sealed cs → Sealed (c :: cs)
  | quoted (s : List Char) {cs : List Char} : Sealed cs → Sealed (Quoted.encode s ++ cs)

namespace Sealed

variable {x y : List Char}

theorem append (hx : Sealed x) (hy : Sealed y) : Sealed (x ++ y) := by
  induction hx with
  | nil => exact hy
  | plain hc _ ih => exact .plain hc ih
  | quoted s _ ih => exact List.append_assoc _ _ _ ▸ .quoted s ih

theorem of_plain (h : Plain x) : Sealed x := by
  induction x with
  | nil => exact .nil
  | cons c cs ih =>
    exact .plain (h c List.mem_cons_self) (ih fun d hd => h d (List.mem_cons_of_mem c hd))

theorem encode (s : List Char) : Sealed (Quoted.encode s) := by
  simpa using Sealed.quoted s .nil

theorem linefeed_not_mem (h : Sealed x) : '\n' ∉ x := by
  induction h with
  | nil => exact List.not_mem_nil
  | plain hc _ ih =>
    intro hm
    rcases List.mem_cons.1 hm with rfl | hm
    · exact hc (by decide)
    · exact ih hm
  | quoted s _ ih =>
    intro hm
    exact (List.mem_append.1 hm).elim (Quoted.linefeed_not_mem_encode s) ih

theorem word {s : String} (h : IsWord s) : Sealed s.toList := by
  refine of_plain fun c hc mark => ?_
  have letter := h c hc
  simp only [List.mem_cons, List.not_mem_nil, or_false] at mark
  rcases mark with rfl | rfl | rfl | rfl <;> cases letter

theorem blanks (depth : Nat) : Sealed (indent depth).toList := by
  rw [indent, String.toList_ofList]
  refine of_plain fun c hc => ?_
  rw [List.eq_of_mem_replicate hc]
  decide

theorem number (n : Nat) : Sealed (toString n).toList := by
  rw [Nat.toString_eq_repr, Nat.toList_repr]
  refine of_plain fun c hc mark => ?_
  have digit := Nat.isDigit_of_mem_toDigits (by decide) (by decide) hc
  simp only [List.mem_cons, List.not_mem_nil, or_false] at mark
  rcases mark with rfl | rfl | rfl | rfl <;> cases digit

theorem intercalate {sep : String} (hs : Sealed sep.toList) {xs : List String}
    (h : ∀ x ∈ xs, Sealed x.toList) : Sealed (sep.intercalate xs).toList := by
  induction xs with
  | nil => exact .nil
  | cons x xs ih =>
    cases xs with
    | nil => simpa using h x List.mem_cons_self
    | cons y ys =>
      rw [String.intercalate_cons_cons, String.toList_append, String.toList_append]
      exact ((h x List.mem_cons_self).append hs).append
        (ih fun z hz => h z (List.mem_cons_of_mem x hz))

theorem quotedText (s : String) : Sealed (Dot.quoted s).toList := by
  rw [Dot.quoted, String.toList_ofList]
  exact encode s.toList

theorem assignment {a : String × String} (ha : IsWord a.1) : Sealed (assignment a).toList := by
  rw [Dot.assignment, String.toList_append, String.toList_append]
  exact ((word ha).append (of_plain (by decide))).append (quotedText a.2)

theorem bracketed {as : Attributes} (h : as.Worded) : Sealed (bracketed as).toList := by
  rw [Dot.bracketed, String.toList_append, String.toList_append]
  refine ((of_plain (by decide)).append (intercalate (of_plain (by decide)) fun x hx => ?_)).append
    (of_plain (by decide))
  obtain ⟨a, ha, rfl⟩ := List.mem_map.1 hx
  exact assignment (h a ha)

theorem node {s : NodeStatement} (h : s.attributes.Worded) : Sealed s.line.toList := by
  rw [NodeStatement.line]
  simp only [String.toList_append]
  exact (((quotedText s.id).append (of_plain (by decide))).append (bracketed h)).append
    (of_plain (by decide))

theorem edge {s : EdgeStatement} (h : s.attributes.Worded) : Sealed s.line.toList := by
  have attributes : Sealed (if s.attributes.isEmpty then "" else
      " " ++ Dot.bracketed s.attributes).toList := by
    split
    · exact .nil
    · rw [String.toList_append]
      exact (of_plain (by decide)).append (bracketed h)
  rw [EdgeStatement.line]
  simp only [String.toList_append]
  exact ((((quotedText s.tail).append (of_plain (by decide))).append (quotedText s.head)).append
    attributes).append (of_plain (by decide))

end Sealed

/-! ## Braces -/

/-- Whether a character stands outside quotes, in quotes, or in quotes behind a backslash. -/
inductive Place where
  | outside | quoted | escaped

/-- One character further, with the number of braces that are open. Braces in quotes do not count,
and no brace is closed that is not open. -/
def Place.step : Place × Nat → Char → Option (Place × Nat)
  | (.escaped, n), _ => some (.quoted, n)
  | (.quoted, n), c =>
    some (if c = '"' then .outside else if c = '\\' then .escaped else .quoted, n)
  | (.outside, n), c =>
    if c = '"' then some (.quoted, n)
    else if c = '\x7b' then some (.outside, n + 1)
    else if c = '\x7d' then if n = 0 then none else some (.outside, n - 1)
    else some (.outside, n)

def Leads (n m : Nat) (cs : List Char) : Prop := Runs Place.step (.outside, n) (.outside, m) cs

def Balanced (text : String) : Prop := Leads 0 0 text.toList

theorem runs_escapeAll (n : Nat) (s : List Char) :
    Runs Place.step (.quoted, n) (.quoted, n) (Quoted.escapeAll s) := by
  have escape (c : Char) : Runs Place.step (.quoted, n) (.quoted, n) (Quoted.escape c) := by
    unfold Quoted.escape
    split
    · rfl
    · split
      · rfl
      · split
        · rfl
        · rename_i backslash quote _
          refine .single ?_
          rw [Place.step, if_neg quote, if_neg backslash]
  induction s with
  | nil => rfl
  | cons c s ih => exact (escape c).append ih

theorem Leads.encode (n : Nat) (s : List Char) : Leads n n (Quoted.encode s) :=
  Runs.append (.append (.single rfl) (runs_escapeAll n s)) (.single rfl)

theorem Sealed.leads {cs : List Char} (h : Sealed cs) (n : Nat) : Leads n n cs := by
  induction h with
  | nil => rfl
  | @plain c cs hc _ ih =>
    simp only [IsPlain, List.mem_cons, List.not_mem_nil, or_false, not_or] at hc
    have first : Leads n n [c] := by
      refine .single ?_
      rw [Place.step, if_neg hc.1, if_neg hc.2.1, if_neg hc.2.2.1]
    exact first.append ih
  | quoted s _ ih => exact (Leads.encode n s).append ih

/-! ## Lines -/

def textOf (lines : List String) : List Char := lines.flatMap fun l => l.toList ++ ['\n']

/-- Lines that hold no line feed and close their quotes, and lead from some open braces to some. -/
inductive Rows : Nat → Nat → List String → Prop where
  | nil {n : Nat} : Rows n n []
  | cons {n m k : Nat} {l : String} {ls : List String} : '\n' ∉ l.toList → Leads n m l.toList →
      Rows m k ls → Rows n k (l :: ls)

namespace Rows

variable {n m k : Nat} {ls ks : List String}

theorem append (h : Rows n m ls) (h' : Rows m k ks) : Rows n k (ls ++ ks) := by
  induction h with
  | nil => exact h'
  | cons feed leads _ ih => exact .cons feed leads (ih h')

theorem linefeed_not_mem (h : Rows n m ls) : ∀ l ∈ ls, '\n' ∉ l.toList := by
  induction h with
  | nil => exact fun _ hl => nomatch hl
  | cons feed _ _ ih => exact List.forall_mem_cons.2 ⟨feed, ih⟩

theorem leads (h : Rows n m ls) : Leads n m (textOf ls) := by
  induction h with
  | nil => rfl
  | cons _ leads _ ih =>
    rw [textOf, List.flatMap_cons]
    exact (leads.append (.single rfl)).append ih

theorem line {l : String} {x y : List Char} (hl : l.toList = x ++ y) (hx : Sealed x)
    (feed : '\n' ∉ y) (leads : Leads n m y) : Rows n m [l] := by
  refine .cons ?_ ?_ .nil
  · rw [hl]
    exact fun hm => (List.mem_append.1 hm).elim hx.linefeed_not_mem feed
  · rw [hl]
    exact (hx.leads n).append leads

theorem of_sealed (h : ∀ l ∈ ls, Sealed l.toList) : Rows n n ls := by
  induction ls with
  | nil => exact .nil
  | cons l ls ih =>
    have first := h l List.mem_cons_self
    exact .cons first.linefeed_not_mem (first.leads n)
      (ih fun k hk => h k (List.mem_cons_of_mem l hk))

end Rows

namespace Block

theorem rows_allLines {n depth : Nat} {bs : List Block} (h : ∀ b ∈ bs, Rows n n (b.lines depth)) :
    Rows n n (allLines depth bs) := by
  induction bs with
  | nil => exact .nil
  | cons b bs ih =>
    exact (h b List.mem_cons_self).append (ih fun c hc => h c (List.mem_cons_of_mem b hc))

theorem Worded.rows {b : Block} (h : b.Worded) (n depth : Nat) : Rows n n (b.lines depth) := by
  induction h generalizing n depth with
  | @intro b attributes nodes _ ih =>
    obtain ⟨number, as, ns, bs⟩ := b
    have start : Sealed (indent depth ++ "subgraph cluster_" ++ toString number ++ " ").toList := by
      simp only [String.toList_append]
      exact (((Sealed.blanks depth).append (.of_plain (by decide))).append (.number number)).append
        (.of_plain (by decide))
    have opens : Rows n (n + 1)
        [indent depth ++ "subgraph cluster_" ++ toString number ++ " \x7b"] :=
      .line (y := ['\x7b']) (by simp) start (by decide) rfl
    have closes : Rows (n + 1) n [indent depth ++ "\x7d"] :=
      .line (y := ['\x7d']) String.toList_append (.blanks depth) (by decide) rfl
    refine (((opens.append (.of_sealed ?_)).append (.of_sealed ?_)).append
      (rows_allLines fun c hc => ih c hc _ _)).append closes
    · intro l hl
      obtain ⟨a, ha, rfl⟩ := List.mem_map.1 hl
      simp only [String.toList_append]
      exact ((Sealed.blanks _).append (.assignment (attributes a ha))).append
        (.of_plain (by decide))
    · intro l hl
      obtain ⟨s, hs, rfl⟩ := List.mem_map.1 hl
      rw [String.toList_append]
      exact (Sealed.blanks _).append (.node (nodes s hs))

end Block

namespace Document

variable {d : Document} (h : d.Worded)

include h

theorem Worded.rows : Rows 0 0 d.lines := by
  have look {word : String} (hw : Sealed word.toList) {as : Attributes} (ha : as.Worded) :
      Sealed (indent 1 ++ word ++ bracketed as ++ ";").toList := by
    simp only [String.toList_append]
    exact (((Sealed.blanks 1).append hw).append (.bracketed ha)).append (.of_plain (by decide))
  have opens : Rows 0 1 ["digraph callgraph \x7b"] :=
    .line (x := "digraph callgraph ".toList) rfl (.of_plain (by decide)) (by decide) rfl
  have looks : Rows 1 1 [indent 1 ++ "graph " ++ bracketed d.graph ++ ";",
      indent 1 ++ "node " ++ bracketed d.nodeDefaults ++ ";",
      indent 1 ++ "edge " ++ bracketed d.edgeDefaults ++ ";", ""] := by
    refine .of_sealed (List.forall_mem_cons.2 ⟨look (.of_plain (by decide)) h.graph,
      List.forall_mem_cons.2 ⟨look (.of_plain (by decide)) h.nodeDefaults,
        List.forall_mem_cons.2 ⟨look (.of_plain (by decide)) h.edgeDefaults, ?_⟩⟩⟩)
    exact fun l hl => List.mem_singleton.1 hl ▸ .nil
  have gap : Rows 1 1 (if d.edges.isEmpty then [] else [""]) := by
    split
    · exact .nil
    · exact .of_sealed fun l hl => List.mem_singleton.1 hl ▸ .nil
  have closes : Rows 1 0 ["\x7d"] := .line (x := []) rfl .nil (by decide) rfl
  have clusters := Block.rows_allLines fun b hb => (h.blocks b hb).rows 1 1
  refine (((((opens.append looks).append clusters).append (.of_sealed ?_)).append gap).append
    (.of_sealed ?_)).append closes
  · intro l hl
    obtain ⟨s, hs, rfl⟩ := List.mem_map.1 hl
    rw [String.toList_append]
    exact (Sealed.blanks 1).append (.node (h.nodes s hs))
  · intro l hl
    obtain ⟨s, hs, rfl⟩ := List.mem_map.1 hl
    rw [String.toList_append]
    exact (Sealed.blanks 1).append (.edge (h.edges s hs))

omit h in
theorem toList_render_eq (d : Document) : d.render.toList = textOf d.lines := by
  have joined (l : String) (ls : List String) :
      ("\n".intercalate (l :: ls) ++ "\n").toList = textOf (l :: ls) := by
    induction ls generalizing l with
    | nil => simp [textOf]
    | cons k ls ih =>
      have front : ("\n".intercalate (l :: k :: ls) ++ "\n").toList =
          (l.toList ++ ['\n']) ++ ("\n".intercalate (k :: ls) ++ "\n").toList := by
        simp [String.intercalate_cons_cons]
      rw [front, ih]
      rfl
  rw [render, lines]
  exact joined _ _

theorem Worded.balanced : Balanced d.render := by
  rw [Balanced, toList_render_eq]
  exact h.rows.leads

theorem Worded.splitOn_render :
    d.render.toList.splitOn '\n' = d.lines.map String.toList ++ [[]] := by
  have text : d.render = "\n".intercalate (d.lines ++ [""]) := by
    rw [String.intercalate_append_of_ne_nil (by simp [lines]) (by simp),
      String.intercalate_singleton, String.append_empty]
    rfl
  rw [text, String.toList_intercalate, List.map_append]
  change (['\n'].intercalate (d.lines.map String.toList ++ [[]])).splitOn '\n' = _
  rw [List.splitOn_intercalate]
  · intro l hl
    rcases List.mem_append.1 hl with hl | hl
    · obtain ⟨s, hs, rfl⟩ := List.mem_map.1 hl
      exact h.rows.linefeed_not_mem s hs
    · rw [List.mem_singleton.1 hl]
      exact List.not_mem_nil
  · simp

end Document

end CallAtlas.Dot
