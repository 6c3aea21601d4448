import CallAtlas.Proofs.Quotation

set_option autoImplicit false

/-!
# Lines of DOT texts

A reader for the lines that documents are written with. Each line is read on its own and says what
it is: the start of a cluster, an attribute, a node, an edge. A word, a bracket or a brace that
stands in quotes is never taken for one that does not, so every line is read as what was written.
-/

namespace CallAtlas.Dot

inductive Line where
  | opening
  | defaults (target : String) (attributes : Attributes)
  | block (number : Nat)
  | attribute (a : String × String)
  | node (s : NodeStatement)
  | edge (s : EdgeStatement)
  | closing
  | blank
  deriving DecidableEq, Repr

namespace Line

def assignment? (cs : List Char) : Option ((String × String) × List Char) :=
  match cs.dropWhile Char.isAlpha with
  | '=' :: rest => (Quoted.scan rest).map fun (value, rest) =>
      ((String.ofList (cs.takeWhile Char.isAlpha), String.ofList value), rest)
  | _ => none

theorem length_of_assignment? {cs rest : List Char} {a : String × String}
    (h : assignment? cs = some (a, rest)) : rest.length < cs.length := by
  unfold assignment? at h
  split at h
  · rename_i behind hb
    obtain ⟨⟨value, rest'⟩, hs, he⟩ := Option.map_eq_some_iff.1 h
    cases he
    have shorter := Quoted.length_of_scan hs
    have whole := (cs.dropWhile_suffix Char.isAlpha).length_le
    rw [hb, List.length_cons] at whole
    omega
  · cases h

def assignments? (cs : List Char) : Option (Attributes × List Char) :=
  match _h : assignment? cs with
  | some (a, ',' :: ' ' :: rest) => (assignments? rest).map fun (as, rest) => (a :: as, rest)
  | some (a, ']' :: rest) => some ([a], rest)
  | _ => none
termination_by cs.length
decreasing_by
  have := length_of_assignment? _h
  simp only [List.length_cons] at this
  omega

def bracketed? : List Char → Option (Attributes × List Char)
  | '[' :: cs => (assignments? cs).or (if cs.head? = some ']' then some ([], cs.tail) else none)
  | _ => none

def ending? : List Char → Option Attributes
  | [';'] => some []
  | ' ' :: cs =>
    match bracketed? cs with
    | some (as, [';']) => some as
    | _ => none
  | _ => none

def attribute? (cs : List Char) : Option Line :=
  match assignment? cs with
  | some (a, [';']) => some (.attribute a)
  | _ => none

def defaults? (cs : List Char) : Option Line :=
  (ending? (cs.dropWhile Char.isAlpha)).map (.defaults (String.ofList (cs.takeWhile Char.isAlpha)))

def block? (cs : List Char) : Option Line :=
  (cs.dropPrefix? "subgraph cluster_".toList).bind fun rest =>
    if rest.dropWhile Char.isDigit = [' ', '\x7b'] then
      some (.block (Nat.ofDigitChars 10 (rest.takeWhile Char.isDigit) 0))
    else none

def statement? (cs : List Char) : Option Line :=
  match Quoted.scan cs with
  | some (tail, ' ' :: '-' :: '>' :: ' ' :: rest) =>
    (Quoted.scan rest).bind fun (head, rest) =>
      (ending? rest).map fun as => .edge ⟨String.ofList tail, String.ofList head, as⟩
  | some (id, rest) => (ending? rest).map fun as => .node ⟨String.ofList id, as⟩
  | none => none

/-- The lines that say the same in every text. -/
def fixed? (cs : List Char) : Option Line :=
  if cs = [] then some .blank
  else if cs = ['\x7d'] then some .closing
  else if cs = "digraph callgraph \x7b".toList then some .opening
  else none

def said? (cs : List Char) : Option Line :=
  (attribute? cs).or ((defaults? cs).or ((block? cs).or ((statement? cs).or (fixed? cs))))

/-- What a line says. The blanks in front of it say nothing. -/
def read (cs : List Char) : Option Line := said? (cs.dropWhile (· = ' '))

section Words

variable {name : String} (hn : IsWord name) (rest : List Char)

include hn

theorem takeWhile_word {c : Char} (hc : c.isAlpha = false) :
    (name.toList ++ c :: rest).takeWhile Char.isAlpha = name.toList := by
  rw [List.takeWhile_append_of_pos hn, List.takeWhile_cons_of_neg (by simp [hc]), List.append_nil]

theorem dropWhile_word {c : Char} (hc : c.isAlpha = false) :
    (name.toList ++ c :: rest).dropWhile Char.isAlpha = c :: rest := by
  rw [List.dropWhile_append_of_pos hn, List.dropWhile_cons_of_neg (by simp [hc])]

end Words

theorem toList_assignment (a : String × String) :
    (assignment a).toList = a.1.toList ++ '=' :: Quoted.encode a.2.toList := by
  simp [assignment, quoted]

theorem assignment?_assignment {a : String × String} (ha : IsWord a.1) (rest : List Char) :
    assignment? ((assignment a).toList ++ rest) = some (a, rest) := by
  rw [toList_assignment, List.append_assoc, List.cons_append, assignment?,
    dropWhile_word ha _ rfl, takeWhile_word ha _ rfl]
  simp [Quoted.scan_encode]

theorem assignments?_assignments {a : String × String} {as : Attributes}
    (worded : Attributes.Worded (a :: as)) (rest : List Char) :
    assignments? ((", ".intercalate ((a :: as).map assignment)).toList ++ ']' :: rest) =
      some (a :: as, rest) := by
  induction as generalizing a with
  | nil =>
    rw [assignments?, List.map_singleton, String.intercalate_singleton,
      assignment?_assignment (worded a List.mem_cons_self)]
    rfl
  | cons b as ih =>
    have behind := ih fun c hc => worded c (List.mem_cons_of_mem a hc)
    rw [List.map_cons] at behind
    rw [assignments?, List.map_cons, List.map_cons, String.intercalate_cons_cons,
      String.toList_append, String.toList_append, List.append_assoc, List.append_assoc,
      assignment?_assignment (worded a List.mem_cons_self)]
    change (assignments? ((", ".intercalate _).toList ++ _)).map _ = _
    rw [behind]
    rfl

theorem bracketed?_bracketed {as : Attributes} (worded : as.Worded) (rest : List Char) :
    bracketed? ((bracketed as).toList ++ rest) = some (as, rest) := by
  have text : (bracketed as).toList ++ rest =
      '[' :: ((", ".intercalate (as.map assignment)).toList ++ ']' :: rest) := by
    simp [bracketed]
  rw [text, bracketed?]
  cases as with
  | nil =>
    have none : assignments? (']' :: rest) = Option.none := by
      rw [assignments?]
      rfl
    change (assignments? (']' :: rest)).or _ = _
    rw [none]
    rfl
  | cons a as =>
    rw [assignments?_assignments worded]
    rfl

theorem ending?_bracketed {as : Attributes} (worded : as.Worded) :
    ending? (' ' :: ((bracketed as).toList ++ [';'])) = some as := by
  rw [ending?, bracketed?_bracketed worded]
  rfl

theorem read_indent (depth : Nat) {cs : List Char} (h : cs.head? ≠ some ' ') :
    read ((indent depth).toList ++ cs) = said? cs := by
  have blanks : ∀ c ∈ (indent depth).toList, decide (c = ' ') = true := by
    intro c hc
    rw [indent, String.toList_ofList] at hc
    exact decide_eq_true (List.eq_of_mem_replicate hc)
  have here : cs.dropWhile (· = ' ') = cs := by
    cases cs with
    | nil => rfl
    | cons c cs => exact List.dropWhile_cons_of_neg (by simpa using h)
  rw [read, List.dropWhile_append_of_pos blanks, here]

theorem head?_word {name : String} (hn : IsWord name) (rest : List Char) {c : Char} (hc : c ≠ ' ') :
    (name.toList ++ c :: rest).head? ≠ some ' ' := by
  cases h : name.toList with
  | nil => simpa using hc
  | cons d ds =>
    have letter := hn d (by simp [h])
    intro blank
    cases blank
    cases letter

theorem read_attribute (depth : Nat) {a : String × String} (ha : IsWord a.1) :
    read (indent depth ++ assignment a ++ ";").toList = some (.attribute a) := by
  have start : ((assignment a).toList ++ [';']).head? ≠ some ' ' := by
    rw [toList_assignment, List.append_assoc]
    exact head?_word ha _ (by decide)
  have line : (indent depth ++ assignment a ++ ";").toList =
      (indent depth).toList ++ ((assignment a).toList ++ [';']) := by
    simp
  rw [line, read_indent depth start, said?, attribute?, assignment?_assignment ha]
  rfl

theorem read_defaults {t : String} (ht : IsWord t) (named : t ≠ "") {as : Attributes}
    (worded : as.Worded) :
    read (indent 1 ++ (t ++ " ") ++ bracketed as ++ ";").toList = some (.defaults t as) := by
  obtain ⟨c, cs, hc⟩ := List.exists_cons_of_ne_nil (mt String.toList_eq_nil_iff.1 named)
  have start : (t.toList ++ ' ' :: ((bracketed as).toList ++ [';'])).head? ≠ some ' ' := by
    have letter := ht c (by simp [hc])
    rw [hc]
    rintro ⟨⟩
    cases letter
  have line : (indent 1 ++ (t ++ " ") ++ bracketed as ++ ";").toList =
      (indent 1).toList ++ (t.toList ++ ' ' :: ((bracketed as).toList ++ [';'])) := by
    simp
  rw [line, read_indent 1 start, said?, attribute?, assignment?, defaults?, dropWhile_word ht _ rfl,
    takeWhile_word ht _ rfl, ending?_bracketed worded, String.ofList_toList]
  rfl

theorem read_block (depth n : Nat) :
    read (indent depth ++ "subgraph cluster_" ++ toString n ++ " \x7b").toList =
      some (.block n) := by
  have digits : ∀ c ∈ Nat.toDigits 10 n, c.isDigit = true :=
    fun _ => Nat.isDigit_of_mem_toDigits (by decide) (by decide)
  have line : (indent depth ++ "subgraph cluster_" ++ toString n ++ " \x7b").toList =
      (indent depth).toList ++
        ("subgraph cluster_".toList ++ (Nat.toDigits 10 n ++ [' ', '\x7b'])) := by
    simp [Nat.toList_repr]
  have block : block? ("subgraph cluster_".toList ++ (Nat.toDigits 10 n ++ [' ', '\x7b'])) =
      some (.block n) := by
    rw [block?, List.dropPrefix?_append_of_beq _ (by simp), Option.bind_some,
      List.dropWhile_append_of_pos digits, List.takeWhile_append_of_pos digits]
    have number : Nat.toDigits 10 n ++ [' ', '\x7b'].takeWhile Char.isDigit = Nat.toDigits 10 n :=
      List.append_nil _
    rw [number, Nat.ofDigitChars_ten_toDigits]
    rfl
  rw [line, read_indent depth (by simp), said?, block]
  rfl

theorem said?_of_quoted (cs rest : List Char) :
    said? (Quoted.encode cs ++ rest) = statement? (Quoted.encode cs ++ rest) := by
  have quote : Quoted.encode cs ++ rest = '"' :: (Quoted.escapeAll cs ++ '"' :: rest) := by
    simp [Quoted.encode]
  have block : block? ('"' :: (Quoted.escapeAll cs ++ '"' :: rest)) = none := rfl
  have fixed : fixed? ('"' :: (Quoted.escapeAll cs ++ '"' :: rest)) = none := by
    simp [fixed?]
  rw [quote, said?, block, fixed, Option.or_none]
  rfl

theorem read_node (depth : Nat) {s : NodeStatement} (worded : s.attributes.Worded) :
    read (indent depth ++ s.line).toList = some (.node s) := by
  have line : (indent depth ++ s.line).toList = (indent depth).toList ++
      (Quoted.encode s.id.toList ++ ' ' :: ((bracketed s.attributes).toList ++ [';'])) := by
    simp [NodeStatement.line, quoted]
  obtain ⟨cs, bracket⟩ : ∃ cs, (bracketed s.attributes).toList = '[' :: cs :=
    ⟨_, by rw [bracketed, String.toList_append, String.toList_append]; rfl⟩
  have attributes := ending?_bracketed worded
  rw [line, read_indent depth (by simp [Quoted.encode]), said?_of_quoted, statement?,
    Quoted.scan_encode]
  rw [bracket] at attributes ⊢
  change (ending? (' ' :: ('[' :: cs ++ [';']))).map _ = _
  rw [attributes, String.ofList_toList]
  rfl

theorem read_edge {s : EdgeStatement} (worded : s.attributes.Worded) :
    read (indent 1 ++ s.line).toList = some (.edge s) := by
  obtain ⟨rest, line, attributes⟩ : ∃ rest, (indent 1 ++ s.line).toList = (indent 1).toList ++
      (Quoted.encode s.tail.toList ++ ' ' :: '-' :: '>' :: ' ' ::
        (Quoted.encode s.head.toList ++ rest)) ∧ ending? rest = some s.attributes := by
    by_cases none : s.attributes = []
    · refine ⟨[';'], ?_, by rw [none]; rfl⟩
      simp [EdgeStatement.line, quoted, none]
    · refine ⟨_, ?_, ending?_bracketed worded⟩
      simp [EdgeStatement.line, quoted, none]
  rw [line, read_indent 1 (by simp [Quoted.encode]), said?_of_quoted, statement?,
    Quoted.scan_encode]
  change ((Quoted.scan (Quoted.encode s.head.toList ++ rest)).bind _) = _
  rw [Quoted.scan_encode, Option.bind_some]
  dsimp only
  rw [attributes, String.ofList_toList, String.ofList_toList]
  rfl

theorem read_closing (depth : Nat) : read (indent depth ++ "\x7d").toList = some .closing := by
  rw [String.toList_append, read_indent depth (by simp)]
  rfl

end Line

end CallAtlas.Dot
