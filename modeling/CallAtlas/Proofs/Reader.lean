import CallAtlas.Proofs.Lines

set_option autoImplicit false

/-!
# Reading DOT texts

A text is read line by line, and what the lines say is put together on a stack of the clusters whose
end has not come. A document whose attributes are named by words is read back from its text.
-/

namespace CallAtlas.Dot

inductive Progress where
  | start
  | inside (d : Document) (pending : List Block)
  | done (d : Document)

namespace Progress

/-- Clusters that have ended become part of the innermost one that is open, or of the document. -/
def hold (bs : List Block) (d : Document) : List Block → Progress
  | [] => .inside { d with blocks := d.blocks ++ bs } []
  | c :: pending => .inside d ({ c with blocks := c.blocks ++ bs } :: pending)

/-- One line further. What may not stand at a place is not read there. -/
def step : Progress → Line → Option Progress
  | p, .blank => some p
  | .start, .opening => some (.inside ⟨[], [], [], [], [], []⟩ [])
  | .inside d [], .defaults "graph" as => some (.inside { d with graph := as } [])
  | .inside d [], .defaults "node" as => some (.inside { d with nodeDefaults := as } [])
  | .inside d [], .defaults "edge" as => some (.inside { d with edgeDefaults := as } [])
  | .inside d pending, .block n => some (.inside d (⟨n, [], [], []⟩ :: pending))
  | .inside d (b :: pending), .attribute a =>
    some (.inside d ({ b with attributes := b.attributes ++ [a] } :: pending))
  | .inside d (b :: pending), .node s =>
    some (.inside d ({ b with nodes := b.nodes ++ [s] } :: pending))
  | .inside d [], .node s => some (.inside { d with nodes := d.nodes ++ [s] } [])
  | .inside d [], .edge s => some (.inside { d with edges := d.edges ++ [s] } [])
  | .inside d (b :: pending), .closing => some (hold [b] d pending)
  | .inside d [], .closing => some (.done d)
  | _, _ => none

def finished? : Progress → Option Document
  | .done d => some d
  | _ => none

end Progress

def Document.read (text : String) : Option Document := do
  let lines ← (text.toList.splitOn '\n').mapM Line.read
  (← lines.foldlM Progress.step .start).finished?

namespace Block

mutual

def said : Block → List Line
  | ⟨number, attributes, nodes, blocks⟩ =>
    [.block number] ++ attributes.map .attribute ++ nodes.map .node ++ allSaid blocks ++ [.closing]

def allSaid : List Block → List Line
  | [] => []
  | b :: bs => said b ++ allSaid bs

end

end Block

namespace Document

def said (d : Document) : List Line :=
  [.opening, .defaults "graph" d.graph, .defaults "node" d.nodeDefaults,
    .defaults "edge" d.edgeDefaults, .blank] ++ Block.allSaid d.blocks ++ d.nodes.map .node ++
    (if d.edges.isEmpty then [] else [.blank]) ++ d.edges.map .edge ++ [.closing]

end Document

/-- The lines are read one by one as what they say. -/
def Says (lines : List String) (said : List Line) : Prop :=
  lines.map (fun l => Line.read l.toList) = said.map some

namespace Says

theorem append {ls ks : List String} {xs ys : List Line} (h : Says ls xs) (k : Says ks ys) :
    Says (ls ++ ks) (xs ++ ys) := by
  rw [Says, List.map_append, List.map_append, h, k]

theorem single {l : String} {x : Line} (h : Line.read l.toList = some x) : Says [l] [x] := by
  rw [Says, List.map_singleton, h]
  rfl

theorem map {α : Type} {f : α → String} {g : α → Line} {xs : List α}
    (h : ∀ x ∈ xs, Line.read (f x).toList = some (g x)) : Says (xs.map f) (xs.map g) := by
  rw [Says, List.map_map, List.map_map]
  exact List.map_congr_left h

theorem mapM {ls : List String} {xs : List Line} (h : Says ls xs) :
    (ls.map String.toList).mapM Line.read = some xs := by
  induction ls generalizing xs with
  | nil =>
    cases xs with
    | nil => rfl
    | cons x xs => cases h
  | cons l ls ih =>
    cases xs with
    | nil => cases h
    | cons x xs =>
      obtain ⟨head, tail⟩ := List.cons.inj h
      have first : Line.read l.toList = some x := head
      rw [List.map_cons, List.mapM_cons, first, ih tail]
      rfl

end Says

namespace Block

theorem allLines_say {depth : Nat} {bs : List Block}
    (h : ∀ b ∈ bs, Says (b.lines depth) b.said) : Says (allLines depth bs) (allSaid bs) := by
  induction bs with
  | nil => rfl
  | cons b bs ih =>
    exact (h b List.mem_cons_self).append (ih fun c hc => h c (List.mem_cons_of_mem b hc))

theorem Worded.lines_say {b : Block} (h : b.Worded) (depth : Nat) : Says (b.lines depth) b.said := by
  induction h generalizing depth with
  | @intro b attributes nodes _ ih =>
    obtain ⟨number, as, ns, bs⟩ := b
    rw [lines, said]
    refine (((Says.single (Line.read_block depth number)).append (Says.map ?_)).append
      (Says.map ?_)).append (allLines_say fun c hc => ih c hc _) |>.append
        (Says.single (Line.read_closing depth))
    · exact fun a ha => Line.read_attribute _ (attributes a ha)
    · exact fun s hs => Line.read_node _ (nodes s hs)

end Block

theorem Document.Worded.lines_say {d : Document} (h : d.Worded) : Says d.lines d.said := by
  have head : Says ["digraph callgraph \x7b", indent 1 ++ "graph " ++ bracketed d.graph ++ ";",
      indent 1 ++ "node " ++ bracketed d.nodeDefaults ++ ";",
      indent 1 ++ "edge " ++ bracketed d.edgeDefaults ++ ";", ""]
      [.opening, .defaults "graph" d.graph, .defaults "node" d.nodeDefaults,
        .defaults "edge" d.edgeDefaults, .blank] := by
    have graph := Line.read_defaults (t := "graph") (by decide) (by decide) h.graph
    have node := Line.read_defaults (t := "node") (by decide) (by decide) h.nodeDefaults
    have edge := Line.read_defaults (t := "edge") (by decide) (by decide) h.edgeDefaults
    have opening : Line.read "digraph callgraph \x7b".toList = some .opening := rfl
    exact ((((Says.single opening).append (.single graph)).append (.single node)).append
      (.single edge)).append (.single rfl)
  have gap : Says (if d.edges.isEmpty then [] else [""])
      (if d.edges.isEmpty then [] else [.blank]) := by
    cases d.edges.isEmpty <;> rfl
  refine ((((head.append (Block.allLines_say fun b hb => (h.blocks b hb).lines_say 1)).append
    (Says.map fun s hs => Line.read_node 1 (h.nodes s hs))).append gap).append
      (Says.map fun s hs => Line.read_edge (h.edges s hs))).append (Says.single rfl)

namespace Progress

/-- If a line adds one item to what is read, lines add all their items. -/
theorem runs_map {α : Type} {f : α → Line} {s : List α → Progress}
    (adds : ∀ xs x, step (s xs) (f x) = some (s (xs ++ [x]))) (xs ys : List α) :
    Runs step (s xs) (s (xs ++ ys)) (ys.map f) := by
  induction ys generalizing xs with
  | nil =>
    rw [List.append_nil]
    rfl
  | cons y ys ih =>
    have rest := ih (xs ++ [y])
    rw [List.append_assoc] at rest
    exact Runs.append (.single (adds xs y)) rest

variable (d : Document) (b : Block) (pending : List Block)

theorem runs_attributes (as : Attributes) :
    Runs step (.inside d (b :: pending))
      (.inside d ({ b with attributes := b.attributes ++ as } :: pending)) (as.map .attribute) := by
  obtain ⟨number, attributes, nodes, blocks⟩ := b
  exact runs_map (f := .attribute)
    (s := fun xs => .inside d (⟨number, xs, nodes, blocks⟩ :: pending)) (fun _ _ => rfl) attributes as

theorem runs_members (ns : List NodeStatement) :
    Runs step (.inside d (b :: pending))
      (.inside d ({ b with nodes := b.nodes ++ ns } :: pending)) (ns.map .node) := by
  obtain ⟨number, attributes, nodes, blocks⟩ := b
  exact runs_map (f := .node)
    (s := fun xs => .inside d (⟨number, attributes, xs, blocks⟩ :: pending)) (fun _ _ => rfl) nodes ns

theorem runs_nodes (ns : List NodeStatement) :
    Runs step (.inside d []) (.inside { d with nodes := d.nodes ++ ns } []) (ns.map .node) :=
  runs_map (f := .node) (s := fun xs => .inside { d with nodes := xs } []) (fun _ _ => rfl)
    d.nodes ns

theorem runs_edges (es : List EdgeStatement) :
    Runs step (.inside d []) (.inside { d with edges := d.edges ++ es } []) (es.map .edge) :=
  runs_map (f := .edge) (s := fun xs => .inside { d with edges := xs } []) (fun _ _ => rfl)
    d.edges es

theorem hold_nil : hold [] d pending = .inside d pending := by
  cases pending with
  | nil => simp [hold]
  | cons c pending =>
    cases c
    simp [hold]

mutual

/-- The lines of a cluster put it where it stands, whatever stands there before. -/
theorem runs_said (d : Document) (pending : List Block) :
    (b : Block) → Runs step (.inside d pending) (hold [b] d pending) b.said
  | ⟨number, as, ns, bs⟩ => by
    have opens : Runs step (.inside d pending) (.inside d (⟨number, [], [], []⟩ :: pending))
        [.block number] := .single rfl
    have inside := ((opens.append (runs_attributes d _ pending as)).append
      (runs_members d _ pending ns)).append (runs_allSaid d _ bs)
    exact inside.append (.single rfl)

theorem runs_allSaid (d : Document) (pending : List Block) :
    (bs : List Block) → Runs step (.inside d pending) (hold bs d pending) (Block.allSaid bs)
  | [] => congrArg some (hold_nil d pending).symm
  | b :: bs => by
    have first := runs_said d pending b
    -- The first cluster has become part of what is innermost, and the others follow there.
    cases pending with
    | nil =>
      have rest := runs_allSaid { d with blocks := d.blocks ++ [b] } [] bs
      rw [hold, List.append_assoc] at rest
      exact first.append rest
    | cons c pending =>
      have rest := runs_allSaid d ({ c with blocks := c.blocks ++ [b] } :: pending) bs
      rw [hold, List.append_assoc] at rest
      exact first.append rest

end

end Progress

namespace Document

open Progress in
theorem runs_said (d : Document) : Runs step .start (.done d) d.said := by
  have looks : Runs step .start (.inside ⟨d.graph, d.nodeDefaults, d.edgeDefaults, [], [], []⟩ [])
      [.opening, .defaults "graph" d.graph, .defaults "node" d.nodeDefaults,
        .defaults "edge" d.edgeDefaults, .blank] := rfl
  have gap (e : Document) : Runs step (.inside e []) (.inside e [])
      (if d.edges.isEmpty then [] else [.blank]) := by
    cases d.edges.isEmpty <;> rfl
  have parts := (((looks.append (runs_allSaid _ [] d.blocks)).append (runs_nodes _ d.nodes)).append
    (gap _)).append (runs_edges _ d.edges)
  exact parts.append (.single rfl)

/-- A document is read back from its text. -/
theorem Worded.read_render {d : Document} (h : d.Worded) : read d.render = some d := by
  have trailing : Says [""] [.blank] := .single rfl
  have lines := (h.lines_say.append trailing).mapM
  rw [List.map_append] at lines
  change ((d.lines.map String.toList ++ [[]]).mapM Line.read) = _ at lines
  have run : Runs Progress.step .start (.done d) (d.said ++ [.blank]) :=
    d.runs_said.append (.single rfl)
  rw [read, h.splitOn_render, lines]
  change ((d.said ++ [Line.blank]).foldlM Progress.step .start >>= _) = _
  rw [run]
  rfl

end Document

end CallAtlas.Dot
