import CallAtlas.Proofs.Drawing
import CallAtlas.Proofs.Reader

set_option autoImplicit false

/-!
# Charts

What a DOT text tells of a view: the title, the nested clusters with their nodes, the nodes outside
clusters and the edges. `Chart.read` takes a chart off a text and knows nothing of views;
`Chart.ofView` says what the chart of a view has to be.
-/

namespace CallAtlas.Dot

structure Spot where
  id : String
  label : String
  deriving DecidableEq, Repr

structure Box where
  kind : String
  key : String
  label : String
  focused : Bool
  spots : List Spot
  boxes : List Box
  deriving Repr

inductive Stroke where
  | solid | dashed | dotted
  deriving DecidableEq, Repr

structure Arrow where
  tail : String
  head : String
  sites : String
  stroke : Stroke
  deriving DecidableEq, Repr

structure Chart where
  title : String
  boxes : List Box
  loose : List Spot
  arrows : List Arrow
  deriving Repr

/-! ## Charts of texts -/

def Attributes.value? (name : String) (as : Attributes) : Option String :=
  (Roster.find? Prod.fst name as).map Prod.snd

def Spot.ofStatement? (s : NodeStatement) : Option Spot :=
  (s.attributes.value? "label").map fun label => ⟨s.id, label⟩

def Stroke.ofStyle? : Option String → Option Stroke
  | none => some .solid
  | some "dashed" => some .dashed
  | some "dotted" => some .dotted
  | some _ => none

def Arrow.ofStatement? (s : EdgeStatement) : Option Arrow :=
  (Stroke.ofStyle? (s.attributes.value? "style")).map fun stroke =>
    ⟨s.tail, s.head, (s.attributes.value? "tooltip").getD "", stroke⟩

/-- The kind and the key that a tooltip is made of: they stand before and behind the first colon. -/
def kindAndKey? (tooltip : String) : Option (String × String) :=
  match tooltip.toList.dropWhile (· ≠ ':') with
  | ':' :: ' ' :: key =>
    some (String.ofList (tooltip.toList.takeWhile (· ≠ ':')), String.ofList key)
  | _ => none

namespace Box

mutual

def ofBlock? : Block → Option Box
  | ⟨_, attributes, nodes, blocks⟩ => do
    let label ← attributes.value? "label"
    let (kind, key) ← kindAndKey? (← attributes.value? "tooltip")
    let fill ← attributes.value? "fillcolor"
    let spots ← nodes.mapM Spot.ofStatement?
    let boxes ← ofBlocks? blocks
    return ⟨kind, key, label, fill = focusClusterFill, spots, boxes⟩

def ofBlocks? : List Block → Option (List Box)
  | [] => some []
  | b :: bs => do return (← ofBlock? b) :: (← ofBlocks? bs)

end

end Box

namespace Chart

def ofDocument? (d : Document) : Option Chart := do
  let title ← d.graph.value? "label"
  let boxes ← Box.ofBlocks? d.blocks
  let loose ← d.nodes.mapM Spot.ofStatement?
  let arrows ← d.edges.mapM Arrow.ofStatement?
  return ⟨title, boxes, loose, arrows⟩

def read (text : String) : Option Chart := (Document.read text).bind ofDocument?

end Chart

/-! ## Charts of views -/

def Spot.ofId (v : View) (id : Atom) : Spot :=
  ⟨id.inSentence, ((v.node? id).map fun n => n.label.inSentence).getD ""⟩

def Stroke.ofEdge (e : ViewEdge) : Stroke :=
  if e.elided then .dotted else if e.dynamic then .dashed else .solid

def Arrow.ofEdge (e : ViewEdge) : Arrow where
  tail := e.caller.inSentence
  head := e.callee.inSentence
  sites := "\n".intercalate (e.sites.map Atom.inSentence)
  stroke := .ofEdge e

namespace Box

mutual

def ofCluster (v : View) : Cluster → Box
  | ⟨kind, key, label, _, members, clusters, focused⟩ =>
    ⟨kind, key.inSentence, label.inSentence, focused, members.map (Spot.ofId v),
      ofClusters v clusters⟩

def ofClusters (v : View) : List Cluster → List Box
  | [] => []
  | c :: cs => ofCluster v c :: ofClusters v cs

end

end Box

namespace Chart

def titleOf (v : View) : String :=
  let program := if v.program.isGiven then v.program.inSentence else "callgraph"
  match v.focus.filter Atom.isGiven with
  | some path => program ++ " (focus: " ++ path.inSentence ++ ")"
  | none => program

def ofView (v : View) : Chart where
  title := titleOf v
  boxes := Box.ofClusters v v.clusters
  loose := v.loose.map (Spot.ofId v)
  arrows := v.edges.map .ofEdge

end Chart

/-! ## The chart of the text of a view -/

namespace Attributes

theorem value?_set {name other value : String} {as : Attributes} :
    value? name (set other value as) = if other = name then some value else value? name as := by
  rw [value?, set, Roster.find?_put]
  split <;> rfl

theorem value?_append {name : String} {as bs : Attributes} :
    value? name (as ++ bs) = (value? name as).or (value? name bs) := by
  rw [value?, Roster.find?, List.find?_append, Option.map_or]
  rfl

theorem Worded.nil : Worded [] := fun _ ha => nomatch ha

theorem Worded.cons {name value : String} (hn : IsWord name) {as : Attributes} (h : as.Worded) :
    Worded ((name, value) :: as) := List.forall_mem_cons.2 ⟨hn, h⟩

theorem Worded.append {as bs : Attributes} (ha : as.Worded) (hb : bs.Worded) :
    Worded (as ++ bs) := List.forall_mem_append.2 ⟨ha, hb⟩

theorem Worded.set {name value : String} (hn : IsWord name) {as : Attributes} (h : as.Worded) :
    (set name value as).Worded := by
  intro a ha
  rcases Roster.mem_putWith ha with ha | rfl | ⟨known, -, -, rfl⟩
  · exact h a ha
  · exact hn
  · exact hn

end Attributes

theorem nodeStyle_of_set {P : Attributes → Prop} (n : ViewNode)
    (sets : ∀ name ∈ ["fillcolor", "penwidth", "style"], ∀ value as, P as → P (set name value as))
    {as : Attributes} (h : P as) : P (nodeStyle n as) := by
  have fill {value : String} {bs : Attributes} (hb : P bs) : P (set "fillcolor" value bs) :=
    sets _ (by simp) _ _ hb
  have filled : P (if n.focused then set "penwidth" "1.5" (set "fillcolor" focusFill as)
      else if n.std then set "fillcolor" stdFill as else as) := by
    split
    · exact sets _ (by simp) _ _ (fill h)
    · split
      · exact fill h
      · exact h
  unfold nodeStyle
  dsimp only
  split
  · exact sets _ (by simp) _ _ (fill filled)
  · exact filled

theorem Attributes.Worded.nodeStyle {as : Attributes} (h : as.Worded) (n : ViewNode) :
    (nodeStyle n as).Worded := by
  refine nodeStyle_of_set n (fun name hn value bs hb => hb.set ?_) h
  revert name
  decide

theorem value?_label_nodeStyle (n : ViewNode) (as : Attributes) :
    (nodeStyle n as).value? "label" = as.value? "label" := by
  refine nodeStyle_of_set (P := fun bs => bs.value? "label" = as.value? "label") n
    (fun name hn value bs hb => ?_) rfl
  have other : name ≠ "label" := by
    rintro rfl
    revert hn
    decide
  rw [Attributes.value?_set, if_neg other, hb]

theorem kindAndKey?_of_kind {kind : String} (hk : ':' ∉ kind.toList) (key : String) :
    kindAndKey? (kind ++ ": " ++ key) = some (kind, key) := by
  have before : ∀ c ∈ kind.toList, decide (c ≠ ':') = true :=
    fun c hc => decide_eq_true fun colon => hk (colon ▸ hc)
  have text : (kind ++ ": " ++ key).toList = kind.toList ++ ':' :: ' ' :: key.toList := by simp
  rw [kindAndKey?, text, List.dropWhile_append_of_pos before, List.takeWhile_append_of_pos before]
  simp

theorem worded_clusterAttributes (kind key label : String) (focused : Bool) :
    (clusterAttributes kind key label focused).Worded :=
  .cons (by decide) (.cons (by decide) (.cons (by decide) (.cons (by decide)
    (.cons (by decide) .nil))))

theorem exists_fill (kind key label : String) (focused : Bool) :
    ∃ fill, (clusterAttributes kind key label focused).value? "fillcolor" = some fill ∧
      decide (fill = focusClusterFill) = focused := by
  refine ⟨_, rfl, ?_⟩
  cases focused with
  | true => rfl
  | false => by_cases type : kind = GroupKey.receiver.text <;> simp [type] <;> decide

/-- What the clusters of a view have to be for their tooltips to be read. -/
def Labelled (v : View) (c : Cluster) : Prop :=
  (c.label.isText ∧ ∀ m ∈ c.members, m ∈ v.ids) ∧ ':' ∉ c.kind.toList

theorem exists_boxes {v : View} {cs : List Cluster} (hcs : ∀ c ∈ cs, ∀ n, ∃ b m,
      blockOf v.nodes n c = .ok (b, m) ∧ b.Worded ∧ Box.ofBlock? b = some (.ofCluster v c))
    (n : Nat) : ∃ bs m, blocksOf v.nodes n cs = .ok (bs, m) ∧ (∀ b ∈ bs, b.Worded) ∧
      Box.ofBlocks? bs = some (Box.ofClusters v cs) := by
  induction cs generalizing n with
  | nil => exact ⟨[], n, rfl, (fun _ hb => nomatch hb), rfl⟩
  | cons c cs ih =>
    obtain ⟨b, m, hb, worded, box⟩ := hcs c List.mem_cons_self n
    obtain ⟨bs, k, hbs, wordeds, boxes⟩ := ih (fun d hd => hcs d (List.mem_cons_of_mem c hd)) m
    refine ⟨b :: bs, k, ?_, List.forall_mem_cons.2 ⟨worded, wordeds⟩, ?_⟩
    · rw [blocksOf, hb]
      dsimp only [bind, Except.bind]
      rw [hbs]
      rfl
    · rw [Box.ofBlocks?, box, boxes]
      rfl

namespace Drawable

variable {v : View} (h : Drawable v) (nodup : v.ids.Nodup)

include h nodup

theorem node?_of_mem {n : ViewNode} (hn : n ∈ v.nodes) : v.node? n.id = some n := by
  obtain ⟨id, hid⟩ := Atom.isText_iff.1 (h.nodes n hn).1
  have known : (v.node? n.id).isSome := by
    rw [View.node?, List.find?_isSome]
    exact ⟨n, hn, by simp [hid]⟩
  obtain ⟨m, hm⟩ := Option.isSome_iff_exists.1 known
  have mem := List.mem_of_find?_eq_some hm
  have same : m.id = n.id := by
    obtain ⟨id', hid'⟩ := Atom.isText_iff.1 (h.nodes m mem).1
    have equal := List.find?_some hm
    rw [hid', hid, Atom.equals_text, decide_eq_true_iff] at equal
    rw [hid, hid', equal]
  rw [hm, List.inj_on_of_nodup_map nodup mem hn same]

theorem nodeNamed_of_mem {n : ViewNode} (hn : n ∈ v.nodes) :
    nodeNamed v.nodes n.id = nodeStatement n := by
  have known : (Roster.find? ViewNode.key n.id.key v.nodes.reverse).isSome :=
    Roster.find?_isSome.2 (List.mem_map.2 ⟨n, List.mem_reverse.2 hn, rfl⟩)
  obtain ⟨m, hm⟩ := Option.isSome_iff_exists.1 known
  have mem := List.mem_reverse.1 (Roster.mem_of_find? hm)
  have same : m.id = n.id := by
    have keys := Roster.key_of_find? hm
    rwa [ViewNode.key, Atom.key_of_isText (h.nodes m mem).1, Atom.key_of_isText (h.nodes n hn).1]
      at keys
  rw [nodeNamed, hm, List.inj_on_of_nodup_map nodup mem hn same]

theorem exists_spot {id : Atom} (hid : id ∈ v.ids) :
    ∃ s, nodeNamed v.nodes id = .ok s ∧ s.attributes.Worded ∧
      Spot.ofStatement? s = some (.ofId v id) := by
  obtain ⟨n, hn, rfl⟩ := List.mem_map.1 hid
  obtain ⟨id, hid⟩ := Atom.isText_iff.1 (h.nodes n hn).1
  obtain ⟨label, hl⟩ := Json.isText_iff.1 (h.nodes n hn).2
  have plain : Attributes.Worded [("label", label), ("tooltip", id)] :=
    .cons (by decide) (.cons (by decide) .nil)
  refine ⟨⟨id, nodeStyle n [("label", label), ("tooltip", id)]⟩, ?_, plain.nodeStyle n, ?_⟩
  · rw [h.nodeNamed_of_mem nodup hn, nodeStatement, hid, hl]
    rfl
  · rw [Spot.ofStatement?, value?_label_nodeStyle, Spot.ofId, h.node?_of_mem nodup hn, hid,
      Option.map_some, hl]
    rfl

theorem exists_spots {ids : List Atom} (hids : ∀ id ∈ ids, id ∈ v.ids) :
    ∃ ns, ids.mapM (nodeNamed v.nodes) = .ok ns ∧ (∀ s ∈ ns, s.attributes.Worded) ∧
      ns.mapM Spot.ofStatement? = some (ids.map (.ofId v)) := by
  induction ids with
  | nil => exact ⟨[], rfl, (fun _ hs => nomatch hs), rfl⟩
  | cons id ids ih =>
    obtain ⟨s, hs, worded, spot⟩ := h.exists_spot nodup (hids id List.mem_cons_self)
    obtain ⟨ns, hns, wordeds, spots⟩ := ih fun x hx => hids x (List.mem_cons_of_mem id hx)
    refine ⟨s :: ns, ?_, List.forall_mem_cons.2 ⟨worded, wordeds⟩, ?_⟩
    · rw [List.mapM_cons, hs, hns]
      rfl
    · rw [List.mapM_cons, spot, spots]
      rfl

/-- The block of a cluster tells all that the cluster holds, at any depth. -/
theorem exists_box {c : Cluster} (hc : Cluster.Every (Labelled v) c) (n : Nat) :
    ∃ b m, blockOf v.nodes n c = .ok (b, m) ∧ b.Worded ∧
      Box.ofBlock? b = some (.ofCluster v c) := by
  induction hc generalizing n with
  | @intro c hc _ ih =>
    obtain ⟨kind, key, label, package, members, clusters, focused⟩ := c
    obtain ⟨⟨text, known⟩, colon⟩ := hc
    obtain ⟨label, rfl⟩ := Atom.isText_iff.1 text
    obtain ⟨ns, hns, worded, spots⟩ := h.exists_spots nodup known
    obtain ⟨bs, m, hbs, wordeds, boxes⟩ := exists_boxes ih (n + 1)
    obtain ⟨fill, hf, focus⟩ := exists_fill kind key.inSentence label focused
    refine ⟨⟨n, clusterAttributes kind key.inSentence label focused, ns, bs⟩, m, ?_,
      .intro (worded_clusterAttributes _ _ _ _) worded wordeds, ?_⟩
    · rw [blockOf]
      dsimp only [bind, Except.bind, written, Atom.toJson]
      rw [hns]
      dsimp only
      rw [hbs]
      rfl
    · have title : (clusterAttributes kind key.inSentence label focused).value? "label" =
          some label := rfl
      have tooltip : (clusterAttributes kind key.inSentence label focused).value? "tooltip" =
          some (kind ++ ": " ++ key.inSentence) := rfl
      rw [Box.ofBlock?, title, tooltip, hf, spots, boxes]
      dsimp only [bind, Option.bind]
      rw [kindAndKey?_of_kind colon, focus]
      rfl

end Drawable

section Edges

variable {e : ViewEdge} (caller : e.caller.isText) (callee : e.callee.isText)
  (sites : ∀ x ∈ e.sites, x.isText)

theorem worded_statementOf (e : ViewEdge) : (statementOf e).attributes.Worded := by
  have style : Attributes.Worded (edgeStyle e) := by
    unfold edgeStyle
    split
    · exact .cons (by decide) .nil
    · split
      · exact .cons (by decide) .nil
      · exact .nil
  have tooltip : Attributes.Worded (tooltipOf e) := by
    unfold tooltipOf
    dsimp only
    split
    · exact .nil
    · exact .cons (by decide) .nil
  exact style.append tooltip

theorem value?_style_statementOf (e : ViewEdge) :
    Stroke.ofStyle? ((statementOf e).attributes.value? "style") = some (.ofEdge e) := by
  have tooltip : (tooltipOf e).value? "style" = none := by
    unfold tooltipOf
    dsimp only
    split <;> rfl
  rw [statementOf, Attributes.value?_append, tooltip, Option.or_none, edgeStyle, Stroke.ofEdge]
  split
  · rfl
  · split <;> rfl

include sites in
theorem value?_tooltip_statementOf :
    ((statementOf e).attributes.value? "tooltip").getD "" =
      "\n".intercalate (e.sites.map Atom.inSentence) := by
  have style : Attributes.value? "tooltip" (edgeStyle e) = none := by
    unfold edgeStyle
    split
    · rfl
    · split <;> rfl
  have texts : e.sites.map (fun x => x.text?.getD "") = e.sites.map Atom.inSentence := by
    refine List.map_congr_left fun x hx => ?_
    obtain ⟨s, rfl⟩ := Atom.isText_iff.1 (sites x hx)
    rfl
  rw [statementOf, Attributes.value?_append, style, Option.none_or, tooltipOf, texts]
  split
  · rename_i none
    rw [List.isEmpty_iff.1 none]
    rfl
  · rfl

include caller callee sites

theorem arrow_statementOf : Arrow.ofStatement? (statementOf e) = some (.ofEdge e) := by
  obtain ⟨tail, ht⟩ := Atom.isText_iff.1 caller
  obtain ⟨head, hh⟩ := Atom.isText_iff.1 callee
  rw [Arrow.ofStatement?, value?_style_statementOf, value?_tooltip_statementOf sites, Arrow.ofEdge,
    statementOf, ht, hh]
  rfl

end Edges

theorem title_eq {v : View} (program : v.program.isGiven → v.program.isText) :
    title v = .ok (Chart.titleOf v) := by
  unfold title Chart.titleOf
  dsimp only
  cases given : v.program.isGiven with
  | false => cases v.focus.filter Atom.isGiven <;> rfl
  | true =>
    obtain ⟨name, hn⟩ := Json.isText_iff.1 (program given)
    rw [hn]
    cases v.focus.filter Atom.isGiven <;> rfl

theorem worded_looks :
    Attributes.Worded nodeLook ∧ Attributes.Worded graphLook ∧ Attributes.Worded edgeLook := by
  decide

theorem Drawable.exists_chart {v : View} (h : Drawable v) (nodup : v.ids.Nodup)
    (program : v.program.isGiven → v.program.isText)
    (labelled : ∀ c ∈ v.clusters, Cluster.Every (Labelled v) c) :
    ∃ d, Document.ofView v = .ok d ∧ d.Worded ∧ Chart.ofDocument? d = some (.ofView v) := by
  obtain ⟨bs, m, hbs, worded, boxes⟩ :=
    exists_boxes (fun c hc => h.exists_box nodup (labelled c hc)) 0
  obtain ⟨ns, hns, wordeds, spots⟩ := h.exists_spots nodup h.loose
  have arrows : (v.edges.map statementOf).mapM Arrow.ofStatement? = some (v.edges.map .ofEdge) := by
    rw [List.mapM_map]
    refine mapM_eq_pure fun e he => ?_
    exact arrow_statementOf (h.edges e he).1 (h.edges e he).2.1 (h.edges e he).2.2
  refine ⟨⟨graphLook ++ [("label", Chart.titleOf v)], nodeLook, edgeLook, bs, ns,
    v.edges.map statementOf⟩, ?_, ?_, ?_⟩
  · unfold Document.ofView
    rw [title_eq program]
    dsimp only [bind, Except.bind]
    rw [hbs]
    dsimp only
    rw [hns]
    dsimp only
    rw [h.mapM_edges]
    rfl
  · exact {
      graph := .append worded_looks.2.1 (.cons (by decide) .nil)
      nodeDefaults := worded_looks.1
      edgeDefaults := worded_looks.2.2
      blocks := worded
      nodes := wordeds
      edges := fun s hs => by
        obtain ⟨e, -, rfl⟩ := List.mem_map.1 hs
        exact worded_statementOf e }
  · have title : (graphLook ++ [("label", Chart.titleOf v)] : Attributes).value? "label" =
        some (Chart.titleOf v) := rfl
    rw [Chart.ofDocument?, title, boxes, spots, arrows]
    rfl

end CallAtlas.Dot
