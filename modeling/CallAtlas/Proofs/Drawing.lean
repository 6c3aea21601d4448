import CallAtlas.Proofs.Agreement
import Mathlib.Data.List.Forall2

set_option autoImplicit false

/-!
# Drawings of views

A view of texts can be drawn. Views that agree on all but which edges are dynamic are drawn alike up
to the styles of their edges, and the style of each edge can be read off the text.
-/

namespace CallAtlas

namespace Text.Utf8

theorem toList_loop (bytes : ByteArray) (i : Nat) (r : List UInt8) :
    ByteArray.toList.loop bytes i r = r.reverse ++ bytes.data.toList.drop i := by
  fun_induction ByteArray.toList.loop bytes i r with
  | case1 i r h ih =>
    have hi : i < bytes.data.toList.length := h
    have get : bytes.get! i = bytes.data.toList[i] := by
      change bytes.data[i]! = _
      rw [getElem!_pos bytes.data i h]
      rfl
    rw [ih, List.drop_eq_getElem_cons hi, get, List.reverse_cons, List.append_assoc]
    rfl
  | case2 i r h =>
    have hi : bytes.data.toList.length ≤ i := Nat.le_of_not_lt h
    rw [List.drop_eq_nil_of_le hi, List.append_nil]

theorem encode_eq (s : String) : encode s = s.toByteArray.data.toList := by
  change ByteArray.toList.loop s.toByteArray 0 [] = _
  rw [toList_loop, List.reverse_nil, List.nil_append, List.drop_zero]

theorem encode_injective {s t : String} (h : encode s = encode t) : s = t := by
  rw [encode_eq, encode_eq] at h
  exact String.toByteArray_inj.1 (ByteArray.ext (Array.toList_inj.1 h))

theorem encode_append (s t : String) : encode (s ++ t) = encode s ++ encode t := by
  rw [encode_eq, encode_eq, encode_eq, String.toByteArray_append, ByteArray.toList_data_append]

end Text.Utf8

namespace Dot

theorem mapM_eq_pure {m : Type → Type} [Monad m] [LawfulMonad m] {α β : Type} {f : α → m β}
    {g : α → β} {xs : List α} (h : ∀ x ∈ xs, f x = pure (g x)) : xs.mapM f = pure (xs.map g) := by
  induction xs with
  | nil => rfl
  | cons x xs ih =>
    rw [List.mapM_cons, h x List.mem_cons_self, ih fun y hy => h y (List.mem_cons_of_mem x hy)]
    simp only [pure_bind, List.map_cons]

theorem exists_mapM_ok {α β ε : Type} {f : α → Except ε β} {xs : List α}
    (h : ∀ x ∈ xs, ∃ y, f x = .ok y) : ∃ ys, xs.mapM f = .ok ys := by
  induction xs with
  | nil => exact ⟨[], rfl⟩
  | cons x xs ih =>
    obtain ⟨y, hy⟩ := h x List.mem_cons_self
    obtain ⟨ys, hys⟩ := ih fun z hz => h z (List.mem_cons_of_mem x hz)
    refine ⟨y :: ys, ?_⟩
    rw [List.mapM_cons, hy, hys]
    rfl

theorem written_toJson {x : Atom} (h : x.isText) : written x.toJson = .ok (x.text?.getD "") := by
  obtain ⟨s, rfl⟩ := Atom.isText_iff.1 h
  rfl

theorem exists_written {v : Json} (h : v.isText) : ∃ s, written v = .ok s := by
  obtain ⟨s, rfl⟩ := Json.isText_iff.1 h
  exact ⟨s, rfl⟩

theorem mapM_text? {sites : List Site} (h : ∀ x ∈ sites, x.isText) :
    sites.mapM Atom.text? = some (sites.map fun x => x.text?.getD "") := by
  refine mapM_eq_pure fun x hx => ?_
  obtain ⟨s, rfl⟩ := Atom.isText_iff.1 (h x hx)
  rfl

theorem siteTexts_of_texts {sites : List Site} (h : ∀ x ∈ sites, x.isText) :
    siteTexts sites = .ok (sites.map fun x => x.text?.getD "") := by
  rw [siteTexts, mapM_text? h]

def tooltipOf (e : ViewEdge) : Attributes :=
  let texts := e.sites.map fun x => x.text?.getD ""
  if texts.isEmpty then [] else [("tooltip", "\n".intercalate texts)]

def statementOf (e : ViewEdge) : EdgeStatement where
  tail := e.caller.text?.getD ""
  head := e.callee.text?.getD ""
  attributes := edgeStyle e ++ tooltipOf e

theorem edgeStatement_of_texts {e : ViewEdge} (caller : e.caller.isText) (callee : e.callee.isText)
    (sites : ∀ x ∈ e.sites, x.isText) : edgeStatement e = .ok (statementOf e) := by
  unfold edgeStatement
  rw [siteTexts_of_texts sites, written_toJson caller, written_toJson callee]
  rfl

theorem exists_nodeStatement {n : ViewNode} (id : n.id.isText) (label : n.label.isText) :
    ∃ s, nodeStatement n = .ok s := by
  obtain ⟨l, hl⟩ := exists_written label
  unfold nodeStatement
  rw [written_toJson id, hl]
  exact ⟨_, rfl⟩

theorem exists_blocksOf {nodes : List ViewNode} {cs : List Cluster}
    (h : ∀ c ∈ cs, ∀ n, ∃ r, blockOf nodes n c = .ok r) (n : Nat) :
    ∃ r, blocksOf nodes n cs = .ok r := by
  induction cs generalizing n with
  | nil => exact ⟨_, rfl⟩
  | cons c cs ih =>
    obtain ⟨⟨b, next⟩, hb⟩ := h c List.mem_cons_self n
    obtain ⟨⟨bs, last⟩, hbs⟩ := ih (fun d hd => h d (List.mem_cons_of_mem c hd)) next
    refine ⟨(b :: bs, last), ?_⟩
    rw [blocksOf, hb]
    dsimp only [bind, Except.bind]
    rw [hbs]
    rfl

structure Drawable (v : View) : Prop where
  title : ∃ t, title v = .ok t
  nodes : ∀ n ∈ v.nodes, n.id.isText ∧ n.label.isText
  clusters : ∀ c ∈ v.clusters, Cluster.Every (fun c => c.label.isText ∧ ∀ m ∈ c.members, m ∈ v.ids) c
  loose : ∀ id ∈ v.loose, id ∈ v.ids
  edges : ∀ e ∈ v.edges, e.caller.isText ∧ e.callee.isText ∧ ∀ x ∈ e.sites, x.isText

namespace Drawable

variable {v : View} (h : Drawable v)

include h

theorem exists_nodeNamed {id : Atom} (hid : id ∈ v.ids) : ∃ s, nodeNamed v.nodes id = .ok s := by
  obtain ⟨n, hn, rfl⟩ := List.mem_map.1 hid
  have known : (Roster.find? ViewNode.key n.id.key v.nodes.reverse).isSome :=
    Roster.find?_isSome.2 (List.mem_map.2 ⟨n, List.mem_reverse.2 hn, rfl⟩)
  obtain ⟨m, hm⟩ := Option.isSome_iff_exists.1 known
  obtain ⟨id, label⟩ := h.nodes m (List.mem_reverse.1 (Roster.mem_of_find? hm))
  unfold nodeNamed
  rw [hm]
  exact exists_nodeStatement id label

theorem exists_blockOf {c : Cluster}
    (hc : Cluster.Every (fun c => c.label.isText ∧ ∀ m ∈ c.members, m ∈ v.ids) c) (n : Nat) :
    ∃ r, blockOf v.nodes n c = .ok r := by
  induction hc generalizing n with
  | @intro c hc _ ih =>
    obtain ⟨kind, key, label, package, members, clusters, focused⟩ := c
    obtain ⟨l, hl⟩ : ∃ s, written label.toJson = .ok s := ⟨_, written_toJson hc.1⟩
    obtain ⟨statements, hs⟩ := exists_mapM_ok fun m hm => h.exists_nodeNamed (hc.2 m hm)
    obtain ⟨⟨bs, last⟩, hbs⟩ := exists_blocksOf ih (n + 1)
    refine ⟨(⟨n, clusterAttributes kind key.inSentence l focused, statements, bs⟩, last), ?_⟩
    rw [blockOf, hl]
    dsimp only [bind, Except.bind]
    rw [hs]
    dsimp only
    rw [hbs]
    rfl

theorem mapM_edges : v.edges.mapM edgeStatement = .ok (v.edges.map statementOf) :=
  mapM_eq_pure fun e he =>
    edgeStatement_of_texts (h.edges e he).1 (h.edges e he).2.1 (h.edges e he).2.2

theorem exists_document :
    ∃ d : Document, ∀ es : List ViewEdge, es.mapM edgeStatement = .ok (es.map statementOf) →
      Document.ofView { v with edges := es } = .ok { d with edges := es.map statementOf } := by
  obtain ⟨t, ht⟩ := h.title
  obtain ⟨⟨blocks, next⟩, hb⟩ := exists_blocksOf (fun c hc => h.exists_blockOf (h.clusters c hc)) 0
  obtain ⟨loose, hl⟩ := exists_mapM_ok fun id hid => h.exists_nodeNamed (h.loose id hid)
  refine ⟨⟨graphLook ++ [("label", t)], nodeLook, edgeLook, blocks, loose, []⟩, fun es hes => ?_⟩
  unfold Document.ofView
  have ht' : Dot.title { v with edges := es } = .ok t := ht
  rw [ht']
  dsimp only [bind, Except.bind]
  rw [hb]
  dsimp only
  rw [hl]
  dsimp only
  rw [hes]
  rfl

theorem exists_write : ∃ text, write v = .ok text := by
  obtain ⟨d, hd⟩ := h.exists_document
  exact ⟨_, congrArg (Except.map Document.render) (hd v.edges h.mapM_edges)⟩

end Drawable

theorem intercalate_cons {α : Type} (sep x : List α) (xs : List (List α)) :
    sep.intercalate (x :: xs) = x ++ xs.flatMap fun y => sep ++ y := by
  induction xs generalizing x with
  | nil => simp
  | cons y ys ih =>
    rw [List.intercalate_cons_cons, ih, List.flatMap_cons]
    simp only [List.append_assoc]

def EdgeStatement.rest (attributes : Attributes) : String :=
  (if attributes.isEmpty then "" else " " ++ bracketed attributes) ++ ";"

def EdgeStatement.lineText (s : EdgeStatement) : List Char :=
  '\n' :: (indent 1 ++ (quoted s.tail ++ " -> " ++ quoted s.head)).toList ++
    (EdgeStatement.rest s.attributes).toList

namespace Document

def above (d : Document) : List String :=
  [indent 1 ++ "graph " ++ bracketed d.graph ++ ";",
    indent 1 ++ "node " ++ bracketed d.nodeDefaults ++ ";",
    indent 1 ++ "edge " ++ bracketed d.edgeDefaults ++ ";", ""] ++
    Block.allLines 1 d.blocks ++ d.nodes.map (fun s => indent 1 ++ s.line) ++
    (if d.edges.isEmpty then [] else [""])

theorem lines_eq (d : Document) :
    d.lines = "digraph callgraph \x7b" ::
      (d.above ++ d.edges.map (fun s => indent 1 ++ s.line) ++ ["\x7d"]) := rfl

theorem lineText_eq (s : EdgeStatement) :
    '\n' :: (indent 1 ++ s.line).toList = s.lineText := by
  simp only [EdgeStatement.lineText, EdgeStatement.rest, EdgeStatement.line, String.toList_append,
    List.append_assoc, List.cons_append]

theorem toList_render (d : Document) :
    d.render.toList =
      ("digraph callgraph \x7b".toList ++ d.above.flatMap fun l => '\n' :: l.toList) ++
        (d.edges.flatMap EdgeStatement.lineText ++ ['\n', '\x7d', '\n']) := by
  have edges : (d.edges.map fun s => indent 1 ++ s.line).flatMap (fun l => '\n' :: l.toList) =
      d.edges.flatMap EdgeStatement.lineText := by
    rw [List.flatMap_map]
    exact List.flatMap_congr fun s _ => lineText_eq s
  have feed (ls : List String) : (ls.map String.toList).flatMap (fun y => "\n".toList ++ y) =
      ls.flatMap fun l => '\n' :: l.toList := by
    rw [List.flatMap_map]
    rfl
  rw [render, String.toList_append, String.toList_intercalate, lines_eq, List.map_cons,
    intercalate_cons, feed, List.flatMap_append, List.flatMap_append, edges]
  simp only [List.append_assoc]
  rfl

end Document

theorem rest_ne_dashed (e : ViewEdge) (left right : List Char) :
    (EdgeStatement.rest (tooltipOf e)).toList ++ left ≠
      (EdgeStatement.rest (("style", "dashed") :: tooltipOf e)).toList ++ right := by
  intro h
  unfold tooltipOf at h
  dsimp only at h
  split at h
  · simp [EdgeStatement.rest, bracketed, String.toList_append] at h
  · simp [EdgeStatement.rest, bracketed, assignment, String.toList_append,
      String.intercalate_cons_cons] at h

/-- If edges that agree on all but being dynamic are written with the same text, they have the same
styles: the text is read edge by edge, and the first style that differs is seen. -/
theorem edgeStyles_eq_of_text {es ds : List ViewEdge} {rest : List Char}
    (alike : List.Forall₂ (fun e d => ViewEdge.still e = ViewEdge.still d) es ds)
    (h : (es.map statementOf).flatMap EdgeStatement.lineText ++ rest =
      (ds.map statementOf).flatMap EdgeStatement.lineText ++ rest) :
    es.map edgeStyle = ds.map edgeStyle := by
  induction alike with
  | nil => rfl
  | @cons e d es ds hed _ ih =>
    obtain ⟨caller, callee, sites, elided⟩ := ViewEdge.still_eq_iff.1 hed
    have tooltip : tooltipOf e = tooltipOf d := by rw [tooltipOf, tooltipOf, sites]
    simp only [List.map_cons, List.flatMap_cons, List.append_assoc, EdgeStatement.lineText,
      statementOf, caller, callee, ← tooltip] at h
    have behind := List.append_cancel_left h
    rw [List.map_cons, List.map_cons]
    cases he : e.elided with
    | true =>
      have style : edgeStyle e = edgeStyle d := by simp [edgeStyle, ← elided, he]
      rw [style] at behind ⊢
      rw [ih (List.append_cancel_left behind)]
    | false =>
      have styles (c : ViewEdge) (hc : c.elided = false) :
          edgeStyle c = if c.dynamic then [("style", "dashed")] else [] := by simp [edgeStyle, hc]
      rw [styles e he, styles d (elided ▸ he)] at behind ⊢
      cases hdy : e.dynamic <;> cases hdy' : d.dynamic <;> rw [hdy, hdy'] at behind
      · rw [ih (List.append_cancel_left behind)]
      · exact absurd behind (rest_ne_dashed e _ _)
      · exact absurd behind.symm (rest_ne_dashed e _ _)
      · rw [ih (List.append_cancel_left behind)]

theorem statements_eq_of_styles {es ds : List ViewEdge}
    (alike : List.Forall₂ (fun e d => ViewEdge.still e = ViewEdge.still d) es ds)
    (h : es.map edgeStyle = ds.map edgeStyle) : es.map statementOf = ds.map statementOf := by
  induction alike with
  | nil => rfl
  | @cons e d es ds hed _ ih =>
    obtain ⟨caller, callee, sites, -⟩ := ViewEdge.still_eq_iff.1 hed
    rw [List.map_cons, List.map_cons, List.cons.injEq] at h
    rw [List.map_cons, List.map_cons, ih h.2, statementOf, statementOf, tooltipOf, tooltipOf, caller,
      callee, sites, h.1]

theorem alike_of_still {v w : View} (h : v.still = w.still) :
    List.Forall₂ (fun e d => ViewEdge.still e = ViewEdge.still d) v.edges w.edges := by
  have edges : v.edges.map ViewEdge.still = w.edges.map ViewEdge.still := congrArg View.edges h
  rw [← List.forall₂_eq_eq_eq, List.forall₂_map_left_iff, List.forall₂_map_right_iff] at edges
  exact edges

/-- Views that agree on all but which edges are dynamic are written with the same text if the styles
of their edges are the same. -/
theorem write_eq_iff {v w : View} (hv : Drawable v) (hw : Drawable w) (h : v.still = w.still) :
    ∃ s t, write v = .ok s ∧ write w = .ok t ∧
      (s = t ↔ v.edges.map edgeStyle = w.edges.map edgeStyle) := by
  obtain ⟨d, hd⟩ := hv.exists_document
  have alike := alike_of_still h
  have rest : { v with edges := w.edges } = w := by
    cases v
    cases w
    simp only [View.still, View.mk.injEq] at h ⊢
    exact ⟨h.1, trivial, h.2.2⟩
  have left := hd v.edges hv.mapM_edges
  have right := hd w.edges hw.mapM_edges
  rw [rest] at right
  refine ⟨_, _, congrArg (Except.map Document.render) left,
    congrArg (Except.map Document.render) right, ?_⟩
  have above : Document.above { d with edges := v.edges.map statementOf } =
      Document.above { d with edges := w.edges.map statementOf } := by
    have none : v.edges = [] ↔ w.edges = [] := by
      rw [← List.length_eq_zero_iff, ← List.length_eq_zero_iff, alike.length_eq]
    simp only [Document.above, List.isEmpty_iff, List.map_eq_nil_iff, none]
  constructor
  · intro same
    have texts := congrArg String.toList same
    rw [Document.toList_render, Document.toList_render, above] at texts
    exact edgeStyles_eq_of_text alike (List.append_cancel_left texts)
  · intro styles
    rw [statements_eq_of_styles alike styles]

end Dot

namespace View

variable {a : Analysis}

theorem isText_label {f : Function} (h : f.name.isText) (packageName : Json)
    (group : List GroupKey) : (f.label packageName group).isText := by
  unfold Function.label
  dsimp only
  split
  · cases f.recv with
    | none => exact h
    | some recv =>
      dsimp only
      split
      · exact h
      · rfl
  · rfl

theorem exists_title {v : View} (program : v.program.isGiven → v.program.isText) :
    ∃ t, Dot.title v = .ok t := by
  unfold Dot.title
  dsimp only
  split
  · exact ⟨_, rfl⟩
  · split
    · exact Dot.exists_written (program ‹_›)
    · exact ⟨_, rfl⟩

theorem clusters_of_texts {functions : List Function} (hf : ∀ f ∈ functions, f.package.isText)
    (group : List GroupKey) (focus : Option Atom) (forms : Forms) :
    ∀ c ∈ clustersOf group focus forms functions, Cluster.Every (fun c => c.label.isText ∧
      ∀ m ∈ c.members, m ∈ functions.map fun f => forms.of f.id) c := by
  refine every_clustersOf ⟨fun _ _ h => h, fun c id hid h => ⟨h.1, fun m hm => ?_⟩⟩ ?_
  · rcases List.mem_append.1 hm with hm | hm
    · exact h.2 m hm
    · exact List.mem_singleton.1 hm ▸ hid
  · intro f hm c hc
    obtain ⟨-, label, members, clusters⟩ := Function.of_mem_clusterPath (hf f hm) hc
    refine ⟨⟨label, fun m hm => ?_⟩, clusters⟩
    rw [members] at hm
    cases hm

theorem drawable_of_view (ha : a.WellFormed) (ht : a.Textual)
    (program : a.program.isGiven → a.program.isText) {s : Selection} {focus : Option Atom} {v : View}
    (hv : a.view s focus = .ok v) : Dot.Drawable v := by
  obtain ⟨-, rfl⟩ := (Analysis.view_eq_ok_iff ha ht s focus).1 hv
  have mem {f : Function} (hf : f ∈ (Stages.run a s focus).shown.orderedFunctions) :
      f ∈ a.functions :=
    Stages.mem_functions_shown ha s focus (CallGraph.mem_orderedFunctions.1 hf)
  refine ⟨exists_title program, ?_, ?_, ?_, ?_⟩
  · intro n hn
    obtain ⟨f, hf, rfl⟩ := List.mem_map.1 hn
    exact ⟨ht.ids f (mem hf), isText_label (ht.names f (mem hf)) _ _⟩
  · rw [ids_ofGraph]
    exact clusters_of_texts (fun f hf => ht.packages f (mem hf)) s.group focus []
  · rw [ids_ofGraph]
    intro id hid
    obtain ⟨f, hf, rfl⟩ := List.mem_map.1 hid
    exact List.mem_map_of_mem (List.mem_filter.1 hf).1
  · intro e he
    obtain ⟨d, hd, rfl⟩ := List.mem_map.1 he
    have hd := CallGraph.mem_orderedEdges.1 hd
    obtain ⟨caller, callee⟩ := Stages.isText_ends ha ht s focus hd
    have direct := Stages.direct_of_shown ha s focus hd
    rw [edgeOf_of_isText callee]
    exact ⟨caller, callee, (Stages.neat_direct ha ht s focus direct).texts⟩

end View

end CallAtlas
