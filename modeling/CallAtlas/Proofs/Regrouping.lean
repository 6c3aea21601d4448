import CallAtlas.Proofs.Arrangement

set_option autoImplicit false

/-!
# Other groupings

The grouping is looked at when nothing is left to be cut away. It decides what labels have to tell and
which clusters the nodes stand in, and nothing else.
-/

namespace CallAtlas

def ViewNode.unlabelled (n : ViewNode) : ViewNode := { n with label := .null }

namespace Function

theorem clusterPath_nil (f : Function) (focus : Option Atom) : f.clusterPath [] focus = [] := rfl

theorem clusterPath_ne_nil (f : Function) {group : List GroupKey} (packages : .package ∈ group)
    (focus : Option Atom) : f.clusterPath group focus ≠ [] :=
  List.ne_nil_of_mem (List.mem_filterMap.2 ⟨.package, packages, rfl⟩)

end Function

namespace View

/-- The nodes as they are grouped: those that stand in no cluster and those of each cluster. -/
def grouped (v : View) : List Atom :=
  v.loose ++ v.clustersWithParents.flatMap fun p => p.1.members

variable {a : Analysis} {group : List GroupKey} {focus : Option Atom} {g : CallGraph}

theorem unlabelled_nodeOf (group' : List GroupKey) (f : Function) :
    (nodeOf a group focus [] f).unlabelled = (nodeOf a group' focus [] f).unlabelled := rfl

theorem unlabelled_ofGraph (group' : List GroupKey) :
    (ofGraph a group focus [] g).nodes.map ViewNode.unlabelled =
      (ofGraph a group' focus [] g).nodes.map ViewNode.unlabelled := by
  change (g.orderedFunctions.map (nodeOf a group focus [])).map ViewNode.unlabelled =
    (g.orderedFunctions.map (nodeOf a group' focus [])).map ViewNode.unlabelled
  rw [List.map_map, List.map_map]
  exact List.map_congr_left fun f _ => unlabelled_nodeOf group' f

theorem grouped_ofGraph_perm (texts : ∀ f ∈ g.functions, f.package.isText)
    (group' : List GroupKey) :
    (ofGraph a group focus [] g).grouped.Perm (ofGraph a group' focus [] g).ids := by
  rw [ids_ofGraph]
  exact loose_append_members_perm fun f hf => texts f (CallGraph.mem_orderedFunctions.1 hf)

theorem loose_ofGraph_of_nil (group' : List GroupKey) :
    (ofGraph a [] focus [] g).loose = (ofGraph a group' focus [] g).ids := by
  rw [ids_ofGraph]
  exact congrArg _ (List.filter_eq_self.2 fun f _ => by rw [f.clusterPath_nil]; rfl)

theorem loose_ofGraph_of_package (packages : .package ∈ group) :
    (ofGraph a group focus [] g).loose = [] := by
  refine List.map_eq_nil_iff.2 (List.filter_eq_nil_iff.2 fun f _ => ?_)
  rw [List.isEmpty_iff]
  exact f.clusterPath_ne_nil packages focus

end View

namespace Stages

theorem run_regrouped (a : Analysis) (s : Selection) (group : List GroupKey)
    (focus : Option Atom) : run a { s with group := group } focus = run a s focus := rfl

end Stages

namespace Analysis

variable {a : Analysis}

/-- Two selections that group differently have a view both or fail both for the same reason. Their
views have the same nodes apart from labels and the same edges, and both group all nodes, each
once: none if there is no key, and every node in a cluster if one of the keys is the package. -/
theorem view_regrouped (ha : a.WellFormed) (ht : a.Textual) (s : Selection)
    (group : List GroupKey) (focus : Option Atom) :
    (∀ e, a.view { s with group := group } focus = .error e ↔ a.view s focus = .error e) ∧
    ∀ v w, a.view s focus = .ok v → a.view { s with group := group } focus = .ok w →
      w.nodes.map ViewNode.unlabelled = v.nodes.map ViewNode.unlabelled ∧
      w.edges = v.edges ∧ w.focus = v.focus ∧ w.program = v.program ∧
      v.grouped.Perm v.ids ∧ w.grouped.Perm v.ids ∧
      (group = [] → w.loose = v.ids) ∧ (.package ∈ group → w.loose = []) := by
  have same := Stages.run_regrouped a s group focus
  constructor
  · intro e
    rw [view_eq ha ht, view_eq ha ht, same]
    cases (Stages.run a s focus).emptiness focus with
    | none => exact iff_of_false nofun nofun
    | some _ => rfl
  · intro v w hv hw
    obtain ⟨-, rfl⟩ := (view_eq_ok_iff ha ht s focus).1 hv
    obtain ⟨-, rfl⟩ := (view_eq_ok_iff ha ht _ focus).1 hw
    rw [same]
    have texts (f : Function) := Stages.isText_package ha ht s focus (f := f)
    refine ⟨View.unlabelled_ofGraph s.group, rfl, rfl, rfl, View.grouped_ofGraph_perm texts _,
      View.grouped_ofGraph_perm texts _, ?_, View.loose_ofGraph_of_package⟩
    rintro rfl
    exact View.loose_ofGraph_of_nil s.group

theorem view_regrouped_ledger :
    ledger.WellFormed ∧ ledger.Textual ∧
      ∃ v w, ledger.view { group := [.receiver] } none = .ok v ∧
        ledger.view { group := [] } none = .ok w ∧
        v.ids = [.text "(*app.Book).Add", .text "app.main"] ∧ v.loose = [.text "app.main"] ∧
        w.nodes.map ViewNode.unlabelled = v.nodes.map ViewNode.unlabelled ∧
        w.edges = v.edges ∧ w.loose = v.ids ∧ v.grouped.Perm v.ids := by
  have byType : (ledger.view { group := [.receiver] } none).toOption.map
      (fun v => (v.ids, v.loose)) =
      some ([.text "(*app.Book).Add", .text "app.main"], [.text "app.main"]) := by cbv
  have flat : (ledger.view { group := [] } none).toOption.map View.loose =
      some [.text "(*app.Book).Add", .text "app.main"] := by cbv
  obtain ⟨v, hv, parts⟩ := exists_ok_of_map byType
  obtain ⟨w, hw, -⟩ := exists_ok_of_map flat
  obtain ⟨nodes, edges, -, -, once, -, loose, -⟩ :=
    (view_regrouped wellFormed_ledger textual_ledger { group := [.receiver] } [] none).2 v w hv hw
  obtain ⟨ids, outside⟩ := Prod.mk.inj parts
  exact ⟨wellFormed_ledger, textual_ledger, v, w, hv, hw, ids, outside, nodes, edges, loose rfl,
    once⟩

end Analysis

end CallAtlas
