import CallAtlas.Proofs.Dispatch
import CallAtlas.Proofs.Idempotence

set_option autoImplicit false

/-!
# Which calls behind a wrapper are followed

The search behind a wrapper follows every call of a real function, and of the calls to a synthetic
function the one that discovers it. `CallGraph.OnWay` is the relation that the dispatch flag of a
bridge is described by: calls on a way of distinct synthetic functions. The two agree about calls of
real functions, so a bridge is only flagged otherwise for dynamic calls between synthetic functions.
-/

namespace CallAtlas

namespace CallGraph

namespace Trace

variable {synthetic : List Atom} {es : List Edge} {t : Trace} {e : Edge} {x : Atom}

/-- The calls that are followed when a list of them is gone through. -/
def followed (synthetic : List Atom) (t : Trace) : List Edge → List Edge
  | [] => []
  | e :: es =>
    if e.callee ∉ synthetic ∨ e.callee ∉ t.seen then e :: followed synthetic (t.follow synthetic e) es
    else followed synthetic (t.follow synthetic e) es

def entered (synthetic : List Atom) (es : List Edge) : List Atom :=
  (es.filter fun e => e.callee ∈ synthetic).map Edge.callee

theorem mem_entered : x ∈ entered synthetic es ↔ x ∈ synthetic ∧ ∃ e ∈ es, e.callee = x := by
  simp only [entered, List.mem_map, List.mem_filter, decide_eq_true_eq]
  constructor
  · rintro ⟨e, ⟨he, hs⟩, rfl⟩
    exact ⟨hs, e, he, rfl⟩
  · rintro ⟨hs, e, he, rfl⟩
    exact ⟨e, ⟨he, hs⟩, rfl⟩

theorem entered_append (es ds : List Edge) :
    entered synthetic (es ++ ds) = entered synthetic es ++ entered synthetic ds := by
  simp [entered]

theorem mem_of_mem_followed (h : e ∈ t.followed synthetic es) : e ∈ es := by
  induction es generalizing t with
  | nil => exact h
  | cons d es ih =>
    unfold followed at h
    split at h
    · rcases List.mem_cons.1 h with rfl | h
      · exact List.mem_cons_self
      · exact List.mem_cons_of_mem d (ih h)
    · exact List.mem_cons_of_mem d (ih h)

theorem dynamic_foldl_follow : (es.foldl (follow synthetic) t).dynamic = true ↔
    t.dynamic = true ∨ ∃ e ∈ t.followed synthetic es, e.dynamic = true := by
  induction es generalizing t with
  | nil => simp [followed]
  | cons e es ih =>
    rw [List.foldl_cons, ih, dynamic_follow, followed]
    split
    · simp [*, or_assoc]
    · simp [*]

theorem seen_foldl_follow : (es.foldl (follow synthetic) t).seen =
    (entered synthetic (t.followed synthetic es)).reverse ++ t.seen := by
  induction es generalizing t with
  | nil => rfl
  | cons e es ih =>
    rw [List.foldl_cons, ih, followed]
    by_cases hs : e.callee ∈ synthetic
    · by_cases old : e.callee ∈ t.seen
      · simp [follow, hs, old]
      · simp [follow, hs, old, entered]
    · simp [follow, hs, entered]

theorem mem_followed_of_real (he : e ∈ es) (real : e.callee ∉ synthetic) :
    e ∈ t.followed synthetic es := by
  induction es generalizing t with
  | nil => cases he
  | cons d es ih =>
    unfold followed
    rcases List.mem_cons.1 he with rfl | he
    · rw [if_pos (.inl real)]
      exact List.mem_cons_self
    · split
      · exact List.mem_cons_of_mem d (ih he)
      · exact ih he

end Trace

def followedFrom (g : CallGraph) (synthetic : List Atom) (t : Trace) : List Edge :=
  match _h : t.waiting with
  | [] => []
  | id :: rest =>
    Trace.followed synthetic { t with waiting := rest } (g.out id) ++
      followedFrom g synthetic ((g.out id).foldl (Trace.follow synthetic) { t with waiting := rest })
termination_by t.size synthetic
decreasing_by
  have := Trace.size_foldl_follow_le synthetic (g.out id) { t with waiting := rest }
  simp only [Trace.size, _h, List.length_cons] at this ⊢
  omega

/-- The calls that the search behind a synthetic function follows. -/
def followed (g : CallGraph) (id : Atom) : List Edge :=
  g.followedFrom g.synthetics { waiting := [id], seen := [id] }

section

variable {g : CallGraph} {synthetic : List Atom} {t : Trace} {e : Edge} {x : Atom}

theorem followedFrom_of_nil (h : t.waiting = []) : g.followedFrom synthetic t = [] := by
  rw [followedFrom]
  split
  · rfl
  · simp_all

theorem followedFrom_of_cons {id : Atom} {rest : List Atom} (h : t.waiting = id :: rest) :
    g.followedFrom synthetic t =
      Trace.followed synthetic { t with waiting := rest } (g.out id) ++ g.followedFrom synthetic
        ((g.out id).foldl (Trace.follow synthetic) { t with waiting := rest }) := by
  rw [followedFrom]
  split
  · simp_all
  · rename_i id' rest' h'
    rw [h, List.cons.injEq] at h'
    obtain ⟨rfl, rfl⟩ := h'
    rfl

theorem dynamic_traceFrom_iff : (g.traceFrom synthetic t).dynamic = true ↔
    t.dynamic = true ∨ ∃ e ∈ g.followedFrom synthetic t, e.dynamic = true := by
  fun_induction traceFrom g synthetic t with
  | case1 t ht => simp [followedFrom_of_nil ht]
  | case2 t id rest ht ih =>
    rw [ih, followedFrom_of_cons ht, Trace.dynamic_foldl_follow]
    simp only [List.mem_append, or_and_right, exists_or, or_assoc]

theorem seen_traceFrom : (g.traceFrom synthetic t).seen =
    (Trace.entered synthetic (g.followedFrom synthetic t)).reverse ++ t.seen := by
  fun_induction traceFrom g synthetic t with
  | case1 t ht =>
    rw [followedFrom_of_nil ht]
    rfl
  | case2 t id rest ht ih =>
    rw [ih, followedFrom_of_cons ht, Trace.seen_foldl_follow, Trace.entered_append,
      List.reverse_append, List.append_assoc]

theorem path_of_mem_followedFrom (h : e ∈ g.followedFrom synthetic t) :
    e ∈ g.edges ∧ ∃ a ∈ t.waiting, Search.Path g.callees synthetic a e.caller := by
  fun_induction traceFrom g synthetic t with
  | case1 t ht =>
    rw [followedFrom_of_nil ht] at h
    cases h
  | case2 t id rest ht ih =>
    rw [followedFrom_of_cons ht] at h
    rw [ht]
    rcases List.mem_append.1 h with h | h
    · obtain ⟨he, hc⟩ := List.mem_filter.1 (Trace.mem_of_mem_followed h)
      rw [of_decide_eq_true hc]
      exact ⟨he, id, List.mem_cons_self, .refl id⟩
    · obtain ⟨he, a, ha, hp⟩ := ih h
      refine ⟨he, ?_⟩
      rcases Trace.mem_waiting_foldl_follow.1 ha with ha | ⟨hc, hs, -⟩
      · exact ⟨a, List.mem_cons_of_mem id ha, hp⟩
      · exact ⟨id, List.mem_cons_self, .step hc hs hp⟩

/-- If only functions that wait have calls of real functions that were not followed, all of them are
followed in the end. -/
theorem mem_followedFrom_of_real {x : Atom} (hx : x ∈ (g.traceFrom synthetic t).seen)
    (fresh : x ∈ t.seen → x ∈ t.waiting) (he : e ∈ g.out x) (real : e.callee ∉ synthetic) :
    e ∈ g.followedFrom synthetic t := by
  fun_induction traceFrom g synthetic t with
  | case1 t ht =>
    have hw := fresh hx
    rw [ht] at hw
    cases hw
  | case2 t id rest ht ih =>
    rw [followedFrom_of_cons ht]
    by_cases hi : x = id
    · subst hi
      exact List.mem_append_left _ (Trace.mem_followed_of_real he real)
    · refine List.mem_append_right _ (ih hx fun hs => ?_)
      -- What is settled after these calls was settled before them, and only `id` was taken off.
      by_contra hw
      obtain ⟨hs, hn⟩ := Trace.settled_of_foldl_follow hs hw
      have hw := fresh hs
      rw [ht] at hw
      exact hn ((List.mem_cons.1 hw).resolve_left hi)

end

section

variable {g : CallGraph} {s r u x : Atom} {e c d : Edge} {es : List Edge}

/-- Calls through synthetic functions lead from `s` to `x`, itself synthetic or the start. -/
def Behind (g : CallGraph) (s x : Atom) : Prop := Search.Path g.callees g.synthetics s x

/-- The calls discover what is behind a synthetic function: every call that leaves the synthetic
functions is one of them, and each of the other synthetic functions is entered by one call. -/
structure Discovers (g : CallGraph) (s : Atom) (es : List Edge) : Prop where
  call : ∀ e ∈ es, e ∈ g.edges ∧ g.Behind s e.caller
  real : ∀ e ∈ g.edges, g.Behind s e.caller → e.callee ∉ g.synthetics → e ∈ es
  once : ∀ x, g.Behind s x → x ≠ s → ∃! e, e ∈ es ∧ e.callee = x
  back : ∀ e ∈ es, e.callee ≠ s

theorem Behind.call (h : g.Behind s e.caller) (he : e ∈ g.edges) (hs : e.callee ∈ g.synthetics) :
    g.Behind s e.callee :=
  Search.Path.trans h (.step (mem_callees.2 (List.mem_map_of_mem he)) hs (.refl _))

theorem Behind.leads (h : g.Behind s e.caller) (he : e ∈ g.edges) (real : e.callee ∉ g.synthetics) :
    g.Leads g.synthetics s e.callee :=
  .of_path h (.call (mem_callees.2 (List.mem_map_of_mem he)) real)

theorem seen_trace : (g.trace g.synthetics s).seen =
    (Trace.entered g.synthetics (g.followed s)).reverse ++ [s] := seen_traceFrom

theorem call_of_mem_followed (h : e ∈ g.followed s) : e ∈ g.edges ∧ g.Behind s e.caller := by
  obtain ⟨he, a, ha, hp⟩ := path_of_mem_followedFrom h
  rw [List.mem_singleton.1 ha] at hp
  exact ⟨he, hp⟩

/-- The calls that are followed discover what is behind, in whatever order the calls are given. -/
theorem discovers_followed (hs : s ∈ g.synthetics) : g.Discovers s (g.followed s) := by
  have nodup := (nodup_trace g g.synthetics s).1
  rw [seen_trace, List.nodup_append', List.nodup_reverse] at nodup
  obtain ⟨nodup, -, apart⟩ := nodup
  refine ⟨fun e he => call_of_mem_followed he, fun e he hb real => ?_, fun x hb ne => ?_,
    fun e he back => ?_⟩
  · exact mem_followedFrom_of_real (mem_seen_trace.2 hb) id
      (List.mem_filter.2 ⟨he, decide_eq_true rfl⟩) real
  · have seen := mem_seen_trace.2 hb
    rw [seen_trace, List.mem_append, List.mem_reverse, Trace.mem_entered, List.mem_singleton,
      or_iff_left ne] at seen
    obtain ⟨syn, e, he, rfl⟩ := seen
    refine ⟨e, ⟨he, rfl⟩, ?_⟩
    rintro d ⟨hd, same⟩
    refine List.inj_on_of_nodup_map nodup (List.mem_filter.2 ⟨hd, ?_⟩)
      (List.mem_filter.2 ⟨he, decide_eq_true syn⟩) same
    rw [same]
    exact decide_eq_true syn
  · refine apart ?_ (List.mem_singleton_self s)
    exact List.mem_reverse.2 (Trace.mem_entered.2 ⟨hs, e, he, back⟩)

/-- The calls, latest first, lead from `s` to `x` through synthetic functions that are told apart. -/
inductive Trail (g : CallGraph) (s : Atom) : List Edge → Atom → Prop where
  | start : Trail g s [] s
  | step {es : List Edge} {x : Atom} {e : Edge} :
    Trail g s es x → e ∈ g.out x → e.callee ∈ g.synthetics → e.callee ≠ s →
    e.callee ∉ es.map Edge.callee → Trail g s (e :: es) e.callee

/-- The call is on a simple way from `s` to `r` through synthetic functions. -/
def OnWay (g : CallGraph) (s r : Atom) (e : Edge) : Prop :=
  ∃ es x d, g.Trail s es x ∧ d ∈ g.out x ∧ d.callee = r ∧ e ∈ d :: es

theorem mem_out : e ∈ g.out x ↔ e ∈ g.edges ∧ e.caller = x := by
  simp [out]

namespace Trail

theorem behind (h : g.Trail s es x) : g.Behind s x := by
  induction h with
  | start => exact .refl s
  | step _ hd hs _ _ ih =>
    obtain ⟨he, rfl⟩ := mem_out.1 hd
    exact ih.call he hs

theorem call (h : g.Trail s es x) (he : e ∈ es) :
    e ∈ g.edges ∧ g.Behind s e.caller ∧ e.callee ∈ g.synthetics := by
  induction h with
  | start => cases he
  | step ht hd hs _ _ ih =>
    rcases List.mem_cons.1 he with rfl | he
    · obtain ⟨he, rfl⟩ := mem_out.1 hd
      exact ⟨he, ht.behind, hs⟩
    · exact ih he

theorem eq_nil (h : g.Trail s es x) (hx : x = s) : es = [] := by
  cases h with
  | start => rfl
  | step _ _ _ ne _ => exact absurd hx ne

theorem exists_of_mem (h : g.Trail s es x) (he : e ∈ es) : ∃ ds, g.Trail s ds e.callee := by
  induction h with
  | start => cases he
  | @step es x d ht hd hs ne new ih =>
    rcases List.mem_cons.1 he with rfl | he
    · exact ⟨e :: es, .step ht hd hs ne new⟩
    · exact ih he

end Trail

theorem Behind.exists_trail (h : g.Behind s x) : ∃ es, g.Trail s es x := by
  have steps := (Search.path_iff_reflTransGen fun _ _ => Iff.rfl).1 h
  induction steps with
  | refl => exact ⟨[], .start⟩
  | @tail x y hx hy ih =>
    obtain ⟨es, ht⟩ := ih ((Search.path_iff_reflTransGen fun _ _ => Iff.rfl).2 hx)
    obtain ⟨e, he, rfl⟩ := List.mem_map.1 hy.1
    by_cases start : e.callee = s
    · exact ⟨[], start ▸ .start⟩
    · -- Where the way meets its trail again, the trail that led there first is taken.
      by_cases met : e.callee ∈ es.map Edge.callee
      · obtain ⟨d, hd, same⟩ := List.mem_map.1 met
        exact same ▸ ht.exists_of_mem hd
      · exact ⟨e :: es, .step ht he hy.2 start met⟩

theorem OnWay.call (h : g.OnWay s r e) : e ∈ g.edges ∧ g.Behind s e.caller := by
  obtain ⟨es, x, d, ht, hd, -, he⟩ := h
  rcases List.mem_cons.1 he with rfl | he
  · obtain ⟨he, rfl⟩ := mem_out.1 hd
    exact ⟨he, ht.behind⟩
  · obtain ⟨he, hb, -⟩ := ht.call he
    exact ⟨he, hb⟩

theorem Behind.onWay (h : g.Behind s e.caller) (he : e ∈ g.edges) : g.OnWay s e.callee e := by
  obtain ⟨es, ht⟩ := h.exists_trail
  exact ⟨es, e.caller, e, ht, mem_out.2 ⟨he, rfl⟩, rfl, List.mem_cons_self⟩

theorem exists_dynamic_addEdge {k : Atom × Atom} :
    (∃ e ∈ addEdge d es, e.ends = k ∧ e.dynamic = true) ↔
      (∃ e ∈ es, e.ends = k ∧ e.dynamic = true) ∨ d.ends = k ∧ d.dynamic = true := by
  induction es with
  | nil => simp [addEdge, Roster.putWith]
  | cons e es ih =>
    by_cases same : e.ends = d.ends
    · have merged : addEdge d (e :: es) = e.merge d :: es := if_pos same
      have dynamic : (e.merge d).dynamic = (e.dynamic || d.dynamic) := rfl
      rw [merged, List.exists_mem_cons_iff, List.exists_mem_cons_iff, Edge.ends_merge, dynamic,
        Bool.or_eq_true, same, and_or_left, or_right_comm]
    · have kept : addEdge d (e :: es) = e :: addEdge d es := if_neg same
      rw [kept, List.exists_mem_cons_iff, List.exists_mem_cons_iff, ih, or_assoc]

theorem exists_dynamic_addEdges {ds : List Edge} {k : Atom × Atom} :
    (∃ e ∈ ds.foldl (fun es d => addEdge d es) es, e.ends = k ∧ e.dynamic = true) ↔
      (∃ e ∈ es, e.ends = k ∧ e.dynamic = true) ∨ ∃ d ∈ ds, d.ends = k ∧ d.dynamic = true := by
  induction ds generalizing es with
  | nil => simp
  | cons d ds ih =>
    rw [List.foldl_cons, ih, exists_dynamic_addEdge, List.exists_mem_cons_iff, or_assoc]

def TakesOut (g : CallGraph) (id : Atom) : Prop := id ∈ g.ids ∧ id ∉ g.withoutWrappers.ids

theorem takesOut_iff {id : Atom} : g.TakesOut id ↔ id ∈ g.wrappers.map Wrapper.id := by
  have stays : id ∈ g.withoutWrappers.ids ↔ id ∈ g.ids ∧ id ∉ g.wrappers.map Wrapper.id := by
    simp only [mem_ids, withoutWrappers, without, mem_functions_restrict, decide_eq_true_eq]
    constructor
    · rintro ⟨f, ⟨hf, hn⟩, rfl⟩
      exact ⟨⟨f, hf, rfl⟩, hn⟩
    · rintro ⟨⟨f, hf, rfl⟩, hn⟩
      exact ⟨f, ⟨hf, hn⟩, rfl⟩
  rw [TakesOut, stays]
  constructor
  · rintro ⟨hid, hn⟩
    by_contra none
    exact hn ⟨hid, none⟩
  · intro hw
    refine ⟨?_, fun hn => hn.2 hw⟩
    obtain ⟨w, hm, rfl⟩ := List.mem_map.1 hw
    obtain ⟨f, hf, hi⟩ := List.mem_map.1 (mem_wrappers.1 hm).1
    exact mem_ids.2 ⟨f, (List.mem_filter.1 hf).1, hi⟩

/-- The call of the wrapper `s` is all that a bridge from `u` to `r` stands for. -/
structure BridgedOnlyBy (g : CallGraph) (u s r : Atom) (c : Edge) : Prop where
  call : c ∈ g.edges
  ends : c.ends = (u, s)
  stays : u ∈ g.withoutWrappers.ids
  gone : g.TakesOut s
  leads : g.Leads g.synthetics s r
  undirected : ¬ g.Calls u r
  only : ∀ w, g.TakesOut w → g.Calls u w → g.Leads g.synthetics w r → w = s

namespace BridgedOnlyBy

variable (b : g.BridgedOnlyBy u s r c)

include b

theorem mem_synthetics : s ∈ g.synthetics := by
  obtain ⟨w, hw, rfl⟩ := List.mem_map.1 (takesOut_iff.1 b.gone)
  exact (mem_wrappers.1 hw).1

theorem eq_of_leads {v : Atom} (h : g.Leads g.synthetics s v) : v = r := by
  obtain ⟨w, hw, rfl⟩ := List.mem_map.1 (takesOut_iff.1 b.gone)
  have target := (wrapper?_spec (mem_wrappers.1 hw).2).2.2
  have same := ((target v).2 h).symm.trans ((target r).2 b.leads)
  exact Option.some.inj same

theorem not_mem_synthetics : r ∉ g.synthetics := fun hs =>
  (g.fits_outline.leads_iff.1 b.leads).not_isSynthetic (g.fits_outline.mem_synthetics.1 hs)

/-- The bridge is dynamic if the call of the wrapper is, or the search behind it says so. -/
theorem exists_dynamic_bridge (h : g.WellFormed) :
    (∃ d ∈ g.wrappers.flatMap (g.bridges (g.wrappers.map Wrapper.id)),
      d.ends = (u, r) ∧ d.dynamic = true) ↔
      c.dynamic = true ∨ (g.trace g.synthetics s).dynamic = true := by
  have spec {w : Wrapper} (hw : w ∈ g.wrappers) := wrapper?_spec (mem_wrappers.1 hw).2
  constructor
  · rintro ⟨d, hd, ends, dyn⟩
    obtain ⟨w, hw, hd⟩ := List.mem_flatMap.1 hd
    obtain ⟨target, ht, e, he, hc, -, rfl⟩ := mem_bridges.1 hd
    cases ends
    have gone : g.TakesOut w.id := takesOut_iff.2 (List.mem_map_of_mem hw)
    -- The bridge goes around `s`, and no other call than `c` has these ends.
    cases b.only w.id gone ⟨e, he, rfl, hc⟩ (((spec hw).2.2 _).1 ht)
    have same : e = c := List.inj_on_of_nodup_map h.nodup_ends he b.call
      ((congrArg (e.caller, ·) hc).trans b.ends.symm)
    rw [← same, ← (spec hw).2.1, ← Bool.or_eq_true]
    exact dyn
  · intro dyn
    obtain ⟨w, hw, rfl⟩ := List.mem_map.1 (takesOut_iff.1 b.gone)
    have stays : u ∉ g.wrappers.map Wrapper.id := fun hm => (takesOut_iff.2 hm).2 b.stays
    have caller : c.caller = u := congrArg Prod.fst b.ends
    have callee : c.callee = w.id := congrArg Prod.snd b.ends
    subst caller
    refine ⟨_, List.mem_flatMap.2 ⟨w, hw, mem_bridges.2
      ⟨r, ((spec hw).2.2 r).2 b.leads, c, b.call, callee, stays, rfl⟩⟩, rfl, ?_⟩
    rw [Bool.or_eq_true, (spec hw).2.1]
    exact dyn

theorem mem_ends (h : g.WellFormed) : (u, r) ∈ g.withoutWrappers.edges.map Edge.ends := by
  have direct := g.fits_outline.withoutWrappers h.nodup_ids
  obtain ⟨w, hw, rfl⟩ := List.mem_map.1 (takesOut_iff.1 b.gone)
  obtain ⟨f, hf, hi, -⟩ := (g.fits_outline.target_iff h.nodup_ids).1
    ⟨w, hw, rfl, ((wrapper?_spec (mem_wrappers.1 hw).2).2.2 r).2 b.leads⟩
  have means := g.fits_outline.leads_iff.1 b.leads
  have stays := Outline.stays_of_not_isSynthetic (h.isClosed_outline.names_of_means means)
    means.not_isSynthetic
  refine (direct.calls u r).2 (Outline.direct_calls_of_wrapper (h.stays_iff.2 b.stays) hf ?_ ?_ stays)
  · exact hi ▸ ⟨c, b.call, congrArg Prod.fst b.ends, congrArg Prod.snd b.ends⟩
  · exact hi ▸ means

theorem dynamic_iff (h : g.WellFormed) (hd : d ∈ g.withoutWrappers.edges) (ends : d.ends = (u, r)) :
    d.dynamic = true ↔ c.dynamic = true ∨ ∃ e ∈ g.followed s, e.dynamic = true := by
  -- Calls with the same ends are one edge, so `d` is dynamic if any of those added up to it is.
  have nodup : ((g.bridged g.wrappers).map Edge.ends).Nodup := nodup_ends_addEdges _ h.nodup_ends
  have hd : d ∈ g.bridged g.wrappers := (mem_edges_restrict.1 hd).1
  have only : d.dynamic = true ↔
      ∃ e ∈ g.bridged g.wrappers, e.ends = (u, r) ∧ e.dynamic = true := by
    constructor
    · exact fun dyn => ⟨d, hd, ends, dyn⟩
    · rintro ⟨e, he, same, dyn⟩
      rwa [List.inj_on_of_nodup_map nodup he hd (same.trans ends.symm)] at dyn
  have none : ¬ ∃ e ∈ g.edges, e.ends = (u, r) ∧ e.dynamic = true := by
    rintro ⟨e, he, same, -⟩
    exact b.undirected ⟨e, he, congrArg Prod.fst same, congrArg Prod.snd same⟩
  have search : (g.trace g.synthetics s).dynamic = true ↔ ∃ e ∈ g.followed s, e.dynamic = true :=
    dynamic_traceFrom_iff.trans (or_iff_right Bool.false_ne_true)
  rw [only, bridged, exists_dynamic_addEdges, or_iff_right none, b.exists_dynamic_bridge h, search]

theorem callee_eq_or (hb : g.Behind s e.caller) (he : e ∈ g.edges) :
    e.callee = r ∨ e.callee ∈ g.synthetics := by
  by_cases hs : e.callee ∈ g.synthetics
  · exact .inr hs
  · exact .inl (b.eq_of_leads (hb.leads he hs))

/-- Among calls that include all calls of `r` from behind the wrapper, some is dynamic if one of these
is, or one between synthetic functions. -/
theorem exists_dynamic_iff {p : Edge → Prop} (call : ∀ e, p e → e ∈ g.edges ∧ g.Behind s e.caller)
    (all : ∀ e ∈ g.edges, g.Behind s e.caller → e.callee = r → p e) :
    (∃ e, p e ∧ e.dynamic = true) ↔
      (∃ e ∈ g.edges, g.Behind s e.caller ∧ e.callee = r ∧ e.dynamic = true) ∨
        ∃ e, p e ∧ e.callee ∈ g.synthetics ∧ e.dynamic = true := by
  constructor
  · rintro ⟨e, he, dyn⟩
    obtain ⟨hm, hb⟩ := call e he
    rcases b.callee_eq_or hb hm with hr | hs
    · exact .inl ⟨e, hm, hb, hr, dyn⟩
    · exact .inr ⟨e, he, hs, dyn⟩
  · rintro (⟨e, hm, hb, hr, dyn⟩ | ⟨e, he, -, dyn⟩)
    · exact ⟨e, all e hm hb hr, dyn⟩
    · exact ⟨e, he, dyn⟩

end BridgedOnlyBy

/-- The bridge is dynamic if the call of the wrapper is or one of the calls that discover what is
behind. That is what the calls on the ways to `r` say, unless they disagree with the search about
dynamic calls between synthetic functions while nothing else is dynamic. -/
theorem dynamic_bridge_iff (h : g.WellFormed) (b : g.BridgedOnlyBy u s r c) :
    (u, r) ∈ g.withoutWrappers.edges.map Edge.ends ∧ g.Discovers s (g.followed s) ∧
    ∀ d ∈ g.withoutWrappers.edges, d.ends = (u, r) →
      (d.dynamic = true ↔ c.dynamic = true ∨ ∃ e, e ∈ g.followed s ∧ e.dynamic = true) ∧
      ((d.dynamic = true ↔ c.dynamic = true ∨ ∃ e, g.OnWay s r e ∧ e.dynamic = true) ↔
        c.dynamic = true ∨
        (∃ e ∈ g.edges, g.Behind s e.caller ∧ e.callee = r ∧ e.dynamic = true) ∨
        ((∃ e, e ∈ g.followed s ∧ e.callee ∈ g.synthetics ∧ e.dynamic = true) ↔
          ∃ e, g.OnWay s r e ∧ e.callee ∈ g.synthetics ∧ e.dynamic = true)) := by
  have discovers := discovers_followed b.mem_synthetics
  refine ⟨b.mem_ends h, discovers, fun d hd ends => ?_⟩
  have flag := b.dynamic_iff h hd ends
  refine ⟨flag, ?_⟩
  have search := b.exists_dynamic_iff (p := (· ∈ g.followed s)) discovers.call fun e he hb hr =>
    discovers.real e he hb (hr ▸ b.not_mem_synthetics)
  have ways := b.exists_dynamic_iff (p := g.OnWay s r) (fun _ => OnWay.call) fun e he hb hr =>
    hr ▸ hb.onWay he
  rw [flag, ways, search]
  by_cases plain : c.dynamic = true ∨
      ∃ e ∈ g.edges, g.Behind s e.caller ∧ e.callee = r ∧ e.dynamic = true
  · rw [← or_assoc, ← or_assoc, ← or_assoc]
    simp only [plain, true_or]
  · rw [← or_assoc, ← or_assoc, ← or_assoc]
    simp only [plain, false_or]

end

/-- Two wrappers: behind `s` a dynamic call leads to what was discovered before, and behind `t` one
leads nowhere. -/
def detours : CallGraph where
  functions := [
    { id := .text "m", name := .text "m", package := .text "p" },
    { id := .text "q", name := .text "q", package := .text "p" },
    { id := .text "r", name := .text "r", package := .text "p" },
    { id := .text "a", name := .text "a", package := .text "p", synthetic := some (.text "thunk") },
    { id := .text "b", name := .text "b", package := .text "p", synthetic := some (.text "thunk") },
    { id := .text "e", name := .text "e", package := .text "p", synthetic := some (.text "thunk") },
    { id := .text "s", name := .text "s", package := .text "p", synthetic := some (.text "thunk") },
    { id := .text "t", name := .text "t", package := .text "p", synthetic := some (.text "thunk") }]
  edges := [
    { caller := .text "m", callee := .text "s" }, { caller := .text "m", callee := .text "t" },
    { caller := .text "s", callee := .text "a" }, { caller := .text "s", callee := .text "b" },
    { caller := .text "b", callee := .text "a", dynamic := true },
    { caller := .text "a", callee := .text "r" },
    { caller := .text "t", callee := .text "e", dynamic := true },
    { caller := .text "t", callee := .text "q" }]

theorem wellFormed_detours : detours.WellFormed where
  nodup_ids := by decide
  nodup_ends := by decide
  caller_mem := by decide
  callee_mem := by decide

theorem edges_withoutWrappers_detours :
    detours.withoutWrappers.edges = [
      { caller := .text "m", callee := .text "r", elided := true },
      { caller := .text "m", callee := .text "q", elided := true, dynamic := true }] := by
  cbv

theorem ids_withoutWrappers_detours :
    detours.withoutWrappers.ids = [.text "m", .text "q", .text "r"] := by
  cbv

theorem leads_detours {v : Atom} :
    (detours.Leads detours.synthetics (.text "s") v ↔ v = .text "r") ∧
      (detours.Leads detours.synthetics (.text "t") v ↔ v = .text "q") := by
  have behind : (detours.trace detours.synthetics (.text "s")).found = [.text "r"] ∧
      (detours.trace detours.synthetics (.text "t")).found = [.text "q"] := by cbv
  rw [← mem_found_trace, ← mem_found_trace, behind.1, behind.2, List.mem_singleton,
    List.mem_singleton]
  exact ⟨Iff.rfl, Iff.rfl⟩

theorem callee_of_m_detours : ∀ e ∈ detours.edges, e.caller = .text "m" →
    e.callee = .text "s" ∨ e.callee = .text "t" := by
  decide

theorem bridgedOnlyBy_s_detours :
    detours.BridgedOnlyBy (.text "m") (.text "s") (.text "r")
      { caller := .text "m", callee := .text "s" } where
  call := List.mem_cons_self
  ends := rfl
  stays := by rw [ids_withoutWrappers_detours]; decide
  gone := ⟨by decide, by rw [ids_withoutWrappers_detours]; decide⟩
  leads := leads_detours.1.2 rfl
  undirected := by
    rintro ⟨e, he, hc, hr⟩
    rcases callee_of_m_detours e he hc with h | h <;> simp [h] at hr
  only := by
    rintro w - ⟨e, he, hc, rfl⟩ leads
    rcases callee_of_m_detours e he hc with h | h
    · exact h
    · exact absurd (leads_detours.2.1 (h ▸ leads)) (by decide)

theorem bridgedOnlyBy_t_detours :
    detours.BridgedOnlyBy (.text "m") (.text "t") (.text "q")
      { caller := .text "m", callee := .text "t" } where
  call := List.mem_cons_of_mem _ List.mem_cons_self
  ends := rfl
  stays := by rw [ids_withoutWrappers_detours]; decide
  gone := ⟨by decide, by rw [ids_withoutWrappers_detours]; decide⟩
  leads := leads_detours.2.2 rfl
  undirected := by
    rintro ⟨e, he, hc, hr⟩
    rcases callee_of_m_detours e he hc with h | h <;> simp [h] at hr
  only := by
    rintro w - ⟨e, he, hc, rfl⟩ leads
    rcases callee_of_m_detours e he hc with h | h
    · exact absurd (leads_detours.1.1 (h ▸ leads)) (by decide)
    · exact h

theorem static_of_onWay_detours {e : Edge} (h : detours.OnWay (.text "t") (.text "q") e) :
    e.dynamic = false := by
  -- Only `t` calls `q`, so a way between them has no other call.
  obtain ⟨es, x, d, ht, hd, hq, he⟩ := h
  obtain ⟨hm, rfl⟩ := mem_out.1 hd
  have last : ∀ d ∈ detours.edges, d.callee = .text "q" →
      d.caller = .text "t" ∧ d.dynamic = false := by decide
  obtain ⟨caller, static⟩ := last d hm hq
  rw [ht.eq_nil caller, List.mem_singleton] at he
  exact he ▸ static

/-- The dynamic call behind `s` is on a way to `r` and not followed, the one behind `t` is followed and
on no way to `q`. -/
theorem dynamic_bridge_detours :
    detours.WellFormed ∧
    (∃ c d, detours.BridgedOnlyBy (.text "m") (.text "s") (.text "r") c ∧
      d ∈ detours.withoutWrappers.edges ∧ d.ends = (.text "m", .text "r") ∧ d.dynamic = false ∧
      ∃ e, detours.OnWay (.text "s") (.text "r") e ∧ e.dynamic = true) ∧
    ∃ c d, detours.BridgedOnlyBy (.text "m") (.text "t") (.text "q") c ∧
      d ∈ detours.withoutWrappers.edges ∧ d.ends = (.text "m", .text "q") ∧ d.dynamic = true ∧
      c.dynamic = false ∧ ∀ e, detours.OnWay (.text "t") (.text "q") e → e.dynamic = false := by
  rw [edges_withoutWrappers_detours]
  refine ⟨wellFormed_detours, ⟨_, _, bridgedOnlyBy_s_detours, List.mem_cons_self, rfl, rfl, ?_⟩,
    ⟨_, _, bridgedOnlyBy_t_detours, List.mem_cons_of_mem _ List.mem_cons_self, rfl, rfl, rfl,
      fun e => static_of_onWay_detours⟩⟩
  let first : Edge := { caller := .text "s", callee := .text "b" }
  let second : Edge := { caller := .text "b", callee := .text "a", dynamic := true }
  let third : Edge := { caller := .text "a", callee := .text "r" }
  have edges : first ∈ detours.edges ∧ second ∈ detours.edges ∧ third ∈ detours.edges := by
    simp [detours, first, second, third]
  have trail : detours.Trail (.text "s") [second, first] (.text "a") :=
    .step (.step .start (mem_out.2 ⟨edges.1, rfl⟩) (by decide) (by decide) (by decide))
      (mem_out.2 ⟨edges.2.1, rfl⟩) (by decide) (by decide) (by decide)
  exact ⟨second, ⟨_, _, third, trail, mem_out.2 ⟨edges.2.2, rfl⟩, rfl, by simp⟩, rfl⟩

theorem dynamic_bridge_iff_detours :
    detours.WellFormed ∧
    detours.BridgedOnlyBy (.text "m") (.text "s") (.text "r")
      { caller := .text "m", callee := .text "s" } ∧
    detours.Discovers (.text "s") (detours.followed (.text "s")) ∧
    (detours.followed (.text "s")).map Edge.ends =
      [(.text "s", .text "a"), (.text "s", .text "b"), (.text "a", .text "r")] ∧
    ∃ d ∈ detours.withoutWrappers.edges, d.ends = (.text "m", .text "r") ∧
      (d.dynamic = true ↔ ∃ e ∈ detours.followed (.text "s"), e.dynamic = true) := by
  obtain ⟨there, discovers, flags⟩ := dynamic_bridge_iff wellFormed_detours bridgedOnlyBy_s_detours
  obtain ⟨d, hd, ends⟩ := List.mem_map.1 there
  refine ⟨wellFormed_detours, bridgedOnlyBy_s_detours, discovers, by cbv, d, hd, ends, ?_⟩
  exact (flags d hd ends).1.trans (or_iff_right Bool.false_ne_true)

end CallGraph

end CallAtlas
