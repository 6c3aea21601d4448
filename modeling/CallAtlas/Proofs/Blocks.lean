import CallAtlas.Proofs.Chart
import CallAtlas.Proofs.Occurrences

set_option autoImplicit false

/-!
# Blocks of clusters

What is drawn of a forest is a forest of blocks of the same shape. A counter is taken along while
the clusters are drawn, so that the blocks are numbered in the order in which the clusters occur.
-/

namespace CallAtlas

theorem exists_ok_of_bind {ε α β : Type} {x : Except ε α} {f : α → Except ε β} {y : β}
    (h : x >>= f = .ok y) : ∃ z, x = .ok z ∧ f z = .ok y := by
  cases x with
  | error e => cases h
  | ok z => exact ⟨z, rfl, h⟩

theorem exists_of_mapM_ok {ε α β : Type} {f : α → Except ε β} {xs : List α} {ys : List β}
    (h : xs.mapM f = .ok ys) : ∀ y ∈ ys, ∃ x ∈ xs, f x = .ok y := by
  induction xs generalizing ys with
  | nil =>
    cases h
    simp
  | cons x xs ih =>
    rw [List.mapM_cons] at h
    obtain ⟨y, hy, h⟩ := exists_ok_of_bind h
    obtain ⟨zs, hzs, h⟩ := exists_ok_of_bind h
    cases h
    simp only [List.forall_mem_cons, List.exists_mem_cons_iff]
    exact ⟨.inl hy, fun z hz => .inr (ih hzs z hz)⟩

namespace Dot

variable {nodes : List ViewNode} {n m : Nat} {c : Cluster} {cs : List Cluster} {b : Block}
  {bs : List Block}

structure Block.Shows (nodes : List ViewNode) (c : Cluster) (b : Block) : Prop where
  attributes : ∃ label, written c.label.toJson = .ok label ∧
    b.attributes = clusterAttributes c.kind c.key.inSentence label c.focused
  members : c.members.mapM (nodeNamed nodes) = .ok b.nodes

/-- What is drawn of a cluster: a block with the number of the counter, and in it what is drawn of
the clusters in the cluster while the counter goes on. -/
theorem blockOf_spec (h : blockOf nodes n c = .ok (b, m)) :
    b.number = n ∧ b.Shows nodes c ∧ blocksOf nodes (n + 1) c.clusters = .ok (b.blocks, m) := by
  obtain ⟨kind, key, label, package, members, clusters, focused⟩ := c
  rw [blockOf] at h
  obtain ⟨text, ht, h⟩ := exists_ok_of_bind h
  obtain ⟨statements, hs, h⟩ := exists_ok_of_bind h
  obtain ⟨⟨blocks, next⟩, hb, h⟩ := exists_ok_of_bind h
  cases h
  exact ⟨rfl, ⟨⟨text, ht, rfl⟩, hs⟩, hb⟩

theorem blocksOf_cons_spec (h : blocksOf nodes n (c :: cs) = .ok (bs, m)) :
    ∃ b next rest, blockOf nodes n c = .ok (b, next) ∧ blocksOf nodes next cs = .ok (rest, m) ∧
      bs = b :: rest := by
  rw [blocksOf] at h
  obtain ⟨⟨b, next⟩, hb, h⟩ := exists_ok_of_bind h
  obtain ⟨⟨rest, last⟩, hr, h⟩ := exists_ok_of_bind h
  cases h
  exact ⟨b, next, rest, hb, hr, rfl⟩

theorem isSome_trail?_of_each
    (each : ∀ c ∈ cs, ∀ n b m, blockOf nodes n c = .ok (b, m) → ∀ position,
      (Forest.trail? Block.blocks b.blocks position).isSome =
        (Forest.trail? Cluster.clusters c.clusters position).isSome)
    (h : blocksOf nodes n cs = .ok (bs, m)) (position : List Nat) :
    (Forest.trail? Block.blocks bs position).isSome =
      (Forest.trail? Cluster.clusters cs position).isSome := by
  cases position with
  | nil => rfl
  | cons i position =>
    induction cs generalizing n bs i with
    | nil =>
      cases h
      rfl
    | cons c cs ih =>
      obtain ⟨b, next, rest, hb, hr, rfl⟩ := blocksOf_cons_spec h
      rw [List.forall_mem_cons] at each
      cases i with
      | zero => simpa [Forest.trail?] using each.1 n b next hb position
      | succ i => simpa [Forest.trail?] using ih each.2 hr i

theorem isSome_trail?_block (h : blockOf nodes n c = .ok (b, m)) (position : List Nat) :
    (Forest.trail? Block.blocks b.blocks position).isSome =
      (Forest.trail? Cluster.clusters c.clusters position).isSome := by
  induction c using Cluster.of_inside generalizing n b m position with
  | _ c ih =>
  exact isSome_trail?_of_each (fun d hd n b m hb => ih d hd hb) (blockOf_spec h).2.2 position

theorem isSome_trail?_blocks (h : blocksOf nodes n cs = .ok (bs, m)) (position : List Nat) :
    (Forest.trail? Block.blocks bs position).isSome =
      (Forest.trail? Cluster.clusters cs position).isSome :=
  isSome_trail?_of_each (fun _ _ _ _ _ hb => isSome_trail?_block hb) h position

def EndsIn (nodes : List ViewNode) (path : List Block) (c : Cluster) (number : Nat) : Prop :=
  ∃ outer b, path = outer ++ [b] ∧ b.number = number ∧ b.Shows nodes c

theorem EndsIn.cons {path : List Block} {number : Nat} (h : EndsIn nodes path c number)
    (b : Block) : EndsIn nodes (b :: path) c number := by
  obtain ⟨outer, last, rfl, h⟩ := h
  exact ⟨b :: outer, last, rfl, h⟩

/-- The occurrences in a cluster are numbered in their order, and the counter has passed them. -/
structure Numbers (nodes : List ViewNode) (n : Nat) (c : Cluster) (b : Block) (m : Nat) : Prop where
  next : m = n + c.occurrences.length
  blocks : ∀ o k, (o, k) ∈ c.occurrences.zipIdx n → ∃ path,
    Forest.trail? Block.blocks b.blocks o.position = some path ∧
      EndsIn nodes (b :: path) o.cluster k

theorem numbers_of_each
    (each : ∀ c ∈ cs, ∀ n b m, blockOf nodes n c = .ok (b, m) → Numbers nodes n c b m)
    (h : blocksOf nodes n cs = .ok (bs, m)) (i : Nat) :
    m = n + (Cluster.forestOccurrences i cs).length ∧
      ∀ o k, (o, k) ∈ (Cluster.forestOccurrences i cs).zipIdx n → ∃ j rest path,
        o.position = (i + j) :: rest ∧ Forest.trail? Block.blocks bs (j :: rest) = some path ∧
          EndsIn nodes path o.cluster k := by
  induction cs generalizing n bs i with
  | nil =>
    cases h
    simp [Cluster.forestOccurrences]
  | cons c cs ih =>
    obtain ⟨b, next, bs, hb, hbs, rfl⟩ := blocksOf_cons_spec h
    rw [List.forall_mem_cons] at each
    obtain ⟨passed, numbers⟩ := each.1 n b next hb
    obtain ⟨last, others⟩ := ih each.2 hbs (i + 1)
    rw [Cluster.forestOccurrences]
    constructor
    · rw [last, passed, List.length_append, List.length_map, Nat.add_assoc]
    · intro o k ho
      rw [List.zipIdx_append, List.length_map, ← passed, List.mem_append, List.zipIdx_map,
        List.mem_map] at ho
      -- Either it occurs in the first cluster, or the counter has passed that one.
      rcases ho with ⟨⟨p, k⟩, hp, moved⟩ | ho
      · obtain ⟨rfl, rfl⟩ := Prod.mk.inj moved
        obtain ⟨path, trail, ends⟩ := numbers p k hp
        exact ⟨0, p.position, b :: path, rfl, by simp [Forest.trail?, trail], ends⟩
      · obtain ⟨j, rest, path, position, trail, ends⟩ := others o k ho
        have place : i + 1 + j = i + (j + 1) := by omega
        exact ⟨j + 1, rest, path, place ▸ position, by simpa [Forest.trail?] using trail, ends⟩

theorem numbers_of_blockOf (h : blockOf nodes n c = .ok (b, m)) : Numbers nodes n c b m := by
  induction c using Cluster.of_inside generalizing n b m with
  | _ c ih =>
  obtain ⟨number, shows, inner⟩ := blockOf_spec h
  obtain ⟨next, numbered⟩ := numbers_of_each (fun d hd n b m hb => ih d hd hb) inner 0
  constructor
  · rw [next, Cluster.occurrences_eq, List.length_cons, List.length_map]
    omega
  · intro o k ho
    rw [Cluster.occurrences_eq, List.zipIdx_cons, List.mem_cons, List.zipIdx_map,
      List.mem_map] at ho
    rcases ho with here | ⟨⟨p, k⟩, hp, moved⟩
    · cases here
      exact ⟨[], rfl, [], b, rfl, number, shows⟩
    · obtain ⟨rfl, rfl⟩ := Prod.mk.inj moved
      obtain ⟨j, rest, path, position, trail, ends⟩ := numbered p k hp
      rw [Nat.zero_add] at position
      exact ⟨path, by rw [← trail, ← position]; rfl, ends.cons b⟩

/-- The block of the occurrence that comes in the `k`-th place has the number `k`. -/
theorem numbered_blocksOf (h : blocksOf nodes 0 cs = .ok (bs, m)) {k : Nat}
    {o : Cluster.Occurrence} (ho : (Cluster.forestOccurrences 0 cs)[k]? = some o) :
    ∃ path, Forest.trail? Block.blocks bs o.position = some path ∧
      EndsIn nodes path o.cluster k := by
  have listed : (o, k) ∈ (Cluster.forestOccurrences 0 cs).zipIdx := by
    rw [List.mem_zipIdx_iff_getElem?]
    exact ho
  obtain ⟨j, rest, path, position, trail, ends⟩ :=
    (numbers_of_each (fun _ _ _ _ _ hb => numbers_of_blockOf hb) h 0).2 o k listed
  rw [Nat.zero_add] at position
  exact ⟨path, position ▸ trail, ends⟩

theorem worded_nodeNamed {id : Atom} {s : NodeStatement} (h : nodeNamed nodes id = .ok s) :
    s.attributes.Worded := by
  unfold nodeNamed at h
  split at h
  · obtain ⟨id, hid, h⟩ := exists_ok_of_bind h
    obtain ⟨label, hl, h⟩ := exists_ok_of_bind h
    cases h
    exact Attributes.Worded.nodeStyle (.cons (by decide) (.cons (by decide) .nil)) _
  · cases h

theorem worded_blocks_of_each
    (each : ∀ c ∈ cs, ∀ n b m, blockOf nodes n c = .ok (b, m) → b.Worded)
    (h : blocksOf nodes n cs = .ok (bs, m)) : ∀ b ∈ bs, b.Worded := by
  induction cs generalizing n bs with
  | nil =>
    cases h
    simp
  | cons c cs ih =>
    obtain ⟨b, next, bs, hb, hbs, rfl⟩ := blocksOf_cons_spec h
    rw [List.forall_mem_cons] at each ⊢
    exact ⟨each.1 n b next hb, ih each.2 hbs⟩

theorem worded_blockOf (h : blockOf nodes n c = .ok (b, m)) : b.Worded := by
  induction c using Cluster.of_inside generalizing n b m with
  | _ c ih =>
  obtain ⟨-, ⟨⟨label, -, attributes⟩, members⟩, inner⟩ := blockOf_spec h
  refine .intro (attributes ▸ worded_clusterAttributes _ _ _ _) (fun s hs => ?_)
    (worded_blocks_of_each (fun d hd n b m hb => ih d hd hb) inner)
  obtain ⟨id, -, hid⟩ := exists_of_mapM_ok members s hs
  exact worded_nodeNamed hid

theorem worded_edgeStatement {e : ViewEdge} {s : EdgeStatement} (h : edgeStatement e = .ok s) :
    s.attributes.Worded := by
  obtain ⟨texts, ht, h⟩ := exists_ok_of_bind h
  obtain ⟨tail, htail, h⟩ := exists_ok_of_bind h
  obtain ⟨head, hhead, h⟩ := exists_ok_of_bind h
  cases h
  have style : (edgeStyle e).Worded := by
    unfold edgeStyle
    split <;> [skip; split] <;> first | exact .nil | exact .cons (by decide) .nil
  refine style.append ?_
  split <;> first | exact .nil | exact .cons (by decide) .nil

theorem ofView_spec {v : View} {d : Document} (h : Document.ofView v = .ok d) :
    d.Worded ∧ ∃ m, blocksOf v.nodes 0 v.clusters = .ok (d.blocks, m) := by
  obtain ⟨title, ht, h⟩ := exists_ok_of_bind h
  obtain ⟨⟨blocks, m⟩, hb, h⟩ := exists_ok_of_bind h
  obtain ⟨loose, hl, h⟩ := exists_ok_of_bind h
  obtain ⟨edges, he, h⟩ := exists_ok_of_bind h
  cases h
  refine ⟨⟨.append worded_looks.2.1 (.cons (by decide) .nil), worded_looks.1, worded_looks.2.2,
    worded_blocks_of_each (fun _ _ _ _ _ hb => worded_blockOf hb) hb, fun s hs => ?_,
    fun s hs => ?_⟩, m, hb⟩
  · obtain ⟨id, -, hid⟩ := exists_of_mapM_ok hl s hs
    exact worded_nodeNamed hid
  · obtain ⟨e, -, he⟩ := exists_of_mapM_ok he s hs
    exact worded_edgeStatement he

end Dot

end CallAtlas
