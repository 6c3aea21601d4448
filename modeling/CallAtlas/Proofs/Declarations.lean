import CallAtlas.Proofs.ClosedWorld
import CallAtlas.Proofs.Reordering

set_option autoImplicit false

/-!
# What an analysis says of its document

`Document.Faithful` ties an analysis to the objects that its document lists: the functions are those
that are declared or called, each says what the last object that declares it says, or what its id
implies if there is none, and between two functions there are the calls that are listed, in their
order. What is loaded is faithful, since no later step touches what is found under an id.
-/

namespace CallAtlas

/-- A text is cut at the last `sep` in it; where there is none, nothing stands before the cut. -/
def Text.CutAtLast (sep : Char) (s before after : String) : Prop :=
  sep ∉ after.toList ∧ (s = before ++ String.singleton sep ++ after ∨ before = "" ∧ s = after)

theorem Text.cutAtLast (sep : Char) (s : String) :
    CutAtLast sep s (beforeLast sep s) (afterLast sep s) := by
  have parts : s.toList.reverse.takeWhile (· ≠ sep) ++ s.toList.reverse.dropWhile (· ≠ sep) =
      s.toList.reverse := List.takeWhile_append_dropWhile
  have whole : s = String.ofList (s.toList.reverse.takeWhile (· ≠ sep) ++
      s.toList.reverse.dropWhile (· ≠ sep)).reverse := by
    rw [parts, List.reverse_reverse, String.ofList_toList]
  constructor
  · rw [afterLast, String.toList_ofList, List.mem_reverse]
    intro h
    simpa using List.mem_takeWhile_imp h
  · rw [beforeLast, afterLast]
    generalize s.toList.reverse.takeWhile (· ≠ sep) = front at whole
    cases rest : s.toList.reverse.dropWhile (· ≠ sep) with
    | nil =>
      rw [rest, List.append_nil] at whole
      exact .inr ⟨rfl, whole⟩
    | cons c cs =>
      have cut : c = sep := by
        have head := List.head?_dropWhile_not (· ≠ sep) s.toList.reverse
        rw [rest] at head
        simpa using head
      left
      rw [rest, cut] at whole
      rw [whole]
      apply String.toList_injective
      simp

theorem Text.cutAtLast_iff {sep : Char} {s before after : String} :
    CutAtLast sep s before after ↔ beforeLast sep s = before ∧ afterLast sep s = after := by
  constructor
  · rintro ⟨clean, cut⟩
    have all : ∀ c ∈ after.toList.reverse, decide (c ≠ sep) = true := by
      intro c hc
      rw [decide_eq_true_iff]
      rintro rfl
      exact clean (List.mem_reverse.1 hc)
    rw [beforeLast, afterLast]
    rcases cut with rfl | ⟨rfl, rfl⟩
    · have chars : (before ++ String.singleton sep ++ after).toList.reverse =
          after.toList.reverse ++ sep :: before.toList.reverse := by simp
      rw [chars, List.takeWhile_append_of_pos all, List.dropWhile_append_of_pos all]
      simp
    · rw [List.takeWhile_eq_self_iff.2 all, List.dropWhile_eq_nil_iff.2 all]
      simp
  · rintro ⟨rfl, rfl⟩
    exact cutAtLast sep s

namespace Section

def objects : Option Json → List (List (String × Json))
  | some (.array items) => items.filterMap fun
    | .object o => some o
    | _ => none
  | _ => []

theorem entries_ofObjects {α : Type} {read : List (String × Json) → Reading α} {v : Option Json}
    (fits : (ofObjects read v).misfit = none) :
    (ofObjects read v).entries = (objects v).filterMap fun o => (read o).1 := by
  cases v with
  | none => rfl
  | some v =>
    rw [ofObjects, ofValue] at fits ⊢
    cases v with
    | array items =>
      change (collect _ items).misfit = none at fits
      change (collect _ items).entries = _
      rw [collect_entries (collect_misfit.1 fits), objects, List.filterMap_filterMap]
      refine List.filterMap_congr fun v _ => ?_
      cases v <;> rfl
    | object fields =>
      cases fields with
      | nil => rfl
      | cons f fs => cases fits
    | text s =>
      cases hs : s.toList with
      | nil => simp [elements?, hs, collect, objects]
      | cons c cs => simp [elements?, hs, collect] at fits
    | null | bool | int | decimal => cases fits

end Section

namespace World

variable {w : World} {e : FunctionEntry} {id path : Atom}

/-! ## What is found under an id -/

theorem functions_declare (typed : e.Keyed) (hk : e.keys? = some (id, path)) :
    (w.declare e).functions =
      Roster.putWith Function.id Function.renewed (w.described e id path) w.functions := by
  have hpath := (typed.isText_of_keys? hk).2
  rw [declare_of_keys? hk, (agree_withPackage hpath).described e id hpath]

theorem id_described (typed : e.Keyed) (hk : e.keys? = some (id, path)) :
    (w.described e id path).id = id := Atom.key_of_isText (typed.isText_of_keys? hk).1

theorem find?_declare (h : w.Settled) (typed : e.Keyed) (hk : e.keys? = some (id, path)) :
    Roster.find? Function.id id (w.declare e).functions = some (w.described e id path) := by
  have new : (w.described e id path).id = id := id_described typed hk
  rw [functions_declare typed hk, Roster.find?_putWith fun f g _ => Function.id_renewed g f,
    if_pos new]
  cases known : Roster.find? Function.id id w.functions with
  | none => rfl
  | some g =>
    -- the earlier entry leaves nothing behind, since its id has no other form
    have met : g.met = id :=
      (h.functions g (Roster.mem_of_find? known)).met.trans (Roster.key_of_find? known)
    rw [Option.elim_some, Function.renewed, met]
    rfl

theorem find?_declare_of_ne (typed : e.Keyed) (other : e.id? ≠ some id) :
    Roster.find? Function.id id (w.declare e).functions =
      Roster.find? Function.id id w.functions := by
  cases hk : e.keys? with
  | none => rw [declare, hk]
  | some k =>
    obtain ⟨i, path⟩ := k
    have ne : (w.described e i path).id ≠ id := by
      rw [id_described typed hk]
      rintro rfl
      exact other (by rw [FunctionEntry.id?, hk]; rfl)
    rw [functions_declare typed hk, Roster.find?_putWith fun f g _ => Function.id_renewed g f,
      if_neg ne]

theorem find?_foldl_declare_of_ne {es : List FunctionEntry} (typed : ∀ e ∈ es, e.Keyed)
    (others : ∀ e ∈ es, e.id? ≠ some id) :
    Roster.find? Function.id id (es.foldl declare w).functions =
      Roster.find? Function.id id w.functions := by
  refine List.foldlRecOn (motive := fun v : World => Roster.find? Function.id id v.functions =
    Roster.find? Function.id id w.functions) es declare rfl ?_
  exact fun v hv e he => (find?_declare_of_ne (typed e he) (others e he)).trans hv

theorem find?_foldl_declare (h : w.Settled) {es fs : List FunctionEntry}
    (typed : ∀ d ∈ es ++ e :: fs, d.Keyed) (hk : e.keys? = some (id, path))
    (last : ∀ d ∈ fs, d.id? ≠ some id) :
    Roster.find? Function.id id ((es ++ e :: fs).foldl declare w).functions =
      some (w.described e id path) := by
  have before : ∀ d ∈ es, d.Keyed := fun d hd => typed d (List.mem_append_left _ hd)
  have here : e.Keyed := typed e (by simp)
  have after : ∀ d ∈ fs, d.Keyed := fun d hd => typed d (by simp [hd])
  rw [List.foldl_append, List.foldl_cons, find?_foldl_declare_of_ne after last,
    find?_declare (h.foldl_declare before) here hk,
    (agree_foldl_declare before).described e id (here.isText_of_keys? hk).2]

theorem mem_ids_declare (typed : e.Keyed) :
    id ∈ (w.declare e).functions.map Function.id ↔
      id ∈ w.functions.map Function.id ∨ e.id? = some id := by
  cases hk : e.keys? with
  | none => simp [declare, FunctionEntry.id?, hk]
  | some k =>
    obtain ⟨i, path⟩ := k
    rw [functions_declare typed hk, Roster.mem_keys_putWith fun f g _ => Function.id_renewed g f,
      id_described typed hk, FunctionEntry.id?, hk, or_comm, Option.map_some, Option.some_inj]
    exact or_congr_right eq_comm

theorem mem_ids_foldl_declare {es : List FunctionEntry} (typed : ∀ e ∈ es, e.Keyed) :
    id ∈ (es.foldl declare w).functions.map Function.id ↔
      id ∈ w.functions.map Function.id ∨ ∃ e ∈ es, e.id? = some id := by
  induction es generalizing w with
  | nil => simp
  | cons e es ih =>
    rw [List.foldl_cons, ih fun d hd => typed d (List.mem_cons_of_mem e hd),
      mem_ids_declare (typed e List.mem_cons_self), List.exists_mem_cons_iff, or_assoc]

theorem find?_mention {i : Atom} (hi : i.isText) {f : Function}
    (h : Roster.find? Function.id id w.functions = some f) :
    Roster.find? Function.id id (w.mention i).functions = some f := by
  by_cases known : i ∈ w.functions.map Function.id
  · rwa [mention_known hi known]
  · rw [mention_unknown hi known]
    change Roster.find? _ _ (w.functions ++ [w.implied i]) = _
    rw [Roster.find?_concat, h]
    rfl

theorem find?_foldl_mention {ids : List Atom} (texts : ∀ i ∈ ids, i.isText) {f : Function}
    (h : Roster.find? Function.id id w.functions = some f) :
    Roster.find? Function.id id (ids.foldl mention w).functions = some f :=
  List.foldlRecOn (motive := fun v : World => Roster.find? Function.id id v.functions = some f)
    _ _ h fun _ hv i hi => find?_mention (texts i hi) hv

theorem implied_text (w : World) (id : String) : w.implied (.text id) =
    { id := .text id
      name := .text (if Text.afterLast '.' id = "" then id else Text.afterLast '.' id)
      package := .text (pathOfId id)
      std := (w.packageAt (.text (pathOfId id))).std } := by
  rw [apply_ite Json.text]
  rfl

theorem std_packageAt (known : w.packageAt path ∈ w.packages) :
    (w.packageAt path).std =
      (Roster.find? Package.key path.key w.packages).any Package.std := by
  rw [find?_packages known]
  rfl

end World

namespace Document

open Json

/-! ## What the objects of a document say -/

def listed (name : String) (fields : List (String × Json)) : List (List (String × Json)) :=
  Section.objects (fieldOf? name fields)

/-- An object declares a function if its id says something and there is a package. -/
def Declares (o : List (String × Json)) (id : String) : Prop :=
  (fieldOf "id" o).text? = some id ∧ id ≠ "" ∧ ¬ (fieldOf "package" o).isNull

def EndsAt (o : List (String × Json)) (id : String) : Prop :=
  ¬ (fieldOf "caller" o).isNull ∧ ¬ (fieldOf "callee" o).isNull ∧
    ((fieldOf "caller" o).text? = some id ∨ (fieldOf "callee" o).text? = some id)

def Connects (o : List (String × Json)) (caller callee : String) : Prop :=
  (fieldOf "caller" o).text? = some caller ∧ (fieldOf "callee" o).text? = some callee

instance (o : List (String × Json)) (id : String) : Decidable (Declares o id) :=
  inferInstanceAs (Decidable (_ ∧ _ ∧ _))

instance (o : List (String × Json)) (id : String) : Decidable (EndsAt o id) :=
  inferInstanceAs (Decidable (_ ∧ _ ∧ _))

instance (o : List (String × Json)) (caller callee : String) :
    Decidable (Connects o caller callee) :=
  inferInstanceAs (Decidable (_ ∧ _))

/-- An analysis says what the objects of a document say, and nothing else. -/
structure Faithful (fields : List (String × Json)) (a : Analysis) : Prop where
  nodup : a.ids.Nodup
  ids : ∀ x, x ∈ a.ids ↔ ∃ id, x = .text id ∧
    ((∃ o ∈ listed "functions" fields, Declares o id) ∨ ∃ o ∈ listed "edges" fields, EndsAt o id)
  /-- The last object that declares a function counts. -/
  declared : ∀ id before o after, listed "functions" fields = before ++ o :: after →
    Declares o id → (∀ p ∈ after, ¬ Declares p id) →
      ∃ path outer name, (fieldOf "package" o).text? = some path ∧
        Text.CutAtLast '.' id outer name ∧
        a.function? (.text id) = some
          { id := .text id
            name := (fieldOf "name" o).given?.getD (.text name)
            package := .text path
            recv := (fieldOf "recv" o).given?
            synthetic := (fieldOf "synthetic" o).given?
            std := (a.package? (.text path)).any Package.std }
  /-- A function that is called and not declared is what its id implies. -/
  implied : ∀ id, (∀ o ∈ listed "functions" fields, ¬ Declares o id) →
    (∃ o ∈ listed "edges" fields, EndsAt o id) →
      ∃ outer name path, Text.CutAtLast '.' id outer name ∧
        path = (if outer = "" then id else outer) ∧
        a.function? (.text id) = some
          { id := .text id
            name := .text (if name = "" then id else name)
            package := .text path
            std := (a.package? (.text path)).any Package.std }
  /-- Parallel calls keep their order. -/
  calls : ∀ caller callee,
    (a.callsBetween (.text caller) (.text callee)).map (fun c => (c.site, c.dynamic)) =
      ((listed "edges" fields).filter fun o => Connects o caller callee).map fun o =>
        ((fieldOf "site" o).given?.getD (.text ""), (fieldOf "dynamic" o).isGiven)

variable {o : List (String × Json)} {e : FunctionEntry} {id : String}

theorem keys?_of_declares (he : (readFunction o).1 = some e) (typed : e.Keyed)
    (h : Declares o id) :
    ∃ path, (fieldOf "package" o).text? = some path ∧ e.keys? = some (.text id, .text path) := by
  cases he
  obtain ⟨hid, some, package⟩ := h
  obtain ⟨path, hp⟩ := isText_iff.1 (typed.2.resolve_left package)
  have hi : fieldOf "id" o = .text id := text?_eq_some.1 hid
  dsimp only at hp
  refine ⟨path, text?_eq_some.2 hp, ?_⟩
  simp [FunctionEntry.keys?, FunctionEntry.describes, hi, hp, isGiven, isNull, Atom.ofJson?, some]

theorem id?_eq_some_iff (he : (readFunction o).1 = some e) (typed : e.Keyed) :
    e.id? = some (.text id) ↔ Declares o id := by
  constructor
  · intro h
    obtain ⟨⟨i, path⟩, hk, rfl⟩ := Option.map_eq_some_iff.1 h
    obtain ⟨describes, hi, -⟩ := FunctionEntry.keys?_eq_some hk
    have text := Atom.toJson_of_ofJson? hi
    cases he
    rw [FunctionEntry.describes, Bool.and_eq_true, Bool.not_eq_true'] at describes
    dsimp only [Atom.toJson] at describes text
    rw [← text] at describes
    refine ⟨text?_eq_some.2 text.symm, ?_, by simp [describes.2]⟩
    rintro rfl
    cases describes.1
  · intro h
    obtain ⟨path, -, hk⟩ := keys?_of_declares he typed h
    rw [FunctionEntry.id?, hk]
    rfl

def callOf? (o : List (String × Json)) : Option Call :=
  match (fieldOf "caller" o).text?, (fieldOf "callee" o).text? with
  | some caller, some callee => some
      { caller := .text caller
        callee := .text callee
        site := (fieldOf "site" o).given?.getD (.text "")
        dynamic := (fieldOf "dynamic" o).isGiven }
  | _, _ => none

theorem exists_callOf? {caller callee : String} (h : Connects o caller callee) :
    ∃ c, callOf? o = some c ∧ c.caller = .text caller ∧ c.callee = .text callee := by
  rw [callOf?, h.1, h.2]
  exact ⟨_, rfl, rfl, rfl⟩

theorem connects_of_callOf? {c : Call} (h : callOf? o = some c) :
    ∃ caller callee, Connects o caller callee ∧ c.caller = .text caller ∧
      c.callee = .text callee := by
  unfold callOf? at h
  split at h
  · rename_i caller callee hcaller hcallee
    cases h
    exact ⟨caller, callee, ⟨hcaller, hcallee⟩, rfl, rfl⟩
  · cases h

namespace WellTyped

variable {fields : List (String × Json)} (hd : (ofFields fields).WellTyped)

include hd

theorem functions_entries : (ofFields fields).functions.entries =
    (listed "functions" fields).filterMap fun o => (readFunction o).1 :=
  Section.entries_ofObjects hd.functions

theorem mem_functions_entries : e ∈ (ofFields fields).functions.entries ↔
    ∃ o ∈ listed "functions" fields, (readFunction o).1 = some e := by
  rw [hd.functions_entries, List.mem_filterMap]

theorem calls_entries : (ofFields fields).calls.entries =
    (listed "edges" fields).filterMap fun o => (readCall o).1 :=
  Section.entries_ofObjects hd.calls

theorem ends_listed {o : List (String × Json)} (ho : o ∈ listed "edges" fields) :
    ((fieldOf "caller" o).isNull ∨ (fieldOf "caller" o).isText) ∧
      ((fieldOf "callee" o).isNull ∨ (fieldOf "callee" o).isText) := by
  have read : ∃ e, (readCall o).1 = some e := ⟨_, rfl⟩
  obtain ⟨e, he⟩ := read
  have mem : e ∈ (ofFields fields).calls.entries := by
    rw [hd.calls_entries]
    exact List.mem_filterMap.2 ⟨o, ho, he⟩
  obtain ⟨caller, callee, -⟩ := hd.ends e mem
  cases he
  exact ⟨caller, callee⟩

theorem callList_eq : (ofFields fields).callList = (listed "edges" fields).filterMap callOf? := by
  rw [callList, hd.calls_entries, List.filterMap_filterMap]
  refine List.filterMap_congr fun o ho => ?_
  obtain ⟨caller, callee⟩ := hd.ends_listed ho
  have ofText {v : Json} (hv : v.isNull ∨ v.isText) : Atom.ofJson? v = v.text?.map .text := by
    cases v with
    | null | text => rfl
    | bool | int | decimal | array | object => rcases hv with hv | hv <;> cases hv
  change CallEntry.call? ⟨fieldOf "caller" o, fieldOf "callee" o, _, _⟩ = _
  rw [CallEntry.call?, callOf?, ofText caller, ofText callee]
  cases (fieldOf "caller" o).text? <;> cases (fieldOf "callee" o).text? <;> rfl

theorem mem_ends_iff {x : Atom} :
    x ∈ (ofFields fields).ends ↔ ∃ id, x = .text id ∧ ∃ o ∈ listed "edges" fields, EndsAt o id := by
  rw [Document.ends, hd.callList_eq, List.mem_flatMap]
  constructor
  · rintro ⟨c, hc, hx⟩
    obtain ⟨o, ho, hc⟩ := List.mem_filterMap.1 hc
    obtain ⟨u, v, ⟨hu, hv⟩, caller, callee⟩ := connects_of_callOf? hc
    have given : ¬ (fieldOf "caller" o).isNull ∧ ¬ (fieldOf "callee" o).isNull := by
      rw [text?_eq_some.1 hu, text?_eq_some.1 hv]
      exact ⟨Bool.false_ne_true, Bool.false_ne_true⟩
    rw [caller, callee, List.mem_pair] at hx
    rcases hx with rfl | rfl
    · exact ⟨u, rfl, o, ho, given.1, given.2, .inl hu⟩
    · exact ⟨v, rfl, o, ho, given.1, given.2, .inr hv⟩
  · rintro ⟨id, rfl, o, ho, caller, callee, ends⟩
    obtain ⟨u, hu⟩ := isText_iff.1 ((hd.ends_listed ho).1.resolve_left caller)
    obtain ⟨v, hv⟩ := isText_iff.1 ((hd.ends_listed ho).2.resolve_left callee)
    obtain ⟨c, hc, caller, callee⟩ := exists_callOf? ⟨text?_eq_some.2 hu, text?_eq_some.2 hv⟩
    refine ⟨c, List.mem_filterMap.2 ⟨o, ho, hc⟩, ?_⟩
    rw [caller, callee, List.mem_pair]
    rw [hu, hv] at ends
    exact ends.imp (fun h => by cases h; rfl) fun h => by cases h; rfl

theorem mem_ids_described {id : String} :
    .text id ∈ (ofFields fields).described.functions.map Function.id ↔
      ∃ o ∈ listed "functions" fields, Declares o id := by
  rw [Document.described, World.mem_ids_foldl_declare hd.keyed]
  constructor
  · rintro (none | ⟨e, he, hid⟩)
    · cases none
    · obtain ⟨o, ho, read⟩ := hd.mem_functions_entries.1 he
      exact ⟨o, ho, (id?_eq_some_iff read (hd.keyed e he)).1 hid⟩
  · rintro ⟨o, ho, declares⟩
    have read : ∃ e, (readFunction o).1 = some e := ⟨_, rfl⟩
    obtain ⟨e, read⟩ := read
    have he := hd.mem_functions_entries.2 ⟨o, ho, read⟩
    exact .inr ⟨e, he, (id?_eq_some_iff read (hd.keyed e he)).2 declares⟩

theorem agree_world : (ofFields fields).world.Agree (ofFields fields).packaged := by
  rw [world_eq]
  exact (World.agree_foldl_mention hd.ends_texts).trans (World.agree_foldl_declare hd.keyed)

theorem find?_of_declares {before after : List (List (String × Json))}
    (split : listed "functions" fields = before ++ o :: after) (declares : Declares o id)
    (last : ∀ p ∈ after, ¬ Declares p id) :
    ∃ path e, (readFunction o).1 = some e ∧ (fieldOf "package" o).text? = some path ∧
      Roster.find? Function.id (.text id) (ofFields fields).world.functions =
        some ((ofFields fields).world.described e (.text id) (.text path)) := by
  have read : ∃ e, (readFunction o).1 = some e := ⟨_, rfl⟩
  obtain ⟨e, read⟩ := read
  have here : (o :: after).filterMap (fun o => (readFunction o).1) =
      e :: after.filterMap fun o => (readFunction o).1 := List.filterMap_cons_some read
  have entries := hd.functions_entries
  rw [split, List.filterMap_append, here] at entries
  have typed := hd.keyed
  rw [entries] at typed
  obtain ⟨path, package, hk⟩ := keys?_of_declares read (typed e (by simp)) declares
  refine ⟨path, e, read, package, ?_⟩
  rw [hd.agree_world.described e (.text id) rfl, world_eq]
  refine World.find?_foldl_mention hd.ends_texts ?_
  rw [Document.described, entries]
  refine World.find?_foldl_declare hd.settled_packaged typed hk fun d hd' hid => ?_
  obtain ⟨p, hp, read⟩ := List.mem_filterMap.1 hd'
  exact last p hp ((id?_eq_some_iff read (typed d (by simp [hd']))).1 hid)

theorem find?_of_endsAt (undeclared : ∀ o ∈ listed "functions" fields, ¬ Declares o id)
    (called : ∃ o ∈ listed "edges" fields, EndsAt o id) :
    Roster.find? Function.id (.text id) (ofFields fields).world.functions =
      some ((ofFields fields).world.implied (.text id)) := by
  have unknown : .text id ∉ (ofFields fields).described.functions.map Function.id := by
    rw [hd.mem_ids_described]
    exact fun ⟨o, ho, declares⟩ => undeclared o ho declares
  have mem : .text id ∈ (ofFields fields).ends := hd.mem_ends_iff.2 ⟨id, rfl, called⟩
  have agree : (ofFields fields).world.Agree (ofFields fields).described := by
    rw [world_eq]
    exact World.agree_foldl_mention hd.ends_texts
  rw [Roster.find?_eq_some_iff hd.distinct_world.functions, agree.implied]
  refine ⟨?_, rfl⟩
  rw [world_eq]
  exact ((World.mem_foldl_mention hd.ends_texts).1 _).2 (.inr ⟨.text id, mem, unknown, rfl⟩)

theorem callsBetween_eq (caller callee : String) :
    ((ofFields fields).callList.filter fun c =>
      c.caller = .text caller && c.callee = .text callee).map (fun c => (c.site, c.dynamic)) =
      ((listed "edges" fields).filter fun o => Connects o caller callee).map fun o =>
        ((fieldOf "site" o).given?.getD (.text ""), (fieldOf "dynamic" o).isGiven) := by
  rw [hd.callList_eq]
  induction listed "edges" fields with
  | nil => rfl
  | cons o os ih =>
    cases hu : (fieldOf "caller" o).text? with
    | none => simpa [callOf?, Connects, hu] using ih
    | some u =>
      cases hv : (fieldOf "callee" o).text? with
      | none => simpa [callOf?, Connects, hu, hv] using ih
      | some v =>
        by_cases h : u = caller ∧ v = callee
        · simpa [callOf?, Connects, hu, hv, h] using ih
        · simpa [callOf?, Connects, hu, hv, h] using ih

theorem mem_ids_world {x : Atom} :
    x ∈ (ofFields fields).world.functions.map Function.id ↔ ∃ id, x = .text id ∧
      ((∃ o ∈ listed "functions" fields, Declares o id) ∨
        ∃ o ∈ listed "edges" fields, EndsAt o id) := by
  constructor
  · intro hx
    have text : x.isText := by
      obtain ⟨f, hf, rfl⟩ := List.mem_map.1 hx
      exact (hd.texts_world.functions f hf).1
    obtain ⟨id, rfl⟩ := Atom.isText_iff.1 text
    rw [world_eq, World.mem_ids_foldl_mention hd.ends_texts, hd.mem_ids_described,
      hd.mem_ends_iff] at hx
    refine ⟨id, rfl, hx.imp_right ?_⟩
    rintro ⟨i, same, called⟩
    cases same
    exact called
  · rintro ⟨id, rfl, h⟩
    rw [world_eq, World.mem_ids_foldl_mention hd.ends_texts, hd.mem_ids_described, hd.mem_ends_iff]
    exact h.imp_right fun called => ⟨id, rfl, called⟩

/-- What is loaded says what the document says, and nothing else. -/
theorem faithful_of_load {a : Analysis} (h : (ofFields fields).load = .ok a) :
    Faithful fields a := by
  have settled := hd.settled_world
  obtain ⟨-, -, -, starts, -, loaded⟩ := load_eq_ok_iff.1 h
  have functions : a.functions = (ofFields fields).world.functions := by rw [← loaded]
  have calls : a.calls = (ofFields fields).callList := by rw [← loaded]
  have std {f : Function} (hf : f ∈ (ofFields fields).world.functions) :
      ((ofFields fields).world.packageAt f.package).std =
        (a.package? f.package).any Package.std := by
    rw [World.std_packageAt (settled.functions f hf).known, ← loaded]
    rfl
  constructor
  · rw [Analysis.ids, functions]
    exact hd.distinct_world.functions
  · intro x
    rw [Analysis.ids, functions]
    exact hd.mem_ids_world
  · intro id before o after split declares last
    obtain ⟨path, e, read, package, found⟩ := hd.find?_of_declares split declares last
    have std := std (Roster.mem_of_find? found)
    change _ = (a.package? (.text path)).any Package.std at std
    refine ⟨path, _, _, package, Text.cutAtLast '.' id, ?_⟩
    rw [← std, Analysis.function?, functions]
    cases read
    exact found
  · intro id undeclared called
    have found := hd.find?_of_endsAt undeclared called
    have std := std (Roster.mem_of_find? found)
    change _ = (a.package? (.text (World.pathOfId id))).any Package.std at std
    rw [World.implied_text] at found
    refine ⟨_, _, World.pathOfId id, Text.cutAtLast '.' id, rfl, ?_⟩
    rw [← std, Analysis.function?, functions]
    exact found
  · intro caller callee
    rw [Analysis.callsBetween, calls]
    exact hd.callsBetween_eq caller callee

end WellTyped

/-- The last entry of the main function counts, `log.` is its own name, and both calls of it are
kept. -/
theorem faithful_of_load_patchwork :
    (ofFields patchwork).WellTyped ∧
      ∃ a, (ofFields patchwork).load = .ok a ∧ Faithful patchwork a ∧
        (∃ f, a.function? (.text "app.main") = some f ∧ f.package = .text "app" ∧ f.recv = none) ∧
        (∃ f, a.function? (.text "log.") = some f ∧ f.package = .text "log" ∧
          f.name = .text "log.") ∧
        (a.callsBetween (.text "app.main") (.text "log.")).map (fun c => (c.site, c.dynamic)) =
          [(.text "3:1", false), (.text "", true)] := by
  have known : (ofFields patchwork).load.toOption.map Analysis.entryPoints =
      some [.text "app.main"] := by cbv
  obtain ⟨a, ha, -⟩ := exists_ok_of_map known
  have faithful := wellTyped_patchwork.faithful_of_load ha
  refine ⟨wellTyped_patchwork, a, ha, faithful, ?_, ?_, ?_⟩
  · obtain ⟨path, outer, name, package, -, found⟩ := faithful.declared "app.main" [_, _] _ []
      rfl (by decide) (by decide)
    cases package
    exact ⟨_, found, rfl, rfl⟩
  · obtain ⟨outer, name, path, cut, rfl, found⟩ := faithful.implied "log." (by decide) (by decide)
    obtain ⟨rfl, rfl⟩ := Text.cutAtLast_iff.1 cut
    exact ⟨_, found, by cbv, by cbv⟩
  · exact (faithful.calls "app.main" "log.").trans (by cbv)

end Document

end CallAtlas
