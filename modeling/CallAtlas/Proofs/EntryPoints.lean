import CallAtlas.Proofs.Declarations

set_option autoImplicit false

/-!
# Entry points

Where a program starts, told by the objects of its document alone: at the functions that the document
names or, where it names none, at its main functions. A function is what the last object that declares
it says, or what its id implies, and its package is called as the last object that describes the
package says, or as the path implies.
-/

namespace CallAtlas

def IsLast {α : Type} (p : α → Prop) (x : α) (xs : List α) : Prop :=
  ∃ before after, xs = before ++ x :: after ∧ p x ∧ ∀ y ∈ after, ¬ p y

theorem exists_isLast {α : Type} {p : α → Prop} {xs : List α} (h : ∃ x ∈ xs, p x) :
    ∃ x, IsLast p x xs := by
  induction xs with
  | nil => simp at h
  | cons x xs ih =>
    by_cases later : ∃ y ∈ xs, p y
    · obtain ⟨y, before, after, rfl, last⟩ := ih later
      exact ⟨y, x :: before, after, rfl, last⟩
    · have hx : p x := ((List.exists_mem_cons_iff p x xs).1 h).resolve_right later
      exact ⟨x, [], xs, rfl, hx, fun y hy hp => later ⟨y, hy, hp⟩⟩

theorem IsLast.mem {α : Type} {p : α → Prop} {x : α} {xs : List α} (h : IsLast p x xs) :
    x ∈ xs ∧ p x := by
  obtain ⟨before, after, rfl, px, -⟩ := h
  exact ⟨by simp, px⟩

theorem IsLast.unique {α : Type} {p : α → Prop} {x y : α} {xs : List α} (hx : IsLast p x xs)
    (hy : IsLast p y xs) : x = y := by
  obtain ⟨before, after, rfl, px, lastx⟩ := hx
  obtain ⟨before', after', split, py, lasty⟩ := hy
  rcases List.append_eq_append_iff.1 split with ⟨between, -, rest⟩ | ⟨between, -, rest⟩
  · cases between with
    | nil => exact (List.cons.inj rest).1
    | cons z zs =>
      have met : y ∈ after := by simp [(List.cons.inj rest).2]
      exact absurd py (lastx y met)
  · cases between with
    | nil => exact (List.cons.inj rest).1.symm
    | cons z zs =>
      have met : x ∈ after' := by simp [(List.cons.inj rest).2]
      exact absurd px (lasty x met)

theorem Section.collect_all (items : List Json) :
    collect (fun v => (some v, none)) items = ⟨items, none⟩ := by
  induction items with
  | nil => rfl
  | cons v vs ih => simp [collect, ih]

namespace Document

open Json

def Describes (o : List (String × Json)) (path : String) : Prop :=
  (fieldOf "path" o).text? = some path ∧ path ≠ ""

instance (o : List (String × Json)) (path : String) : Decidable (Describes o path) :=
  inferInstanceAs (Decidable (_ ∧ _))

inductive CallsPackage (fields : List (String × Json)) (path : String) : Json → Prop where
  | described {o : List (String × Json)} :
    IsLast (Describes · path) o (listed "packages" fields) →
    CallsPackage fields path ((fieldOf "name" o).given?.getD (.text (Package.nameOfPath path)))
  | implied : (∀ o ∈ listed "packages" fields, ¬ Describes o path) →
    CallsPackage fields path (.text (Package.nameOfPath path))

/-- A function that a program starts at unless it is told otherwise: it is called main and is neither
a method nor synthetic, and its package is called main. -/
inductive IsMain (fields : List (String × Json)) (id : String) : Prop where
  | declared {o : List (String × Json)} {path outer name : String} :
    IsLast (Declares · id) o (listed "functions" fields) → Text.CutAtLast '.' id outer name →
    (fieldOf "name" o).given?.getD (.text name) = .text Analysis.mainName →
    (fieldOf "recv" o).given? = none → (fieldOf "synthetic" o).given? = none →
    (fieldOf "package" o).text? = some path →
    CallsPackage fields path (.text Analysis.mainName) → IsMain fields id
  | implied {outer name : String} : (∀ o ∈ listed "functions" fields, ¬ Declares o id) →
    (∃ o ∈ listed "edges" fields, EndsAt o id) → Text.CutAtLast '.' id outer name →
    (if name = "" then id else name) = Analysis.mainName →
    CallsPackage fields (if outer = "" then id else outer) (.text Analysis.mainName) →
    IsMain fields id

/-- A document speaks of a function if it declares it or describes a call of it. -/
def Names (fields : List (String × Json)) (id : String) : Prop :=
  (∃ o ∈ listed "functions" fields, Declares o id) ∨ ∃ o ∈ listed "edges" fields, EndsAt o id

instance (fields : List (String × Json)) (id : String) : Decidable (Names fields id) :=
  inferInstanceAs (Decidable (_ ∨ _))

theorem IsMain.names {fields : List (String × Json)} {id : String} (h : IsMain fields id) :
    Names fields id := by
  cases h with
  | declared last => exact .inl ⟨_, last.mem⟩
  | implied _ called => exact .inr called

/-! ## What packages are called -/

section

variable {ps : List Package} {k : Atom}

theorem name_putWith (p : Package) :
    (Roster.find? Package.key k (Roster.putWith Package.key Package.renewed p ps)).map Package.name =
      if p.key = k then some p.name else (Roster.find? Package.key k ps).map Package.name := by
  rw [Roster.find?_putWith fun p q _ => Package.key_renewed q p]
  split
  · cases Roster.find? Package.key k ps <;> rfl
  · rfl

theorem name_foldl_of_ne {es : List PackageEntry} (others : ∀ e ∈ es, e.package.key ≠ k) :
    (Roster.find? Package.key k (es.foldl (fun packages e =>
      Roster.putWith Package.key Package.renewed e.package packages) ps)).map Package.name =
      (Roster.find? Package.key k ps).map Package.name := by
  induction es generalizing ps with
  | nil => rfl
  | cons e es ih =>
    rw [List.foldl_cons, ih fun d hd => others d (List.mem_cons_of_mem e hd), name_putWith,
      if_neg (others e List.mem_cons_self)]

theorem name_packageTable {es fs : List PackageEntry} {e : PackageEntry} (he : e.package.key = k)
    (last : ∀ d ∈ fs, d.package.key ≠ k) :
    (Roster.find? Package.key k (packageTable (es ++ e :: fs))).map Package.name =
      some e.package.name := by
  rw [packageTable, List.foldl_append, List.foldl_cons, name_foldl_of_ne last, name_putWith,
    if_pos he]

end

theorem readPackage_cases {o : List (String × Json)} (fits : (readPackage o).2 = none) :
    (fieldOf "path" o).isGiven = false ∧ (readPackage o).1 = none ∨
      (fieldOf "path" o).isGiven = true ∧ ∃ e, (readPackage o).1 = some e ∧
        e.path.toJson = fieldOf "path" o ∧ e.name = (fieldOf "name" o).given? := by
  unfold readPackage at fits ⊢
  dsimp only at fits ⊢
  cases given : (fieldOf "path" o).isGiven with
  | false => exact .inl ⟨rfl, rfl⟩
  | true =>
    refine .inr ⟨rfl, ?_⟩
    simp only [given, Bool.not_true, Bool.false_eq_true, if_false] at fits ⊢
    -- Wherever the reading stops there is a misfit, so it comes to its end.
    split at fits
    · cases fits
    · dsimp only at fits
      split at fits
      · cases fits
      · split at fits
        · cases fits
        · rename_i single
          have known : Atom.ofJson? (fieldOf "path" o) ≠ none := fun h => single (by rw [h]; rfl)
          obtain ⟨path, hp⟩ := Option.ne_none_iff_exists'.1 known
          refine ⟨_, rfl, ?_, rfl⟩
          rw [hp]
          exact Atom.toJson_of_ofJson? hp

theorem readPackage_fits {fields o : List (String × Json)}
    (fits : (ofFields fields).packages.misfit = none) (ho : o ∈ listed "packages" fields) :
    (readPackage o).2 = none := by
  change (Section.ofObjects readPackage (fieldOf? "packages" fields)).misfit = none at fits
  unfold listed at ho
  cases hv : fieldOf? "packages" fields with
  | none =>
    rw [hv] at ho
    cases ho
  | some v =>
    cases v with
    | array items =>
      rw [hv] at ho fits
      obtain ⟨v, hm, hread⟩ := List.mem_filterMap.1 ho
      cases v <;> cases hread
      exact Section.collect_misfit.1 fits _ hm
    | null | bool | int | decimal | text | object =>
      rw [hv] at ho
      cases ho

namespace WellTyped

variable {fields : List (String × Json)} (hd : (ofFields fields).WellTyped)

include hd

theorem packages_entries : (ofFields fields).packages.entries =
    (listed "packages" fields).filterMap fun o => (readPackage o).1 :=
  Section.entries_ofObjects hd.packages

theorem key_eq_iff {o : List (String × Json)} (ho : o ∈ listed "packages" fields) {e : PackageEntry}
    (he : (readPackage o).1 = some e) {path : String} :
    e.package.key = .text path ↔ Describes o path := by
  have mem : e ∈ (ofFields fields).packages.entries := by
    rw [hd.packages_entries]
    exact List.mem_filterMap.2 ⟨o, ho, he⟩
  have text : e.path.isText := (hd.paths e mem).1
  obtain ⟨-, none⟩ | ⟨given, d, hd, hpath, -⟩ := readPackage_cases (readPackage_fits hd.packages ho)
  · cases none.symm.trans he
  · cases he.symm.trans hd
    change e.path.key = _ ↔ _
    rw [Atom.key_of_isText text]
    constructor
    · intro hp
      rw [hp] at hpath
      refine ⟨text?_eq_some.2 hpath.symm, ?_⟩
      rintro rfl
      rw [← hpath] at given
      cases given
    · rintro ⟨hp, -⟩
      rw [text?_eq_some.1 hp] at hpath
      obtain ⟨s, hs⟩ := Atom.isText_iff.1 text
      rw [hs] at hpath ⊢
      cases hpath
      rfl

theorem exists_readPackage {o : List (String × Json)} (ho : o ∈ listed "packages" fields)
    {path : String} (describes : Describes o path) :
    ∃ e, (readPackage o).1 = some e ∧ e.package.key = .text path ∧
      e.package.name = (fieldOf "name" o).given?.getD (.text (Package.nameOfPath path)) := by
  have hp : fieldOf "path" o = .text path := text?_eq_some.1 describes.1
  obtain ⟨silent, -⟩ | ⟨-, e, he, hpath, hname⟩ := readPackage_cases (readPackage_fits hd.packages ho)
  · rw [hp] at silent
    simp [isGiven, describes.2] at silent
  · refine ⟨e, he, (hd.key_eq_iff ho he).2 describes, ?_⟩
    have path_eq : e.path = .text path := by
      rw [hp] at hpath
      cases h : e.path <;> rw [h] at hpath <;> cases hpath
      rfl
    rw [PackageEntry.package, hname, path_eq]
    rfl

theorem callsPackage_packageAt (path : String) :
    CallsPackage fields path ((ofFields fields).world.packageAt (.text path)).name := by
  have at_path : ((ofFields fields).world.packageAt (.text path)).name =
      ((Roster.find? Package.key (.text path)
        (packageTable (ofFields fields).packages.entries)).map Package.name).getD
        (.text (Package.nameOfPath path)) := by
    rw [hd.agree_world (.text path) rfl]
    change ((Roster.find? Package.key (.text path) (packageTable _)).getD _).name = _
    generalize Roster.find? Package.key (.text path) (packageTable _) = found
    cases found <;> rfl
  rw [at_path, hd.packages_entries]
  by_cases some : ∃ o ∈ listed "packages" fields, Describes o path
  · obtain ⟨o, last⟩ := exists_isLast some
    have ⟨before, after, split, describes, others⟩ := last
    have listed_after {p : List (String × Json)} (hp : p ∈ after) : p ∈ listed "packages" fields := by
      simp [split, hp]
    obtain ⟨e, he, hk, hn⟩ := hd.exists_readPackage last.mem.1 describes
    -- Entries come in the order of their objects, so the entry of the last object is the last.
    have here : (o :: after).filterMap (fun o => (readPackage o).1) =
        e :: after.filterMap fun o => (readPackage o).1 := List.filterMap_cons_some he
    rw [split, List.filterMap_append, here, name_packageTable hk, Option.getD_some, hn]
    · exact .described last
    · intro d hd'
      obtain ⟨p, hp, read⟩ := List.mem_filterMap.1 hd'
      exact fun hk => others p hp ((hd.key_eq_iff (listed_after hp) read).1 hk)
  · have others : ∀ e ∈ (listed "packages" fields).filterMap fun o => (readPackage o).1,
        e.package.key ≠ .text path := by
      intro e he hk
      obtain ⟨o, ho, read⟩ := List.mem_filterMap.1 he
      exact some ⟨o, ho, (hd.key_eq_iff ho read).1 hk⟩
    rw [packageTable, name_foldl_of_ne others]
    exact .implied fun o ho describes => some ⟨o, ho, describes⟩

theorem callsPackage_iff {path : String} {name : Json} : CallsPackage fields path name ↔
    ((ofFields fields).world.packageAt (.text path)).name = name := by
  have world := hd.callsPackage_packageAt path
  constructor
  · intro document
    generalize ((ofFields fields).world.packageAt (.text path)).name = known at world
    cases world with
    | described last =>
      cases document with
      | described last' => rw [last.unique last']
      | implied none => exact absurd last.mem.2 (none _ last.mem.1)
    | implied none =>
      cases document with
      | described last => exact absurd last.mem.2 (none _ last.mem.1)
      | implied => rfl
  · rintro rfl
    exact world

/-! ## The main functions -/

theorem isMain_iff_packageAt {f : Function} (hf : f ∈ (ofFields fields).world.functions) :
    Analysis.isMain (ofFields fields).world.packages f = true ↔
      f.name = .text Analysis.mainName ∧ f.recv = none ∧ f.synthetic = none ∧
        ((ofFields fields).world.packageAt f.package).name = .text Analysis.mainName := by
  have found := World.find?_packages (hd.settled_world.functions f hf).known
  simp only [Analysis.isMain, found, Option.any_some, Package.isCalled, Function.isSynthetic,
    Bool.and_eq_true, decide_eq_true_eq, Bool.not_eq_true', Option.isNone_iff_eq_none,
    Option.isSome_eq_false_iff, text?_eq_some]
  tauto

theorem isMain_iff {f : Function} {id : String}
    (found : Roster.find? Function.id (.text id) (ofFields fields).world.functions = some f) :
    Analysis.isMain (ofFields fields).world.packages f = true ↔ IsMain fields id := by
  rw [hd.isMain_iff_packageAt (Roster.mem_of_find? found)]
  by_cases declared : ∃ o ∈ listed "functions" fields, Declares o id
  · obtain ⟨o, last⟩ := exists_isLast declared
    have ⟨before, after, split, declares, others⟩ := last
    obtain ⟨path, e, read, package, described⟩ := hd.find?_of_declares split declares others
    cases found.symm.trans described
    cases read
    constructor
    · rintro ⟨name, recv, synthetic, called⟩
      exact .declared last (Text.cutAtLast '.' id) name recv synthetic package
        (hd.callsPackage_iff.2 called)
    · intro main
      cases main with
      | declared last' cut name recv synthetic package' called =>
        cases last.unique last'
        cases package.symm.trans package'
        rw [← (Text.cutAtLast_iff.1 cut).2] at name
        exact ⟨name, recv, synthetic, hd.callsPackage_iff.1 called⟩
      | implied undeclared => exact absurd declares (undeclared o last.mem.1)
  · have undeclared : ∀ o ∈ listed "functions" fields, ¬ Declares o id :=
      fun o ho declares => declared ⟨o, ho, declares⟩
    have called : ∃ o ∈ listed "edges" fields, EndsAt o id := by
      have known : .text id ∈ (ofFields fields).world.functions.map Function.id :=
        Roster.find?_isSome.1 (by rw [found]; rfl)
      obtain ⟨i, same, declares | ends⟩ := hd.mem_ids_world.1 known
      · cases same
        exact absurd declares declared
      · cases same
        exact ends
    cases found.symm.trans (hd.find?_of_endsAt undeclared called)
    rw [World.implied_text]
    constructor
    · rintro ⟨name, -, -, package⟩
      exact .implied undeclared called (Text.cutAtLast '.' id) (Json.text.inj name)
        (hd.callsPackage_iff.2 package)
    · intro main
      cases main with
      | declared last => exact absurd last.mem.2 (undeclared _ last.mem.1)
      | implied _ _ cut name package =>
        obtain ⟨rfl, rfl⟩ := Text.cutAtLast_iff.1 cut
        exact ⟨congrArg Json.text name, rfl, rfl, hd.callsPackage_iff.1 package⟩

theorem names_iff {id : String} :
    Names fields id ↔ .text id ∈ (ofFields fields).world.functions.map Function.id := by
  rw [hd.mem_ids_world]
  constructor
  · exact fun names => ⟨id, rfl, names⟩
  · rintro ⟨i, same, names⟩
    cases same
    exact names

theorem mem_mains {x : Atom} :
    x ∈ Analysis.mains (ofFields fields).world.packages (ofFields fields).world.functions ↔
      ∃ id, x = .text id ∧ IsMain fields id := by
  have met {f : Function} (hf : f ∈ (ofFields fields).world.functions) : f.idAsMet = f.id :=
    Atom.shownAs_of_isText (hd.texts_world.functions f hf).1 _
  rw [Analysis.mains, Atom.mem_sortedBy, List.mem_map]
  constructor
  · rintro ⟨f, hm, rfl⟩
    obtain ⟨hf, main⟩ := List.mem_filter.1 hm
    obtain ⟨id, hid⟩ := Atom.isText_iff.1 (hd.texts_world.functions f hf).1
    have found := (Roster.find?_eq_some_iff hd.distinct_world.functions).2 ⟨hf, hid⟩
    exact ⟨id, (met hf).trans hid, (hd.isMain_iff found).1 main⟩
  · rintro ⟨id, rfl, main⟩
    obtain ⟨f, hf, hid⟩ := List.mem_map.1 (hd.names_iff.1 main.names)
    have found := (Roster.find?_eq_some_iff hd.distinct_world.functions).2 ⟨hf, hid⟩
    exact ⟨f, List.mem_filter.2 ⟨hf, (hd.isMain_iff found).2 main⟩, (met hf).trans hid⟩

theorem pairwise_mains :
    (Analysis.mains (ofFields fields).world.packages (ofFields fields).world.functions).Pairwise
      Atom.Before := by
  have ids : ((ofFields fields).world.functions.filter
      (Analysis.isMain (ofFields fields).world.packages)).map Function.idAsMet =
      ((ofFields fields).world.functions.filter
        (Analysis.isMain (ofFields fields).world.packages)).map Function.id :=
    List.map_congr_left fun f hf => Atom.shownAs_of_isText
      (hd.texts_world.functions f (List.mem_filter.1 hf).1).1 _
  have nodup := hd.distinct_world.functions.sublist
    ((List.filter_sublist (p := Analysis.isMain (ofFields fields).world.packages)).map Function.id)
  rw [Analysis.mains, ids, Atom.sortedBy_id_of_texts]
  · exact Atom.pairwise_sorted_of_nodup nodup
  · intro x hx
    obtain ⟨f, hf, rfl⟩ := List.mem_map.1 hx
    exact (hd.texts_world.functions f (List.mem_filter.1 hf).1).1

theorem exists_mains : ∃ ids : List String,
    Analysis.mains (ofFields fields).world.packages (ofFields fields).world.functions =
        ids.map .text ∧
      ids.Pairwise (· < ·) ∧ ∀ id, id ∈ ids ↔ IsMain fields id := by
  have mem := fun x => hd.mem_mains (x := x)
  have ordered := hd.pairwise_mains
  generalize Analysis.mains _ _ = mains at mem ordered
  obtain ⟨ids, rfl⟩ := Atom.exists_map_text fun x hx => by
    obtain ⟨id, rfl, -⟩ := (mem x).1 hx
    rfl
  refine ⟨ids, rfl, (List.pairwise_map.1 ordered).imp Atom.before_text.1, fun id => ?_⟩
  have mem := mem (.text id)
  simpa [eq_comm] using mem

/-! ## Where a program starts -/

theorem load_of_starts (clean : (ofFields fields).packageErrors = []) :
    (∀ ids, (ofFields fields).starts (ofFields fields).world = .ok ids →
      ∃ a, (ofFields fields).load = .ok a ∧ a.entryPoints = ids) ∧
    ∀ e, (ofFields fields).starts (ofFields fields).world = .error e →
      (ofFields fields).load = .error e := by
  constructor
  · intro ids hs
    exact ⟨_, load_eq_ok_iff.2 ⟨hd.packages, clean, hd.misfit?_eq_none, ids, hs, rfl⟩, rfl⟩
  · intro e hs
    rw [Document.load, hd.packages, clean, hd.misfit?_eq_none]
    dsimp only [List.isEmpty_nil, Bool.not_true]
    rw [hs]
    rfl

omit hd in
theorem starts_of_silent (silent : (fieldOf "entry_points" fields).isGiven = false)
    {ids : List String} (mains : Analysis.mains (ofFields fields).world.packages
      (ofFields fields).world.functions = ids.map .text) :
    (ofFields fields).starts (ofFields fields).world =
      if ids = [] then .error .noEntryPoint else .ok (ids.map .text) := by
  have section_eq : (ofFields fields).entryPoints = ⟨[], none⟩ :=
    if_neg (by rw [silent]; exact Bool.false_ne_true)
  have texts : Atom.ofOneKind (ids.map .text) = true := Atom.ofOneKind_map fun _ _ => rfl
  rw [Document.starts, section_eq]
  dsimp only
  rw [Analysis.discover, mains]
  cases ids with
  | nil => rfl
  | cons id ids => exact if_pos texts

theorem unknownStarts_eq {ids : List String}
    (entries : (ofFields fields).entryPoints.entries = ids.map .text) :
    (ofFields fields).unknownStarts (ofFields fields).world =
      (ids.filter fun id => ¬ Names fields id).map .text := by
  rw [Document.unknownStarts, entries, List.filter_map]
  congr 1
  refine List.filter_congr fun id _ => ?_
  change (!(Roster.find? Function.id (.text id) _).isSome) = _
  rw [Bool.eq_iff_iff, decide_eq_true_iff, hd.names_iff, ← Roster.find?_isSome, Bool.not_eq_true',
    Bool.not_eq_true]

theorem starts_of_named {ids : List String} (some : ids ≠ [])
    (named : fieldOf "entry_points" fields = .array (ids.map .text)) :
    (ofFields fields).starts (ofFields fields).world =
      if ∀ id ∈ ids, Names fields id then .ok (ids.map .text)
      else .error (.unknownEntryPoints (Text.sorted (ids.filter fun id => ¬ Names fields id))) := by
  have section_eq : (ofFields fields).entryPoints = ⟨ids.map .text, none⟩ := by
    have given : (fieldOf "entry_points" fields).isGiven = true := by
      rw [named]
      cases ids with
      | nil => exact absurd rfl some
      | cons id ids => rfl
    change (if (fieldOf "entry_points" fields).isGiven = true then _ else _) = _
    rw [if_pos given, named]
    exact Section.collect_all _
  have unknown := hd.unknownStarts_eq (congrArg Section.entries section_eq)
  obtain ⟨first, rest, rfl⟩ := List.exists_cons_of_ne_nil some
  rw [Document.starts, section_eq]
  dsimp only [List.map_cons]
  rw [unknown]
  by_cases known : ∀ id ∈ first :: rest, Names fields id
  · have none : (first :: rest).filter (fun id => ¬ Names fields id) = [] :=
      List.filter_eq_nil_iff.2 fun id hid => by simpa using known id hid
    have kept : ((first :: rest).map Json.text).filterMap Atom.ofJson? =
        (first :: rest).map Atom.text := by
      rw [List.filterMap_map, ← List.filterMap_eq_map]
      rfl
    rw [if_pos known, none]
    exact congrArg Except.ok kept
  · rw [if_neg known]
    cases unknown : (first :: rest).filter fun id => ¬ Names fields id with
    | nil =>
      refine absurd (fun id hid => ?_) known
      simpa using List.filter_eq_nil_iff.1 unknown id hid
    | cons id ids =>
      have texts : ((id :: ids).map Json.text).all Json.isText = true := by simp [isText, text?]
      have told : ((id :: ids).map Json.text).filterMap Json.text? = id :: ids := by
        rw [List.filterMap_map]
        exact List.filterMap_some
      change (if ((id :: ids).map Json.text).all Json.isText = true then _ else _) = _
      rw [if_pos texts, told]

end WellTyped

/-- What is loaded from a document that names no entry point starts at its main functions. -/
structure StartsAtMains (fields : List (String × Json)) : Prop where
  loads : (∃ a, (ofFields fields).load = .ok a) ↔ ∃ id, IsMain fields id
  mains : ∀ a, (ofFields fields).load = .ok a → ∃ ids : List String,
    a.entryPoints = ids.map .text ∧ ids.Pairwise (· < ·) ∧ ∀ id, id ∈ ids ↔ IsMain fields id
  none : (∀ id, ¬ IsMain fields id) → (ofFields fields).load = .error .noEntryPoint

/-- What is loaded from a document that names entry points starts at these, if the document speaks of
all of them. -/
structure StartsAt (fields : List (String × Json)) (ids : List String) : Prop where
  loads : (∃ a, (ofFields fields).load = .ok a) ↔ ∀ id ∈ ids, Names fields id
  kept : ∀ a, (ofFields fields).load = .ok a → a.entryPoints = ids.map .text
  unknown : (∃ id ∈ ids, ¬ Names fields id) → ∃ names,
    (ofFields fields).load = .error (.unknownEntryPoints names) ∧ names.Pairwise (· ≤ ·) ∧
      names.Perm (ids.filter fun id => ¬ Names fields id) ∧
      LoadError.message (.unknownEntryPoints names) =
        "Unknown entry points: " ++ ", ".intercalate names

namespace WellTyped

variable {fields : List (String × Json)} (hd : (ofFields fields).WellTyped)
  (clean : (ofFields fields).packageErrors = [])

include hd clean

theorem startsAtMains (silent : (fieldOf "entry_points" fields).isGiven = false) :
    StartsAtMains fields := by
  obtain ⟨ok, error⟩ := hd.load_of_starts clean
  obtain ⟨ids, mains, ordered, mem⟩ := hd.exists_mains
  have starts := starts_of_silent silent mains
  cases ids with
  | nil =>
    rw [if_pos rfl] at starts
    have fails := error _ starts
    have none (id : String) : ¬ IsMain fields id := fun main => nomatch (mem id).2 main
    refine ⟨iff_of_false ?_ fun ⟨id, main⟩ => none id main, ?_, fun _ => fails⟩
    · rintro ⟨a, ha⟩
      cases fails.symm.trans ha
    · intro a ha
      cases fails.symm.trans ha
  | cons id ids =>
    rw [if_neg (List.cons_ne_nil id ids)] at starts
    obtain ⟨a, ha, starting⟩ := ok _ starts
    have main := (mem id).1 List.mem_cons_self
    refine ⟨iff_of_true ⟨a, ha⟩ ⟨id, main⟩, fun b hb => ?_, fun none => absurd main (none id)⟩
    cases ha.symm.trans hb
    exact ⟨id :: ids, starting, ordered, mem⟩

theorem startsAt {ids : List String} (some : ids ≠ [])
    (named : fieldOf "entry_points" fields = .array (ids.map .text)) : StartsAt fields ids := by
  obtain ⟨ok, error⟩ := hd.load_of_starts clean
  have starts := hd.starts_of_named some named
  by_cases known : ∀ id ∈ ids, Names fields id
  · rw [if_pos known] at starts
    obtain ⟨a, ha, starting⟩ := ok _ starts
    refine ⟨iff_of_true ⟨a, ha⟩ known, fun b hb => ?_, ?_⟩
    · cases ha.symm.trans hb
      exact starting
    · rintro ⟨id, hid, unknown⟩
      exact absurd (known id hid) unknown
  · rw [if_neg known] at starts
    have fails := error _ starts
    refine ⟨iff_of_false ?_ known, ?_, fun _ => ⟨_, fails, Text.pairwise_sorted _,
      Text.sorted_perm _, rfl⟩⟩
    · rintro ⟨a, ha⟩
      cases fails.symm.trans ha
    · intro a ha
      cases fails.symm.trans ha

theorem starts_of_load :
    ((fieldOf "entry_points" fields).isGiven = false → StartsAtMains fields) ∧
      ∀ ids : List String, ids ≠ [] →
        fieldOf "entry_points" fields = .array (ids.map .text) → StartsAt fields ids :=
  ⟨hd.startsAtMains clean, fun _ => hd.startsAt clean⟩

end WellTyped

def starting (ids : List String) : List (String × Json) :=
  ("entry_points", .array (ids.map .text)) :: patchwork

theorem isMain_patchwork : IsMain patchwork "app.main" := by
  have last : IsLast (Declares · "app.main") _ (listed "functions" patchwork) :=
    ⟨[_, _], [], rfl, by decide, by simp⟩
  have package : IsLast (Describes · "app") _ (listed "packages" patchwork) :=
    ⟨[_], [], rfl, by decide, by simp⟩
  exact .declared last (Text.cutAtLast '.' _) (by cbv) rfl rfl rfl (.described package)

theorem starts_of_load_patchwork :
    (ofFields patchwork).WellTyped ∧ (ofFields patchwork).packageErrors = [] ∧
      (∃ a, (ofFields patchwork).load = .ok a ∧ .text "app.main" ∈ a.entryPoints) ∧
      (ofFields (starting ["x", "log.", "x"])).WellTyped ∧
      (∃ a, (ofFields (starting ["x", "log.", "x"])).load = .ok a ∧
        a.entryPoints = [.text "x", .text "log.", .text "x"]) ∧
      ∃ names, (ofFields (starting ["lost", "x", "gone", "lost"])).load =
        .error (.unknownEntryPoints names) ∧ names.Perm ["lost", "gone", "lost"] ∧
        LoadError.message (.unknownEntryPoints names) =
          "Unknown entry points: gone, lost, lost" := by
  have clean : (ofFields patchwork).packageErrors = [] := by decide
  have typed : (ofFields (starting ["x", "log.", "x"])).WellTyped := by decide
  have typed' : (ofFields (starting ["lost", "x", "gone", "lost"])).WellTyped := by decide
  have mains := (wellTyped_patchwork.starts_of_load clean).1 rfl
  have known := (typed.starts_of_load clean).2 _ (by decide) rfl
  have unknown := (typed'.starts_of_load clean).2 _ (by decide) rfl
  obtain ⟨a, ha⟩ := mains.loads.2 ⟨_, isMain_patchwork⟩
  obtain ⟨ids, starts, -, mem⟩ := mains.mains a ha
  obtain ⟨b, hb⟩ := known.loads.2 (by decide)
  obtain ⟨names, fails, sorted, perm, message⟩ := unknown.unknown (by decide)
  have strangers : names.Perm ["lost", "gone", "lost"] := perm
  have told : names = ["gone", "lost", "lost"] :=
    (strangers.trans (by decide)).eq_of_pairwise (fun _ _ _ _ => String.le_antisymm) sorted
      (by decide)
  refine ⟨wellTyped_patchwork, clean, ⟨a, ha, ?_⟩, typed, ⟨b, hb, known.kept b hb⟩, names, fails,
    strangers, message.trans (by rw [told]; decide)⟩
  rw [starts]
  exact List.mem_map_of_mem ((mem _).2 isMain_patchwork)

end Document

end CallAtlas
