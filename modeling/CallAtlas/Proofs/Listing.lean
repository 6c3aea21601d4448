import CallAtlas.CommandLine.Outcome
import CallAtlas.Proofs.ClosedWorld
import CallAtlas.Proofs.Drawing
import Mathlib.Algebra.BigOperators.Group.Finset.Basic

set_option autoImplicit false

/-!
# The listing of packages

The command that lists packages prints a row for each package that passes its filters, and the rows
come by path. A row says how many functions are in the package. Once a document is loaded the package
of every function is known, so nothing is left out of a full listing: its counts add up to the number
of functions.
-/

namespace CallAtlas

namespace Text

theorem afterStyle?_append_linefeed (cs ds : List Char) :
    afterStyle? (cs ++ '\n' :: ds) = (afterStyle? cs).map (· ++ '\n' :: ds) := by
  have last : isStyleParameter '\n' = false := by decide
  rw [afterStyle?, afterStyle?, List.dropWhile_append]
  cases rest : cs.dropWhile isStyleParameter with
  | nil => simp [last]
  | cons c cs =>
    by_cases letter : c.isAlpha <;> simp [letter]

section

variable {c : Char} {cs rest after : List Char}

theorem unstyledChars_of_ne (h : c ≠ '\x1b') : unstyledChars (c :: cs) = c :: unstyledChars cs := by
  rw [unstyledChars.eq_def (c :: cs)]
  exact if_neg h

theorem unstyledChars_of_plain (plain : '\x1b' ∉ cs) : unstyledChars cs = cs := by
  induction cs with
  | nil => cbv
  | cons c cs ih =>
    rw [List.mem_cons, not_or] at plain
    rw [unstyledChars_of_ne (Ne.symm plain.1), ih plain.2]

theorem unstyledChars_style (h : afterStyle? rest = some after) :
    unstyledChars ('\x1b' :: '[' :: rest) = unstyledChars after := by
  rw [unstyledChars, if_pos rfl]
  split
  · simp_all
  · simp_all

theorem unstyledChars_no_style (h : afterStyle? rest = none) :
    unstyledChars ('\x1b' :: '[' :: rest) = '\x1b' :: unstyledChars ('[' :: rest) := by
  rw [unstyledChars, if_pos rfl]
  split
  · simp_all
  · rfl

theorem unstyledChars_escape (h : ∀ rest, cs ≠ '[' :: rest) :
    unstyledChars ('\x1b' :: cs) = '\x1b' :: unstyledChars cs := by
  rw [unstyledChars, if_pos rfl]
  exact h

end

theorem unstyledChars_append_linefeed (cs ds : List Char) :
    unstyledChars (cs ++ '\n' :: ds) = unstyledChars cs ++ '\n' :: unstyledChars ds := by
  fun_induction unstyledChars cs with
  | case1 => exact unstyledChars_of_ne (by decide)
  | case2 rest after style ih =>
    have longer : afterStyle? (rest ++ '\n' :: ds) = some (after ++ '\n' :: ds) := by
      rw [afterStyle?_append_linefeed, style]
      rfl
    exact (unstyledChars_style longer).trans ih
  | case3 rest none ih =>
    have longer : afterStyle? (rest ++ '\n' :: ds) = Option.none := by
      rw [afterStyle?_append_linefeed, none]
      rfl
    exact (unstyledChars_no_style longer).trans (congrArg ('\x1b' :: ·) ih)
  | case4 cs other ih =>
    have plain : ∀ rest, cs ++ '\n' :: ds ≠ '[' :: rest := by
      intro rest same
      cases cs with
      | nil => cases same
      | cons c cs =>
        rw [List.cons_append, List.cons.injEq] at same
        exact other cs (by rw [same.1])
    exact (unstyledChars_escape plain).trans (congrArg ('\x1b' :: ·) ih)
  | case5 c cs other ih => exact (unstyledChars_of_ne other).trans (congrArg (c :: ·) ih)

end Text

namespace CommandLine

def printedLine (l : String) : Text.Bytes := Text.Utf8.encode (Text.unstyled l ++ "\n")

theorem lines_cons (l : String) (ls : List String) : lines (l :: ls) = printedLine l ++ lines ls := by
  have apart : Text.unstyled (String.join ((l :: ls).map (· ++ "\n"))) =
      Text.unstyled l ++ "\n" ++ Text.unstyled (String.join (ls.map (· ++ "\n"))) := by
    apply String.toList_injective
    simp [Text.unstyled, Text.unstyledChars_append_linefeed]
  rw [lines, apart, Text.Utf8.encode_append]
  rfl

theorem printedLine_of_plain {l : String} (plain : '\x1b' ∉ l.toList) :
    printedLine l = Text.Utf8.encode (l ++ "\n") := by
  rw [printedLine, Text.unstyled, Text.unstyledChars_of_plain plain, String.ofList_toList]

theorem lines_eq_flatMap (ls : List String) : lines ls = ls.flatMap printedLine := by
  induction ls with
  | nil => cbv
  | cons l ls ih => rw [lines_cons, ih, List.flatMap_cons]

structure Row where
  path : String
  name : String
  count : Nat
  std : Bool
  deriving DecidableEq, Repr

/-- A text at the left of a column. -/
def LeftIn (width : Nat) (s cell : String) : Prop :=
  ∃ n, cell = s ++ String.ofList (List.replicate n ' ') ∧ cell.length = max width s.length

/-- A text at the right of a column. -/
def RightIn (width : Nat) (s cell : String) : Prop :=
  ∃ n, cell = String.ofList (List.replicate n ' ') ++ s ∧ cell.length = max width s.length

section

variable {width : Nat} {s cell cell' : String}

theorem leftIn_padRight (width : Nat) (s : String) : LeftIn width s (padRight width s) := by
  refine ⟨width - s.length, rfl, ?_⟩
  rw [padRight, String.length_append, String.length_ofList, List.length_replicate]
  omega

theorem rightIn_padLeft (width : Nat) (s : String) : RightIn width s (padLeft width s) := by
  refine ⟨width - s.length, rfl, ?_⟩
  rw [padLeft, String.length_append, String.length_ofList, List.length_replicate]
  omega

theorem LeftIn.unique (h : LeftIn width s cell) (h' : LeftIn width s cell') : cell = cell' := by
  obtain ⟨n, rfl, length⟩ := h
  obtain ⟨n', rfl, length'⟩ := h'
  have same : n = n' := by simpa using length.trans length'.symm
  rw [same]

theorem RightIn.unique (h : RightIn width s cell) (h' : RightIn width s cell') : cell = cell' := by
  obtain ⟨n, rfl, length⟩ := h
  obtain ⟨n', rfl, length'⟩ := h'
  have same : n = n' := by simpa using length.trans length'.symm
  rw [same]

end

namespace Row

/-- The line of a row: path, name and count in columns, and a mark if the package is standard. -/
inductive Written (r : Row) : String → Prop where
  | columns {path name count : String} : LeftIn 50 r.path path → LeftIn 20 r.name name →
    RightIn 6 (toString r.count) count → Written r
      (path ++ " " ++ name ++ " " ++ count ++ " functions" ++ if r.std then " [std]" else "")

def line (r : Row) : String :=
  padRight 50 r.path ++ " " ++ padRight 20 r.name ++ " " ++ padLeft 6 (toString r.count) ++
    " functions" ++ if r.std then " [std]" else ""

theorem written_iff {r : Row} {l : String} : r.Written l ↔ l = r.line := by
  constructor
  · rintro ⟨path, name, count⟩
    rw [path.unique (leftIn_padRight 50 _), name.unique (leftIn_padRight 20 _),
      count.unique (rightIn_padLeft 6 _)]
    rfl
  · rintro rfl
    exact .columns (leftIn_padRight 50 _) (leftIn_padRight 20 _) (rightIn_padLeft 6 _)

theorem forall₂_written_iff {rows : List Row} {ls : List String} :
    List.Forall₂ Written rows ls ↔ ls = rows.map line := by
  have written : Written = fun r l => r.line = l := by
    funext r l
    exact propext (written_iff.trans eq_comm)
  rw [written, ← List.forall₂_map_left_iff (R := Eq), List.forall₂_eq_eq_eq, eq_comm]

def ofPackage (a : Analysis) (p : Package) : Row :=
  { path := p.path.inSentence, name := p.name.inSentence, count := functionCount a p.path
    std := p.std }

structure Describes (a : Analysis) (p : Package) (r : Row) : Prop where
  path : p.path = .text r.path
  name : p.name = .text r.name
  count : r.count = (a.functions.filter fun f => f.package = p.path).length
  std : r.std = p.std

theorem Describes.unique {a : Analysis} {p : Package} {r s : Row} (hr : Describes a p r)
    (hs : Describes a p s) : r = s := by
  have path : r.path = s.path := Atom.text.inj (hr.path.symm.trans hs.path)
  have name : r.name = s.name := Json.text.inj (hr.name.symm.trans hs.name)
  have count : r.count = s.count := hr.count.trans hs.count.symm
  have std : r.std = s.std := hr.std.trans hs.std.symm
  cases r
  cases s
  simp_all

end Row

/-- A package has the name that is asked for, if one is, and is none that is hidden. -/
def Passes (name : String) (hideStd : Bool) (p : Package) : Prop :=
  (name ≠ "" → p.name = .text name) ∧ (hideStd = true → p.std = false)

/-- Rows that list an analysis: one for each package that passes and no other, by path. Without
filters they count every function. -/
structure Listing (a : Analysis) (name : String) (hideStd : Bool) (rows : List Row) : Prop where
  ordered : rows.Pairwise fun r s => r.path < s.path
  complete : ∀ p ∈ a.packages, Passes name hideStd p → ∃! r, r ∈ rows ∧ Row.Describes a p r
  sound : ∀ r ∈ rows, ∃ p ∈ a.packages, Passes name hideStd p ∧ Row.Describes a p r
  total : name = "" → hideStd = false → (rows.map Row.count).sum = a.functions.length

namespace Listing

variable {a : Analysis} {name : String} {hideStd : Bool} {rows rows' : List Row}

theorem nodup (h : Listing a name hideStd rows) : rows.Nodup :=
  h.ordered.imp fun {r s} (before : r.path < s.path) same => lt_irrefl s.path (same ▸ before)

theorem subset (h : Listing a name hideStd rows) (h' : Listing a name hideStd rows') :
    rows ⊆ rows' := by
  intro r hr
  obtain ⟨p, hp, passes, described⟩ := h.sound r hr
  obtain ⟨s, ⟨hs, described'⟩, -⟩ := h'.complete p hp passes
  rwa [described.unique described']

/-- There is one way to list an analysis. -/
theorem unique (h : Listing a name hideStd rows) (h' : Listing a name hideStd rows') :
    rows = rows' := by
  have perm : rows.Perm rows' := (List.perm_ext_iff_of_nodup h.nodup h'.nodup).2
    fun _ => ⟨(h.subset h' ·), (h'.subset h ·)⟩
  exact perm.eq_of_pairwise (fun _ _ _ _ before after => (lt_asymm before after).elim) h.ordered
    h'.ordered

end Listing

/-- Paths and names are texts, each path is met once, and the package of every function is met. -/
structure Listable (a : Analysis) : Prop where
  nodup : (a.packages.map Package.path).Nodup
  paths : ∀ p ∈ a.packages, p.path.isText
  names : ∀ p ∈ a.packages, p.name.isText
  homes : ∀ f ∈ a.functions, f.package ∈ a.packages.map Package.path

section

variable {a : Analysis} {name : String} {hideStd : Bool} {p : Package}

theorem mem_listed : p ∈ listed a name hideStd ↔ p ∈ a.packages ∧ Passes name hideStd p := by
  have called : p.isCalled name = true ↔ p.name = .text name := by
    rw [Package.isCalled, decide_eq_true_iff, Json.text?_eq_some]
  rw [listed, List.mem_filter, Atom.mem_sortedBy, Passes, ← called]
  refine and_congr_right fun _ => ?_
  by_cases empty : name = "" <;> cases hideStd <;> simp [empty]

namespace Listable

variable (h : Listable a)

include h

theorem pathAsMet_eq (hp : p ∈ a.packages) : p.pathAsMet = p.path :=
  Atom.shownAs_of_isText (h.paths p hp) p.met

theorem pairwise_listed : (listed a name hideStd).Pairwise fun p q => Atom.Before p.path q.path := by
  have texts : ∀ p ∈ a.packages, p.pathAsMet.isText := fun p hp => by
    rw [h.pathAsMet_eq hp]
    exact h.paths p hp
  have nodup : (a.packages.map Package.pathAsMet).Nodup := by
    rw [List.map_congr_left fun p hp => h.pathAsMet_eq hp]
    exact h.nodup
  have sorts : SortsBy Atom.Before Package.pathAsMet fun p q => p.pathAsMet.le q.pathAsMet :=
    fun _ _ => Atom.le_iff
  have sorted := sorts.pairwise_mergeSort nodup
  rw [← Atom.sortedBy_of_texts texts] at sorted
  refine (sorted.filter _).imp_of_mem fun {p q} hp hq before => ?_
  rwa [h.pathAsMet_eq (mem_listed.1 hp).1, h.pathAsMet_eq (mem_listed.1 hq).1] at before

theorem functionCount_eq (hp : p ∈ a.packages) :
    functionCount a p.path = (a.functions.filter fun f => f.package = p.path).length := by
  rw [functionCount, List.countP_eq_length_filter]
  congr 1
  refine List.filter_congr fun f hf => ?_
  obtain ⟨q, hq, home⟩ := List.mem_map.1 (h.homes f hf)
  rw [← home, Atom.same, Atom.key_of_isText (h.paths q hq), Atom.key_of_isText (h.paths p hp)]

theorem describes_ofPackage (hp : p ∈ a.packages) : Row.Describes a p (Row.ofPackage a p) := by
  obtain ⟨path, hpath⟩ := Atom.isText_iff.1 (h.paths p hp)
  obtain ⟨name, hname⟩ := Json.isText_iff.1 (h.names p hp)
  refine ⟨?_, ?_, h.functionCount_eq hp, rfl⟩
  · rw [Row.ofPackage, hpath]
    rfl
  · rw [Row.ofPackage, hname]
    rfl

theorem packageLine?_eq (hp : p ∈ a.packages) :
    packageLine? a p = some (Row.ofPackage a p).line := by
  obtain ⟨path, hpath⟩ := Atom.isText_iff.1 (h.paths p hp)
  obtain ⟨name, hname⟩ := Json.isText_iff.1 (h.names p hp)
  rw [packageLine?, h.pathAsMet_eq hp, Row.ofPackage, hpath, hname]
  rfl

theorem sum_counts : ((listed a "" false).map (functionCount a ·.path)).sum = a.functions.length := by
  have perm : (listed a "" false).Perm a.packages := by
    have all : listed a "" false = Atom.sortedBy Package.pathAsMet a.packages :=
      List.filter_eq_self.2 fun p _ => by simp
    rw [all]
    exact Atom.sortedBy_perm _ _
  have counts : ∀ p ∈ a.packages,
      functionCount a p.path = (a.functions.map Function.package).count p.path := by
    intro p hp
    rw [h.functionCount_eq hp, List.count, List.countP_map, List.countP_eq_length_filter]
    rfl
  have known : ∀ path ∈ (a.functions.map Function.package : Multiset Atom),
      path ∈ (a.packages.map Package.path).toFinset := by
    simpa using h.homes
  have total := Multiset.sum_count_eq_card known
  rw [List.sum_toFinset _ h.nodup, List.map_map] at total
  rw [(perm.map _).sum_eq, List.map_congr_left counts]
  simpa [Function.comp_def] using total

theorem listing_rows :
    Listing a name hideStd ((listed a name hideStd).map (Row.ofPackage a)) where
  ordered := by
    refine List.pairwise_map.2 (h.pairwise_listed.imp_of_mem fun {p q} hp hq before => ?_)
    rw [(h.describes_ofPackage (mem_listed.1 hp).1).path,
      (h.describes_ofPackage (mem_listed.1 hq).1).path] at before
    exact Atom.before_text.1 before
  complete p hp passes := by
    have described := h.describes_ofPackage hp
    refine ⟨Row.ofPackage a p, ⟨List.mem_map_of_mem (mem_listed.2 ⟨hp, passes⟩), described⟩, ?_⟩
    exact fun r hr => hr.2.unique described
  sound r hr := by
    obtain ⟨p, hp, rfl⟩ := List.mem_map.1 hr
    obtain ⟨hp, passes⟩ := mem_listed.1 hp
    exact ⟨p, hp, passes, h.describes_ofPackage hp⟩
  total empty shown := by
    subst empty shown
    rw [List.map_map]
    exact h.sum_counts

theorem packagesOutcome_eq : packagesOutcome a name hideStd =
    { output :=
        if listed a name hideStd = [] then Text.Utf8.encode "No packages matched.\n"
        else ((listed a name hideStd).map (Row.ofPackage a)).flatMap (printedLine ·.line) } := by
  have kind : Atom.ofOneKind (a.packages.map Package.path) = true := Atom.ofOneKind_map h.paths
  have rows : (listed a name hideStd).mapM (packageLine? a) =
      some ((listed a name hideStd).map fun p => (Row.ofPackage a p).line) :=
    Dot.mapM_eq_pure fun p hp => h.packageLine?_eq (mem_listed.1 hp).1
  rw [packagesOutcome, kind, rows]
  cases listed a name hideStd with
  | nil =>
    have plain : printedLine "No packages matched." = Text.Utf8.encode "No packages matched.\n" :=
      printedLine_of_plain (by decide)
    simp [lines_eq_flatMap, plain]
  | cons p ps => simp [lines_eq_flatMap, List.flatMap_map]

end Listable

end

end CommandLine

namespace Document

open CommandLine

namespace WellTyped

variable {d : Document} {a : Analysis} (hd : d.WellTyped) (h : d.load = .ok a)

include hd h

theorem listable_of_load : Listable a := by
  have catalogued := hd.catalogued_of_load h
  have closed := hd.closed_of_load h
  refine ⟨?_, catalogued.paths, ?_, fun f hf => ?_⟩
  · have keys : a.packages.map Package.key = a.packages.map Package.path :=
      List.map_congr_left fun p hp => Atom.key_of_isText (catalogued.paths p hp)
    exact keys ▸ catalogued.nodup_paths
  · obtain ⟨-, -, -, ids, -, rfl⟩ := load_eq_ok_iff.1 h
    exact hd.names_world
  · obtain ⟨p, hp, path, -⟩ := closed.homes f hf
    exact path ▸ List.mem_map_of_mem (Roster.mem_of_find? hp)

/-- The packages of a document that is well typed are listed by the lines of their rows, or by a line
that says that there are none, and nothing else is printed. -/
theorem listing_of_load (input name : String) (hideStd : Bool) (m : Machine) :
    ∃ rows ls, Listing a name hideStd rows ∧ List.Forall₂ Row.Written rows ls ∧
      (Command.packages input name hideStd).outcome a m =
        { output :=
            if rows = [] then Text.Utf8.encode "No packages matched.\n"
            else ls.flatMap printedLine } ∧
      ∀ l ∈ ls, '\x1b' ∉ l.toList → printedLine l = Text.Utf8.encode (l ++ "\n") := by
  have listable := hd.listable_of_load h
  refine ⟨_, _, listable.listing_rows, Row.forall₂_written_iff.2 rfl, ?_,
    fun _ _ => printedLine_of_plain⟩
  rw [Command.outcome, listable.packagesOutcome_eq]
  simp only [List.map_eq_nil_iff, List.flatMap_map]

end WellTyped

/-- One package is met only as the place of a function that is called, and one has no function. -/
def inventory : List (String × Json) :=
  [("packages", .array [
      .object [("path", .text "fmt"), ("name", .text "fmt"), ("std", .bool true)],
      .object [("path", .text "app"), ("name", .text "main")],
      .object [("path", .text "x/fmt"), ("name", .text "fmt")]]),
    ("functions", .array [
      .object [("id", .text "app.main"), ("package", .text "app")],
      .object [("id", .text "app.help"), ("package", .text "app")],
      .object [("id", .text "fmt.Print"), ("package", .text "fmt")]]),
    ("edges", .array [
      .object [("caller", .text "app.main"), ("callee", .text "log.Print")],
      .object [("caller", .text "app.main"), ("callee", .text "fmt.Print")]])]

def inventoryRows : List Row :=
  [⟨"app", "main", 2, false⟩, ⟨"fmt", "fmt", 1, true⟩, ⟨"log", "log", 1, false⟩,
    ⟨"x/fmt", "fmt", 0, false⟩]

def inventoryLines : List String :=
  ["app                                                main                      2 functions",
    "fmt                                                fmt                       1 functions [std]",
    "log                                                log                       1 functions",
    "x/fmt                                              fmt                       0 functions"]

theorem listing_of_load_inventory :
    (ofFields inventory).WellTyped ∧ ∃ a, (ofFields inventory).load = .ok a ∧
      Listing a "" false inventoryRows ∧
      List.Forall₂ Row.Written inventoryRows inventoryLines ∧
      ∀ m, (Command.packages "graph.json" "" false).outcome a m =
        { output := inventoryLines.flatMap fun l => Text.Utf8.encode (l ++ "\n") } := by
  have typed : (ofFields inventory).WellTyped := by decide
  have rows : (ofFields inventory).load.toOption.map (fun a =>
      (CommandLine.listed a "" false).map (Row.ofPackage a)) = some inventoryRows := by cbv
  obtain ⟨a, ha, rows⟩ := exists_ok_of_map rows
  have listing : Listing a "" false _ := (typed.listable_of_load ha).listing_rows
  rw [rows] at listing
  have lines : inventoryLines = inventoryRows.map Row.line := by decide
  have written := Row.forall₂_written_iff.2 lines
  refine ⟨typed, a, ha, listing, written, fun m => ?_⟩
  obtain ⟨rows', ls, listing', written', output, plain⟩ :=
    typed.listing_of_load ha "graph.json" "" false m
  obtain rfl := listing'.unique listing
  obtain rfl : ls = inventoryLines := (Row.forall₂_written_iff.1 written').trans lines.symm
  have unstyled : ∀ l ∈ inventoryLines, '\x1b' ∉ l.toList := by decide
  have printed : inventoryLines.map printedLine =
      inventoryLines.map fun l => Text.Utf8.encode (l ++ "\n") :=
    List.map_congr_left fun l hl => plain l hl (unstyled l hl)
  rw [output, if_neg (by decide), List.flatMap_def, List.flatMap_def, printed]

end Document

end CallAtlas
