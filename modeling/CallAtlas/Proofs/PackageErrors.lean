import CallAtlas.Proofs.Declarations

set_option autoImplicit false

/-!
# Errors of packages

A document lists its packages as objects, and each object may list what is wrong with its package.
Whether a document is refused for that is told here by the objects alone: only those with a path
count, wherever they stand and whatever else the document says.
-/

namespace CallAtlas

namespace Section

theorem objects_array (os : List (List (String × Json))) :
    objects (some (.array (os.map .object))) = os := by
  rw [objects, List.filterMap_map]
  exact List.filterMap_some

theorem misfit_ofObjects {α : Type} {read : List (String × Json) → Reading α}
    {os : List (List (String × Json))} (fits : ∀ o ∈ os, (read o).2 = none) :
    (ofObjects read (some (.array (os.map .object)))).misfit = none := by
  refine collect_misfit.2 fun v hv => ?_
  obtain ⟨o, ho, rfl⟩ := List.mem_map.1 hv
  exact fits o ho

end Section

namespace Document

open Json

variable {o : List (String × Json)} {d : Document}

/-- A package is told of in texts, as far as anything is told of it. -/
structure PackageTexts (o : List (String × Json)) : Prop where
  path : (fieldOf "path" o).isNull ∨ (fieldOf "path" o).isText
  name : (fieldOf "name" o).isNull ∨ (fieldOf "name" o).isText
  errors : (fieldOf "errors" o).isNull ∨
    ∃ messages : List String, fieldOf "errors" o = .array (messages.map .text)

def errorsIn (o : List (String × Json)) : List String :=
  match fieldOf "errors" o with
  | .array items => items.filterMap text?
  | _ => []

def hasPath (o : List (String × Json)) : Bool := (fieldOf "path" o).isGiven

/-- The errors of an object that count, each with the path of the package. -/
def reportsIn (o : List (String × Json)) : List (String × String) :=
  if hasPath o then (errorsIn o).map fun message => ((fieldOf "path" o).inSentence, message) else []

theorem reportsIn_ne_nil : reportsIn o ≠ [] ↔ hasPath o ∧ errorsIn o ≠ [] := by
  unfold reportsIn
  cases hasPath o <;> simp

namespace PackageTexts

variable (h : PackageTexts o)

include h

theorem exists_path (given : hasPath o) : ∃ path, fieldOf "path" o = .text path := by
  refine isText_iff.1 (h.path.resolve_left fun null => ?_)
  unfold hasPath at given
  cases hp : fieldOf "path" o <;> simp [hp, isNull, isGiven] at null given

theorem errors_elements :
    (if (fieldOf "errors" o).isGiven then Section.elements? (fieldOf "errors" o) else some []) =
      some ((errorsIn o).map .text) := by
  rcases h.errors with null | ⟨messages, he⟩
  · cases he : fieldOf "errors" o <;> simp [he, isNull] at null
    simp [errorsIn, he, isGiven]
  · have texts : messages.filterMap (text? ∘ Json.text) = messages := List.filterMap_some
    rw [errorsIn, he]
    dsimp only
    rw [List.filterMap_map, texts]
    cases messages <;> simp [isGiven, Section.elements?]

theorem readPackage_spec :
    (readPackage o).2 = none ∧
      ((readPackage o).1.toList.flatMap fun e =>
        e.errors.map fun message => (e.path.inSentence, message)) = reportsIn o := by
  unfold readPackage reportsIn
  dsimp only
  rw [h.errors_elements]
  cases given : hasPath o with
  | false =>
    unfold hasPath at given
    simp [given]
  | true =>
    obtain ⟨path, hp⟩ := h.exists_path given
    unfold hasPath at given
    rw [hp] at given ⊢
    simp [given, isText, text?, Atom.ofJson?, inSentence, Function.comp_def]

end PackageTexts

/-- A document whose packages can be read is refused for the errors in them before anything else. -/
theorem load_eq_packageErrors_iff (fits : d.packages.misfit = none) {messages : List String} :
    d.load = .error (.packageErrors messages) ↔
      d.packageErrors ≠ [] ∧ messages = d.packageErrors.map fun e => e.1 ++ ": " ++ e.2 := by
  unfold load
  rw [fits]
  dsimp only
  cases errors : d.packageErrors with
  | cons e es => simp [eq_comm]
  | nil =>
    -- The other stages have errors of their own.
    have starts : d.starts d.world ≠ .error (.packageErrors messages) := by
      unfold starts Analysis.discover
      grind
    cases d.misfit? with
    | some m => simp
    | none =>
      cases hs : d.starts d.world with
      | ok ids => simp
      | error e => simpa [hs] using starts

/-- A document with these packages is refused for their errors if an object with a path lists one,
and is then refused for nothing else. -/
structure ReportsErrors (d : Document) (packages : List (List (String × Json))) : Prop where
  refused : (∃ messages, d.load = .error (.packageErrors messages)) ↔
    ∃ o ∈ packages, hasPath o ∧ errorsIn o ≠ []
  messages : ∀ messages, d.load = .error (.packageErrors messages) →
    messages = (packages.flatMap reportsIn).map fun e => e.1 ++ ": " ++ e.2
  logged : d.events = (packages.flatMap reportsIn).map fun e => .packageError e.1 e.2

theorem packageErrors_ofFields {fields : List (String × Json)}
    {packages : List (List (String × Json))}
    (listed : fieldOf? "packages" fields = some (.array (packages.map .object)))
    (texts : ∀ o ∈ packages, PackageTexts o) :
    (ofFields fields).packages.misfit = none ∧
      (ofFields fields).packageErrors = packages.flatMap reportsIn := by
  have section_eq : (ofFields fields).packages =
      .ofObjects readPackage (some (.array (packages.map .object))) := by rw [← listed]; rfl
  have fits := Section.misfit_ofObjects fun o ho => (texts o ho).readPackage_spec.1
  rw [packageErrors, section_eq, Section.entries_ofObjects fits, Section.objects_array,
    List.filterMap_eq_flatMap_toList, List.flatMap_assoc]
  exact ⟨fits, List.flatMap_congr fun o ho => (texts o ho).readPackage_spec.2⟩

theorem reportsErrors_of_texts {fields : List (String × Json)}
    {packages : List (List (String × Json))}
    (listed : fieldOf? "packages" fields = some (.array (packages.map .object)))
    (texts : ∀ o ∈ packages, PackageTexts o) : (ofFields fields).ReportsErrors packages := by
  obtain ⟨fits, errors⟩ := packageErrors_ofFields listed texts
  have some : packages.flatMap reportsIn ≠ [] ↔
      ∃ o ∈ packages, hasPath o ∧ errorsIn o ≠ [] := by
    simp only [ne_eq, List.flatMap_eq_nil_iff, not_forall, exists_prop, ← reportsIn_ne_nil]
  refine ⟨?_, ?_, ?_⟩
  · simp only [load_eq_packageErrors_iff fits, errors, some, exists_and_left, exists_eq, and_true]
  · intro messages refused
    rw [load_eq_packageErrors_iff fits, errors] at refused
    exact refused.2
  · rw [events, errors]

/-- A program of which one package does not compile. It names an entry point that nothing is known
of, and no list of edges. -/
def brokenPackages : List (List (String × Json)) :=
  [[("path", .text "app"), ("name", .text "main"), ("errors", .array [])],
    [("path", .text "lib"), ("errors", .array [.text "lib/a.go:3: undefined: x"])]]

def broken : List (String × Json) :=
  [("packages", .array (brokenPackages.map .object)), ("edges", .null),
    ("entry_points", .array [.text "app.main"])]

theorem packageTexts_brokenPackages : ∀ o ∈ brokenPackages, PackageTexts o := by
  simp only [brokenPackages, List.forall_mem_cons, List.not_mem_nil, false_imp_iff, implies_true,
    and_true]
  exact ⟨⟨.inr (by decide), .inr (by decide), .inr ⟨[], rfl⟩⟩,
    ⟨.inr (by decide), .inl (by decide), .inr ⟨["lib/a.go:3: undefined: x"], rfl⟩⟩⟩

theorem reportsErrors_broken :
    fieldOf? "packages" broken = some (.array (brokenPackages.map .object)) ∧
      (∀ o ∈ brokenPackages, PackageTexts o) ∧ (ofFields broken).ReportsErrors brokenPackages ∧
      (ofFields broken).load = .error (.packageErrors ["lib: lib/a.go:3: undefined: x"]) := by
  have reports : (ofFields broken).ReportsErrors brokenPackages :=
    reportsErrors_of_texts rfl packageTexts_brokenPackages
  obtain ⟨messages, refused⟩ := reports.refused.2 (by decide)
  have told : messages = ["lib: lib/a.go:3: undefined: x"] :=
    (reports.messages messages refused).trans (by decide)
  exact ⟨rfl, packageTexts_brokenPackages, reports, told ▸ refused⟩

/-- A program that starts, with a package that has no path and does not compile. -/
def pathlessPackages : List (List (String × Json)) :=
  [[("path", .text "main"), ("name", .text "main")],
    [("path", .text ""), ("name", .text "lib"),
      ("errors", .array [.text "lib/parse.go:3:1: undefined: x"])]]

def pathless : List (String × Json) :=
  [("packages", .array (pathlessPackages.map .object)),
    ("functions", .array [.object
      [("id", .text "main.main"), ("name", .text "main"), ("package", .text "main")]])]

theorem packageTexts_pathlessPackages : ∀ o ∈ pathlessPackages, PackageTexts o := by
  simp only [pathlessPackages, List.forall_mem_cons, List.not_mem_nil, false_imp_iff, implies_true,
    and_true]
  exact ⟨⟨.inr (by decide), .inr (by decide), .inl (by decide)⟩,
    ⟨.inr (by decide), .inr (by decide), .inr ⟨["lib/parse.go:3:1: undefined: x"], rfl⟩⟩⟩

/-- Errors without a path are ignored: the program is loaded, and nothing is said of them. -/
theorem errors_without_path_ignored :
    (∃ o ∈ pathlessPackages, errorsIn o ≠ []) ∧
      (∃ a, (ofFields pathless).load = .ok a) ∧ (ofFields pathless).events = [] ∧
      ¬ ∀ (fields : List (String × Json)) (packages : List (List (String × Json))),
        fieldOf? "packages" fields = some (.array (packages.map .object)) →
        (∀ o ∈ packages, PackageTexts o) →
        ((∃ messages, (ofFields fields).load = .error (.packageErrors messages)) ↔
          ∃ o ∈ packages, errorsIn o ≠ []) := by
  have listed : ∃ o ∈ pathlessPackages, errorsIn o ≠ [] := by decide
  obtain ⟨a, loaded, -⟩ := exists_ok_of_map (by cbv :
    (ofFields pathless).load.toOption.map (fun _ => ()) = some ())
  refine ⟨listed, ⟨a, loaded⟩, by decide, fun always => ?_⟩
  obtain ⟨messages, refused⟩ :=
    (always pathless pathlessPackages rfl packageTexts_pathlessPackages).2 listed
  cases loaded.symm.trans refused

end Document

end CallAtlas
