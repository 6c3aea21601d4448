import CallAtlas.CommandLine.Outcome
import CallAtlas.Proofs.Reordering
import Mathlib

set_option autoImplicit false

/-!
# Failures of artefacts

A command says what is wrong with an artefact if the file is no document or the document no closed
world. It says nothing where the bytes are no text, where a number or the nesting is out of bounds,
or where a value is of a kind that the loader cannot deal with. `Artefact.load_failures` tells these
failures by the file alone; a file that holds a well typed document has none of them.
-/

namespace CallAtlas

namespace ArtefactError

/-- Whether a failure is reported as one of the artefact. -/
def isReported : ArtefactError → Bool
  | .malformed _ _ | .notAnObject _ => true
  | .document (.misfit _) => false
  | .document _ => true
  | .notUtf8 | .hugeInteger | .tooDeep => false

theorem ending_loadOutcome (e : ArtefactError) :
    (CommandLine.loadOutcome e).ending =
      if e.isReported then .refused else .crashed (.artefact e) := by
  cases e with
  | document e => cases e <;> rfl
  | _ => rfl

end ArtefactError

namespace Document

variable {d : Document}

/-- What is given as an entry point cannot be looked up, or it is no text and names no function; or
none is given, and the mains have no common order. -/
inductive StartsMisfit (d : Document) : Prop where
  | shape {m : Misfit} : d.entryPoints.misfit = some m → StartsMisfit d
  | unknown {v : Json} : d.entryPoints.misfit = none → v ∈ d.unknownStarts d.world →
      v.isText = false → StartsMisfit d
  | kinds : d.entryPoints.misfit = none → d.entryPoints.entries = [] →
      Atom.ofOneKind (Analysis.mains d.world.packages d.world.functions) = false → StartsMisfit d

/-- The loader comes to a value that it cannot deal with. Package errors keep it from all that is
not a package. -/
inductive Misfits (d : Document) : Prop where
  | package {m : Misfit} : d.packages.misfit = some m → Misfits d
  | entry {m : Misfit} : d.packages.misfit = none → d.packageErrors = [] → d.misfit? = some m →
      Misfits d
  | start : d.packages.misfit = none → d.packageErrors = [] → d.misfit? = none → d.StartsMisfit →
      Misfits d

theorem discover_eq_misfit_iff {packages : List Package} {functions : List Function} :
    (∃ m, Analysis.discover packages functions = .error (.misfit m)) ↔
      Atom.ofOneKind (Analysis.mains packages functions) = false := by
  unfold Analysis.discover
  cases Analysis.mains packages functions with
  | nil => exact iff_of_false (by simp) (by decide)
  | cons id ids => cases kinds : Atom.ofOneKind (id :: ids) <;> simp [kinds]

theorem starts_eq_misfit_iff :
    (∃ m, d.starts d.world = .error (.misfit m)) ↔ d.StartsMisfit := by
  unfold starts
  cases shape : d.entryPoints.misfit with
  | some m => exact iff_of_true ⟨m, rfl⟩ (.shape shape)
  | none =>
    cases given : d.entryPoints.entries with
    | nil =>
      have known : d.unknownStarts d.world = [] := by rw [unknownStarts, given]; rfl
      refine discover_eq_misfit_iff.trans ⟨.kinds shape given, ?_⟩
      rintro (h | ⟨-, h, -⟩ | ⟨-, -, h⟩)
      · cases shape.symm.trans h
      · rw [known] at h
        cases h
      · exact h
    | cons v vs =>
      have inverted : d.StartsMisfit ↔ (d.unknownStarts d.world).all Json.isText = false := by
        rw [List.all_eq_false]
        constructor
        · rintro (h | ⟨-, hv, h⟩ | ⟨-, h, -⟩)
          · cases shape.symm.trans h
          · exact ⟨_, hv, by simp [h]⟩
          · cases given.symm.trans h
        · rintro ⟨v, hv, h⟩
          exact .unknown shape hv (by simpa using h)
      rw [inverted]
      dsimp only
      cases d.unknownStarts d.world with
      | nil => simp
      | cons w ws =>
        dsimp only
        split
        · rename_i texts
          simp [texts]
        · rename_i texts
          simp only [Except.error.injEq, LoadError.misfit.injEq, exists_eq', true_iff]
          exact Bool.eq_false_iff.2 texts

theorem load_eq_misfit_iff : (∃ m, d.load = .error (.misfit m)) ↔ d.Misfits := by
  unfold load
  cases shape : d.packages.misfit with
  | some m => exact iff_of_true ⟨m, rfl⟩ (.package shape)
  | none =>
    dsimp only
    cases errors : d.packageErrors with
    | cons e es =>
      refine iff_of_false (by simp) ?_
      rintro (h | ⟨-, h, -⟩ | ⟨-, h, -⟩)
      · cases shape.symm.trans h
      · cases errors.symm.trans h
      · cases errors.symm.trans h
    | nil =>
      cases entry : d.misfit? with
      | some m => exact iff_of_true ⟨m, rfl⟩ (.entry shape errors entry)
      | none =>
        have inverted : d.Misfits ↔ d.StartsMisfit := by
          refine ⟨?_, .start shape errors entry⟩
          rintro (h | ⟨-, -, h⟩ | ⟨-, -, -, h⟩)
          · cases shape.symm.trans h
          · cases entry.symm.trans h
          · exact h
        rw [inverted, ← starts_eq_misfit_iff]
        simp only [List.isEmpty_nil, Bool.not_true, Bool.false_eq_true, if_false]
        cases d.starts d.world <;> simp

theorem WellTyped.not_misfits (hd : d.WellTyped) : ¬ d.Misfits := by
  rintro (h | ⟨-, -, h⟩ | ⟨-, -, -, h | ⟨-, hv, h⟩ | ⟨-, -, h⟩⟩)
  · cases hd.packages.symm.trans h
  · cases hd.misfit?_eq_none.symm.trans h
  · cases hd.entryPoints.symm.trans h
  · rw [hd.starts _ (List.mem_filter.1 hv).1] at h
    cases h
  · refine absurd (Atom.ofOneKind_of_texts fun id hid => ?_) (Bool.eq_false_iff.1 h)
    rw [Analysis.mains, Atom.mem_sortedBy] at hid
    obtain ⟨f, hf, rfl⟩ := List.mem_map.1 hid
    have text := (hd.texts_world.functions f (List.mem_filter.1 hf).1).1
    rwa [Function.idAsMet, Atom.shownAs_of_isText text]

end Document

def Json.FaultKind.isSyntax : FaultKind → Bool
  | .hugeInteger | .tooDeep | .loneSurrogate => false
  | _ => true

namespace Artefact

variable {x : Artefact} {room : Nat}

/-- Reading the file meets no escape of half a surrogate pair, so its texts are made of characters. -/
def Spelled (x : Artefact) (room : Nat) : Prop :=
  ∀ cs fault, Text.Utf8.decode? x.content = some cs →
    Json.readChars room (Text.unixLines cs) = .error fault → fault.kind ≠ .loneSurrogate

/-- What keeps a file from being loaded without being reported. -/
inductive Unforeseen (x : Artefact) (room : Nat) : Prop where
  | bytes : Text.Utf8.decode? x.content = none → Unforeseen x room
  /-- The first fault of the text is not one of its syntax, but of what is read. -/
  | bounds {cs : List Char} {fault : Json.Fault} : Text.Utf8.decode? x.content = some cs →
      Json.readChars room (Text.unixLines cs) = .error fault →
      fault.kind = .hugeInteger ∨ fault.kind = .tooDeep → Unforeseen x room
  | misfit {d : Document} : x.document room = .ok d → d.Misfits → Unforeseen x room

/-- What keeps a file from being loaded and is reported. -/
inductive Foreseen (x : Artefact) (room : Nat) : Prop where
  | syntaxFault {cs : List Char} {fault : Json.Fault} : Text.Utf8.decode? x.content = some cs →
      Json.readChars room (Text.unixLines cs) = .error fault → fault.kind.isSyntax →
      Foreseen x room
  | notAnObject {cs : List Char} {v : Json} : Text.Utf8.decode? x.content = some cs →
      Json.readChars room (Text.unixLines cs) = .ok v → (∀ fields, v ≠ .object fields) →
      Foreseen x room
  | document {d : Document} {e : LoadError} : x.document room = .ok d → d.load = .error e →
      ¬ d.Misfits → Foreseen x room

theorem unreported_of_document :
    (∃ e, x.document room = .error e ∧ e.isReported = false) ↔
      Text.Utf8.decode? x.content = none ∨
        ∃ cs fault, Text.Utf8.decode? x.content = some cs ∧
          Json.readChars room (Text.unixLines cs) = .error fault ∧
          (fault.kind = .hugeInteger ∨ fault.kind = .tooDeep) := by
  unfold document
  cases decoded : Text.Utf8.decode? x.content with
  | none => exact iff_of_true ⟨.notUtf8, rfl, rfl⟩ (.inl rfl)
  | some cs =>
    simp only [reduceCtorEq, false_or, Option.some.injEq, exists_and_left, exists_eq_left']
    match read : Json.readChars room (Text.unixLines cs) with
    | .error ⟨kind, position⟩ => cases kind <;> simp [ArtefactError.isReported]
    | .ok v => cases v <;> simp [ArtefactError.isReported]

theorem reported_of_document (spelled : x.Spelled room) :
    (∃ e, x.document room = .error e ∧ e.isReported) ↔
      ∃ cs, Text.Utf8.decode? x.content = some cs ∧
        ((∃ fault, Json.readChars room (Text.unixLines cs) = .error fault ∧ fault.kind.isSyntax) ∨
          ∃ v, Json.readChars room (Text.unixLines cs) = .ok v ∧ ∀ fields, v ≠ .object fields) := by
  unfold document
  cases decoded : Text.Utf8.decode? x.content with
  | none => simp [ArtefactError.isReported]
  | some cs =>
    have whole := spelled cs
    simp only [Option.some.injEq, exists_eq_left']
    match read : Json.readChars room (Text.unixLines cs) with
    | .error ⟨kind, position⟩ =>
      have known : kind ≠ .loneSurrogate := whole _ decoded read
      cases kind <;> simp_all [ArtefactError.isReported, Json.FaultKind.isSyntax]
    | .ok v => cases v <;> simp [ArtefactError.isReported]

theorem unforeseen_iff :
    x.Unforeseen room ↔ (∃ e, x.document room = .error e ∧ e.isReported = false) ∨
      ∃ d, x.document room = .ok d ∧ d.Misfits := by
  rw [unreported_of_document]
  constructor
  · rintro (h | ⟨hd, hr, hf⟩ | ⟨hd, hm⟩)
    · exact .inl (.inl h)
    · exact .inl (.inr ⟨_, _, hd, hr, hf⟩)
    · exact .inr ⟨_, hd, hm⟩
  · rintro ((h | ⟨cs, fault, hd, hr, hf⟩) | ⟨d, hd, hm⟩)
    · exact .bytes h
    · exact .bounds hd hr hf
    · exact .misfit hd hm

theorem foreseen_iff (spelled : x.Spelled room) :
    x.Foreseen room ↔ (∃ e, x.document room = .error e ∧ e.isReported) ∨
      ∃ d e, x.document room = .ok d ∧ d.load = .error e ∧ ¬ d.Misfits := by
  rw [reported_of_document spelled]
  constructor
  · rintro (⟨hd, hr, hf⟩ | ⟨hd, hr, hv⟩ | ⟨hd, he, hm⟩)
    · exact .inl ⟨_, hd, .inl ⟨_, hr, hf⟩⟩
    · exact .inl ⟨_, hd, .inr ⟨_, hr, hv⟩⟩
    · exact .inr ⟨_, _, hd, he, hm⟩
  · rintro (⟨cs, hd, ⟨fault, hr, hf⟩ | ⟨v, hr, hv⟩⟩ | ⟨d, e, hd, he, hm⟩)
    · exact .syntaxFault hd hr hf
    · exact .notAnObject hd hr hv
    · exact .document hd he hm

theorem load_of_document_error {e : ArtefactError} (h : x.document room = .error e) :
    x.load room = .error e := by
  rw [load, h]

theorem load_eq_error_iff {d : Document} (h : x.document room = .ok d) {e : ArtefactError} :
    x.load room = .error e ↔ ∃ e', d.load = .error e' ∧ e = .document e' := by
  unfold load
  rw [h]
  cases loaded : d.load <;> simp [loaded, eq_comm]

theorem unreported_of_load :
    (∃ e, x.load room = .error e ∧ e.isReported = false) ↔ x.Unforeseen room := by
  rw [unforeseen_iff]
  cases read : x.document room with
  | error e => simp [load_of_document_error read]
  | ok d =>
    simp only [load_eq_error_iff read, reduceCtorEq, false_and, exists_false, false_or,
      Except.ok.injEq, exists_eq_left', ← Document.load_eq_misfit_iff]
    cases d.load with
    | ok a => simp
    | error e => cases e <;> simp [ArtefactError.isReported]

theorem reported_of_load (spelled : x.Spelled room) :
    (∃ e, x.load room = .error e ∧ e.isReported) ↔ x.Foreseen room := by
  rw [foreseen_iff spelled]
  cases read : x.document room with
  | error e => simp [load_of_document_error read]
  | ok d =>
    simp only [load_eq_error_iff read, reduceCtorEq, false_and, exists_false, false_or,
      Except.ok.injEq, exists_and_left, exists_eq_left', ← Document.load_eq_misfit_iff]
    cases d.load with
    | ok a => simp
    | error e => cases e <;> simp [ArtefactError.isReported]

/-- A file whose texts are made of characters is loaded, or the failure is one of those that are
reported, or it is unforeseen; and a command that fails ends with a message in the second case only. -/
theorem load_failures (x : Artefact) (room : Nat) (spelled : x.Spelled room) :
    ((∃ e, x.load room = .error e ∧ e.isReported = false) ↔ x.Unforeseen room) ∧
    ((∃ e, x.load room = .error e ∧ e.isReported = true) ↔ x.Foreseen room) ∧
    (∀ d, x.document room = .ok d → d.WellTyped → ¬ x.Unforeseen room) ∧
    ∀ e, x.load room = .error e →
      ((CommandLine.loadOutcome e).ending = .refused ↔ ¬ x.Unforeseen room) := by
  refine ⟨unreported_of_load, reported_of_load spelled, fun d hd typed => ?_, fun e he => ?_⟩
  · rw [unforeseen_iff, hd]
    rintro (⟨e, h, -⟩ | ⟨d', h, misfits⟩)
    · cases h
    · cases h
      exact typed.not_misfits misfits
  · rw [← unreported_of_load, e.ending_loadOutcome, he]
    cases reported : e.isReported <;> simp [reported]

def strayByte : Artefact := { name := "stray.json", path := "stray.json", content := [0xff] }

/-- The object `edges: null`, which stands for no calls where lists without items are written so. -/
def nullEdges : Artefact where
  name := "edges.json"
  path := "edges.json"
  content := [0x7b, 0x22, 0x65, 0x64, 0x67, 0x65, 0x73, 0x22, 0x3a, 0x6e, 0x75, 0x6c, 0x6c, 0x7d]

theorem spelled_of_document {d : Document} (h : x.document room = .ok d) : x.Spelled room := by
  intro cs fault decoded read lone
  unfold document at h
  rw [decoded] at h
  obtain ⟨kind, position⟩ := fault
  cases lone
  simp [read] at h

theorem document_nullEdges : ∃ program, nullEdges.document Json.usualRoom =
    .ok { Document.ofFields [("edges", .null)] with program := program } := by
  have decoded : Text.Utf8.decode? nullEdges.content =
      some ['\x7b', '"', 'e', 'd', 'g', 'e', 's', '"', ':', 'n', 'u', 'l', 'l', '\x7d'] := by cbv
  have read : Json.readChars Json.usualRoom (Text.unixLines
      ['\x7b', '"', 'e', 'd', 'g', 'e', 's', '"', ':', 'n', 'u', 'l', 'l', '\x7d']) =
      .ok (.object [("edges", .null)]) := by cbv
  simp only [document, decoded, read]
  exact ⟨_, rfl⟩

theorem load_nullEdges :
    nullEdges.load Json.usualRoom = .error (.document (.misfit .notAList)) := by
  obtain ⟨program, read⟩ := document_nullEdges
  have misfit : Document.load { Document.ofFields [("edges", .null)] with program := program } =
      .error (.misfit .notAList) := by cbv
  simp only [load, read, misfit]

def emptyObject : Artefact := { name := "", path := "", content := [0x7b, 0x7d] }

theorem document_emptyObject :
    emptyObject.document Json.usualRoom = .ok (Document.ofFields []) := by cbv

theorem load_failures_of_files :
    strayByte.Spelled Json.usualRoom ∧ strayByte.Unforeseen Json.usualRoom ∧
      nullEdges.Spelled Json.usualRoom ∧ nullEdges.Unforeseen Json.usualRoom ∧
      emptyObject.Spelled Json.usualRoom ∧ ¬ emptyObject.Unforeseen Json.usualRoom ∧
      emptyObject.Foreseen Json.usualRoom ∧
      ∃ e, emptyObject.load Json.usualRoom = .error e ∧
        (CommandLine.loadOutcome e).ending = .refused := by
  have decoded : Text.Utf8.decode? strayByte.content = none := by cbv
  have stray : strayByte.load Json.usualRoom = .error .notUtf8 := by cbv
  have spelled : strayByte.Spelled Json.usualRoom := by
    intro cs fault some
    cases decoded.symm.trans some
  obtain ⟨program, read⟩ := document_nullEdges
  have null := spelled_of_document read
  have empty := spelled_of_document document_emptyObject
  have loaded : emptyObject.load Json.usualRoom = .error (.document .noEntryPoint) := by
    rw [load, document_emptyObject]
    cbv
  obtain ⟨-, foreseen, typed, refused⟩ := load_failures emptyObject Json.usualRoom empty
  have clear := typed _ document_emptyObject (by decide)
  exact ⟨spelled, (load_failures _ _ spelled).1.1 ⟨_, stray, rfl⟩, null,
    (load_failures _ _ null).1.1 ⟨_, load_nullEdges, rfl⟩, empty, clear,
    foreseen.1 ⟨_, loaded, rfl⟩, _, loaded, (refused _ loaded).2 clear⟩

/-- Neither bytes that are no text nor values of unexpected kinds are reported. -/
theorem load_not_always_reported :
    strayByte.load Json.usualRoom = .error .notUtf8 ∧
      nullEdges.load Json.usualRoom = .error (.document (.misfit .notAList)) ∧
      ¬ ∀ (x : Artefact) (room : Nat) (e : ArtefactError), x.load room = .error e →
        e.isReported = true := by
  have stray : strayByte.load Json.usualRoom = .error .notUtf8 := by cbv
  exact ⟨stray, load_nullEdges, fun h => absurd (h _ _ _ stray) (by decide)⟩

end Artefact

end CallAtlas
