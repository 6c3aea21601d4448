set_option autoImplicit false

/-!
# Misfits

How a value of a document fails to fit the place it stands in. Documents are typed loosely: a value
of an unexpected kind is carried along as it is, and only what cannot be done with it is a misfit. An
analysis whose document is well typed has none.
-/

namespace CallAtlas

inductive Misfit where
  /-- A value without elements stands for a list. -/
  | notAList
  /-- An element that has no fields stands for an entry. -/
  | notAnEntry
  /-- A value that is no text is asked for its characters. -/
  | notAText
  /-- A list or an object stands where a single value is asked for. -/
  | notSingle
  /-- An entry point that is no text names no function. -/
  | notAnId
  /-- Texts and numbers, which have no common order, are to be ordered. -/
  | severalKinds
  /-- A call site that is no text is to be joined with others. -/
  | siteNotText
  deriving DecidableEq, Repr

end CallAtlas
