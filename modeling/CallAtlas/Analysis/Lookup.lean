import CallAtlas.Analysis.Basic
set_option autoImplicit false

/-!
# Focus

A view can be focused on one package. The package is given by its path or, if that says which one,
by its name; an ambiguous name is answered with the paths that it may stand for. They are sorted
twice, which makes a difference only if one of them is not a number.
-/

namespace CallAtlas

inductive TokenError where
  /-- A token that can only be a path is the path of no package. -/
  | unknownPath (token : String)
  | unknownName (token : String)
  /-- Several packages have the name; their paths in order. -/
  | ambiguous (token : String) (candidates : List Atom)
  /-- Several packages have the name, and their paths have no common order. -/
  | unordered
  deriving DecidableEq, Repr

namespace TokenError

def message : TokenError → String
  | .unknownPath token => "focus failed, package path not found: " ++ token
  | .unknownName token => "focus failed, could not find package: " ++ token
  | .ambiguous token _ => "focus failed, found multiple packages with name: " ++ token
  | .unordered => ""

def candidates : TokenError → List Atom
  | .ambiguous _ paths => paths
  | _ => []

end TokenError

/-- The package a token stands for. The empty token stands for none. -/
def Analysis.focus? (a : Analysis) (token : String) : Except TokenError (Option Package) :=
  if token = "" then .ok none
  else match a.package? (.text token) with
    | some p => .ok (some p)
    | none =>
      if token.toList.contains '/' then .error (.unknownPath token)
      else match a.packagesCalled token with
        | [] => .error (.unknownName token)
        | [p] => .ok (some p)
        | ps =>
          let paths := ps.map Package.path
          if Atom.ofOneKind paths then
            .error (.ambiguous token (Atom.sortedBy id (Atom.sortedBy id paths)))
          else .error .unordered

end CallAtlas
