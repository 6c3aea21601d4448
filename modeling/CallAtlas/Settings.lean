import CallAtlas.Text.Blank
import CallAtlas.Text.Split
set_option autoImplicit false

/-!
# Settings of a view

What a view of a call graph is asked to show. `Settings` holds what was written, `Selection` what it
means once it is validated; a `Form` holds the values of one request, which revise the settings a
session was opened with.
-/

namespace CallAtlas

inductive GroupKey where
  | package
  | receiver
  deriving DecidableEq, Repr

namespace GroupKey

def text : GroupKey → String
  | .package => "pkg"
  | .receiver => "type"

def ofText? (s : String) : Option GroupKey :=
  if s = "pkg" then some .package else if s = "type" then some .receiver else none

theorem ofText?_eq_some_iff {s : String} {k : GroupKey} : ofText? s = some k ↔ s = k.text := by
  cases k <;> simp only [ofText?, text] <;> split <;> simp_all

end GroupKey

/-- The settings of a view as written. The lists are separated by commas. -/
structure Settings where
  focus : String := ""
  group : String := "pkg"
  ignore : String := ""
  only : String := ""
  limit : String := ""
  hideWrappers : Bool := false
  hideStd : Bool := false
  limitDepth : Int := 1
  deriving DecidableEq, Repr, Inhabited

structure Selection where
  focus : String := ""
  group : List GroupKey := []
  ignore : List String := []
  only : List String := []
  limit : List String := []
  hideWrappers : Bool := false
  hideStd : Bool := false
  limitDepth : Nat := 1
  deriving DecidableEq, Repr, Inhabited

inductive SettingsError where
  | invalidGroup (key : String)
  | invalidLimitDepth (depth : Int)
  deriving DecidableEq, Repr

def SettingsError.message : SettingsError → String
  | .invalidGroup key => "invalid group option: " ++ key
  | .invalidLimitDepth depth => "invalid limit depth: " ++ toString depth

/-- The parts of a text between commas, trimmed, without the blank ones. -/
def commaList (s : String) : List String :=
  ((Text.split ',' s).map Text.trim).filter (· ≠ "")

/-- The keys that the parts name, each where it comes first. The first part that is no key is
refused. -/
def groupKeys (found : List GroupKey) : List String → Except SettingsError (List GroupKey)
  | [] => .ok found
  | part :: parts =>
    match GroupKey.ofText? part with
    | none => .error (.invalidGroup part)
    | some k => groupKeys (if k ∈ found then found else found ++ [k]) parts

def groupKeysOf (s : String) : Except SettingsError (List GroupKey) := groupKeys [] (commaList s)

/-- Validates settings. The group is looked at before the depth, and nothing is taken over unless
both are valid. -/
def Settings.select (o : Settings) : Except SettingsError Selection :=
  match groupKeysOf o.group with
  | .error e => .error e
  | .ok group =>
    if o.limitDepth < 1 then .error (.invalidLimitDepth o.limitDepth)
    else .ok
      { focus := Text.trim o.focus
        group := group
        ignore := commaList o.ignore
        only := commaList o.only
        limit := commaList o.limit
        hideWrappers := o.hideWrappers
        hideStd := o.hideStd
        limitDepth := o.limitDepth.toNat }

/-- The values of one request by name; the first value of a name counts. -/
structure Form where
  values : List (String × Option String)
  deriving DecidableEq, Repr, Inhabited

namespace Form

def get (form : Form) (name : String) : String :=
  match form.values.find? fun v => v.1 = name with
  | some (_, some value) => value
  | _ => ""

end Form

def clearFocus : String := "all"

/-- The settings revised by the values of a request. Empty values change nothing. Any value for
`std` shows the standard library and any value for `nointer` hides the wrappers; neither can be
taken back, and the depth is not a value of a request. -/
def Settings.revised (o : Settings) (form : Form) : Settings :=
  let replace (name old : String) := if form.get name = "" then old else form.get name
  { focus :=
      if form.get "f" = clearFocus then "" else replace "f" o.focus
    group := replace "group" o.group
    ignore := replace "ignore" o.ignore
    only := replace "include" o.only
    limit := replace "limit" o.limit
    hideWrappers := o.hideWrappers || form.get "nointer" ≠ ""
    hideStd := o.hideStd && form.get "std" = ""
    limitDepth := o.limitDepth }

end CallAtlas
