import CallAtlas.Http.Punycode
import CallAtlas.Text.Combining
import CallAtlas.Text.Direction
set_option autoImplicit false

/-!
# Names of hosts

A name has labels with dots between them. It may be given in any script and case, but it is sent
with basic characters: a label with others is folded, and if some of them remain it is written as
Punycode behind a mark. A name that was sent can be read, unless a label behind the mark is none that
would be sent.
-/

namespace CallAtlas.Http.HostName

def isDot (c : Char) : Bool := c ∈ ['.', '\u3002', '\uff0e', '\uff61']

def labels (name : List Char) : List (List Char) :=
  Text.splitChars '.' (name.map fun c => if isDot c then '.' else c)

/-- Characters that no label may hold: blanks, controls, private ones and such as mean nothing by
themselves. -/
def forbiddenLines : List String :=
  ["80-a0 340-341 6dd 70f 1680 180e 2000-200f 2028-202f 205f-2063 206a-206f 2ff0-2ffb 3000",
   "e000-f8ff fdd0-fdef feff fff9-ffff 1d173-1d17a 1fffe-1ffff 2fffe-2ffff 3fffe-3ffff",
   "4fffe-4ffff 5fffe-5ffff 6fffe-6ffff 7fffe-7ffff 8fffe-8ffff 9fffe-9ffff afffe-affff",
   "bfffe-bffff cfffe-cffff dfffe-dffff e0001 e0020-e007f efffe-10ffff"]

def forbiddenTable : Text.CodeTable := Text.CodeTable.ofLines forbiddenLines

/-- A label in its folded form, unless that holds a forbidden character or mixes directions. -/
def prepared? (label : List Char) : Option (List Char) :=
  let form := Text.foldedForm label
  if form.any forbiddenTable.has || !Text.hasOneDirection form then none else some form

def punycodeMark : List Char := "xn--".toList

def longestLabel : Nat := 63

def fitting? (label : List Char) : Option (List Char) :=
  if label.isEmpty || longestLabel < label.length then none else some label

/-- A label as it is sent. A label that is still to be written must not start with the mark. -/
def sentLabel? (label : List Char) : Option (List Char) :=
  if label.all Punycode.isBasic then fitting? label
  else match prepared? label with
    | none => none
    | some form =>
      if form.all Punycode.isBasic then fitting? form
      else if punycodeMark.isPrefixOf form then none
      else fitting? (punycodeMark ++ Punycode.encode form)

/-- A name as it is sent. Only its last label may be empty. -/
def sent? (name : List Char) : Option (List Char) := do
  let all := labels name
  let front ← all.dropLast.mapM sentLabel?
  let last := all.getLast?.getD []
  let last ← if last.isEmpty then some [] else sentLabel? last
  return ['.'].intercalate (front ++ [last])

/-- A label as it is read. What stands behind the mark has to be written like this. -/
def readLabel? (label : List Char) : Option (List Char) :=
  if punycodeMark.isPrefixOf label then do
    let read ← Punycode.decode? (label.drop punycodeMark.length)
    if sentLabel? read = some label then some read else none
  else some label

def read? (name : List Char) : Option (List Char) := do
  let all ← (Text.splitChars '.' name).mapM readLabel?
  return ['.'].intercalate all

end CallAtlas.Http.HostName
