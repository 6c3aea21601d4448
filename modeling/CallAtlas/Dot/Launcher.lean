import CallAtlas.Text.Blank
import CallAtlas.Text.Utf8
set_option autoImplicit false

/-!
# Launchers

Images are made by another program, which reads a DOT text and writes an image. All that is known of
the program is what it is called and what it answers.
-/

namespace CallAtlas.Dot

structure Launcher where
  name : String
  status : Nat := 0
  output : Text.Bytes := []
  complaint : Text.Bytes := []
  deriving Repr

inductive LaunchError where
  | notFound (binary : String)
  /-- The format cannot be told to a program, because it holds a zero character. -/
  | zeroInFormat
  | failed (binary : String) (status : Nat) (complaint : String)
  deriving DecidableEq, Repr

def LaunchError.message : LaunchError → String
  | .notFound binary => "Graphviz launcher not found: " ++ binary
  | .zeroInFormat => "embedded null byte"
  | .failed binary status complaint =>
    binary ++ " exited with status " ++ toString status ++ ": " ++ complaint

namespace Launcher

def find? (installed : Option Launcher) (binary : String) : Option Launcher :=
  installed.filter fun l => binary ≠ "" && l.name = binary

def arguments (format : String) : List String := ["-T" ++ format]

/-- The image that a program answers, or its complaint. -/
def run (installed : Option Launcher) (binary format : String) : Except LaunchError Text.Bytes :=
  match find? installed binary with
  | none => .error (.notFound binary)
  | some l =>
    if '\x00' ∈ format.toList then .error .zeroInFormat
    else if l.status = 0 then .ok l.output
    else .error (.failed binary l.status (Text.trim (Text.Utf8.decodeLossy l.complaint)))

end Launcher

def defaultBinary : String := "dot"

def defaultFormat : String := "svg"

end CallAtlas.Dot
