import CallAtlas.Json.Basic
import CallAtlas.Text.Hexadecimal
set_option autoImplicit false

/-!
# JSON tokens

Cutting a text into tokens, each with the position (counted in characters from 0) at which it
starts. A string that is not well formed and a character that starts no token are tokens too, so
that it is the reader who decides which fault of a text comes first.

A text is made of characters, so a document that holds an escape of half a surrogate pair, which is
no character, is not read.
-/

namespace CallAtlas.Json

inductive FaultKind where
  | expectedValue
  | expectedName
  | expectedColon
  | expectedComma
  | unterminatedString
  | controlCharacter
  | badEscape
  | badUnicodeEscape
  /-- Half of a surrogate pair, which is no character. -/
  | loneSurrogate
  | extraData
  | byteOrderMark
  | hugeInteger
  | tooDeep
  deriving DecidableEq, Repr

structure Fault where
  kind : FaultKind
  position : Nat
  deriving DecidableEq, Repr

inductive Token where
  | openArray | closeArray | openObject | closeObject | comma | colon
  | literal (value : Json)
  | string (value : String)
  | faulty (fault : Fault)
  | stray
  deriving Repr

def isSpace (c : Char) : Bool := c = ' ' || c = '\t' || c = '\n' || c = '\r'

def isDigit (c : Char) : Bool := '0' ≤ c && c ≤ '9'

/-- The code of four hexadecimal digits, which must not be the last characters of the text. -/
def hexCode? : List Char → Option Nat
  | a :: b :: c :: d :: _ :: _ =>
    if [a, b, c, d].all Text.isHexDigit then some (Text.hexNumber [a, b, c, d]) else none
  | _ => none

def escapeChar? : Char → Option Char
  | '"' => some '"'
  | '\\' => some '\\'
  | '/' => some '/'
  | 'b' => some '\x08'
  | 'f' => some '\x0c'
  | 'n' => some '\n'
  | 'r' => some '\r'
  | 't' => some '\t'
  | _ => none

def isHighSurrogate (n : Nat) : Bool := 0xd800 ≤ n && n ≤ 0xdbff
def isLowSurrogate (n : Nat) : Bool := 0xdc00 ≤ n && n ≤ 0xdfff

/-- The character of a code, unless it is half of a pair. -/
def charOfCode? (n : Nat) : Option Char :=
  if h : n.isValidChar then some (Char.ofNatAux n h) else none

def joinSurrogates (high low : Nat) : Nat := 0x10000 + (high - 0xd800) * 0x400 + (low - 0xdc00)

inductive StringEnd where
  | closed (value : List Char) (stop : Nat)
  | broken (fault : Fault)

namespace StringEnd

def cons (c : Char) : StringEnd → StringEnd
  | .closed value stop => .closed (c :: value) stop
  | .broken fault => .broken fault

def consCode (position code : Nat) (rest : StringEnd) : StringEnd :=
  match charOfCode? code with
  | some c => rest.cons c
  | none => .broken ⟨.loneSurrogate, position⟩

end StringEnd

/-- Reads a string from behind its opening quote, which stands at `start`; `position` is where the
remaining characters stand. A surrogate pair is one character, and half of one is none. -/
def scanString (start position : Nat) : List Char → StringEnd
  | [] => .broken ⟨.unterminatedString, start⟩
  | c :: cs =>
    if c = '"' then .closed [] (position + 1)
    else if c = '\\' then
      match cs with
      | [] => .broken ⟨.unterminatedString, start⟩
      | e :: rest =>
        if e = 'u' then
          match hexCode? rest with
          | none => .broken ⟨.badUnicodeEscape, position + 1⟩
          | some high =>
            if isHighSurrogate high && (rest.drop 4).take 2 = ['\\', 'u'] && 10 < rest.length then
              match hexCode? (rest.drop 6) with
              | none => .broken ⟨.badUnicodeEscape, position + 7⟩
              | some low =>
                if isLowSurrogate low then
                  (scanString start (position + 12) (rest.drop 10)).consCode position
                    (joinSurrogates high low)
                else (scanString start (position + 6) (rest.drop 4)).consCode position high
            else (scanString start (position + 6) (rest.drop 4)).consCode position high
        else
          match escapeChar? e with
          | none => .broken ⟨.badEscape, position⟩
          | some x => (scanString start (position + 2) rest).cons x
    else if c.toNat < 0x20 then .broken ⟨.controlCharacter, position⟩
    else (scanString start (position + 1) cs).cons c
termination_by cs => cs.length
decreasing_by all_goals (simp only [List.length_cons, List.length_drop]; omega)

def digitsValue (ds : List Char) : Nat := ds.foldl (fun n d => n * 10 + (d.toNat - 48)) 0

def integerDigitLimit : Nat := 4300

/-- The digits of a whole part: a zero stands alone. -/
def wholeDigits (cs : List Char) : List Char :=
  if cs.head? = some '0' then ['0'] else cs.takeWhile isDigit

def fractionDigits : List Char → List Char
  | '.' :: cs => cs.takeWhile isDigit
  | _ => []

/-- The sign, the digits and the width of an exponent; without digits there is none. -/
def exponentPart : List Char → Option (Bool × List Char × Nat)
  | e :: cs =>
    if e = 'e' || e = 'E' then
      let signed := cs.head? = some '+' || cs.head? = some '-'
      let digits := (if signed then cs.drop 1 else cs).takeWhile isDigit
      if digits.isEmpty then none
      else some (cs.head? = some '-', digits, digits.length + (if signed then 2 else 1))
    else none
  | [] => none

/-- The number at the start of the characters and its width. A point without a digit behind it and
an exponent without digits do not belong to the number. -/
def scanNumber? (position : Nat) (cs : List Char) : Option (Token × Nat) :=
  let negative := decide (cs.head? = some '-')
  let signWidth := if negative then 1 else 0
  let whole := wholeDigits (cs.drop signWidth)
  let afterWhole := cs.drop (signWidth + whole.length)
  let fraction := fractionDigits afterWhole
  let fractionWidth := if fraction.isEmpty then 0 else fraction.length + 1
  let exponent := exponentPart (afterWhole.drop fractionWidth)
  let width := signWidth + whole.length + fractionWidth
  if whole.isEmpty then none
  else match exponent with
    | none =>
      if fraction.isEmpty then
        if integerDigitLimit < whole.length then some (.faulty ⟨.hugeInteger, position⟩, width)
        else
          let n : Int := digitsValue whole
          some (.literal (.int (if negative then -n else n)), width)
      else
        some (.literal (.decimal (.finite negative (digitsValue (whole ++ fraction))
          (-fraction.length))), width)
    | some (minus, digits, exponentWidth) =>
      let e : Int := digitsValue digits
      some (.literal (.decimal (.finite negative (digitsValue (whole ++ fraction))
        ((if minus then -e else e) - fraction.length))), width + exponentWidth)

def words : List (String × Json) :=
  [("null", .null), ("true", .bool true), ("false", .bool false), ("NaN", .decimal .notANumber),
    ("Infinity", .decimal (.infinite false)), ("-Infinity", .decimal (.infinite true))]

def scanWord? (cs : List Char) : Option (Token × Nat) :=
  (words.find? fun w => w.1.toList.isPrefixOf cs).map fun w => (.literal w.2, w.1.length)

def symbol? : Char → Option Token
  | '[' => some .openArray
  | ']' => some .closeArray
  | '{' => some .openObject
  | '}' => some .closeObject
  | ',' => some .comma
  | ':' => some .colon
  | _ => none

def scanToken (position : Nat) (c : Char) (cs : List Char) : Token × Nat :=
  match symbol? c with
  | some t => (t, 0)
  | none =>
    if c = '"' then
      match scanString position (position + 1) cs with
      | .closed value stop => (.string (String.ofList value), stop - (position + 1))
      | .broken fault => (.faulty fault, cs.length)
    else match (scanWord? (c :: cs)).orElse fun _ => scanNumber? position (c :: cs) with
      | some (t, width) => (t, width - 1)
      | none => (.stray, 0)

def tokens (position : Nat) : List Char → List (Token × Nat)
  | [] => []
  | c :: cs =>
    if isSpace c then tokens (position + 1) cs
    else
      let scanned := scanToken position c cs
      (scanned.1, position) :: tokens (position + 1 + scanned.2) (cs.drop scanned.2)
termination_by cs => cs.length
decreasing_by all_goals (simp only [List.length_cons, List.length_drop]; omega)

end CallAtlas.Json
