import CallAtlas.Http.HostName
import CallAtlas.Http.Query
import CallAtlas.Json.Spelling
set_option autoImplicit false

/-!
# Authorities

The part of an address that says who answers: a host, maybe with a port behind it and a user in
front of it. A host is a name or a number in brackets.
-/

namespace CallAtlas.Http

inductive AddressFault where
  /-- A query stands in the address, although queries are given apart. -/
  | twoQueries
  | unevenBrackets
  | badLaterNumber
  | dottedNumberInBrackets
  | noHostNumber (host : String)
  | hiddenSeparator (authority : String)
  | badPort (port : String)
  | endlessPort (digits : Nat)
  | largePort
  deriving DecidableEq, Repr

/-- The most digits of a port that are read at all. -/
def longestPort : Nat := 4300

def largestPort : Nat := 65535

def AddressFault.message : AddressFault → String
  | .twoQueries => "Query string is defined in the path and as an argument"
  | .unevenBrackets => "Invalid IPv6 URL"
  | .badLaterNumber => "IPvFuture address is invalid"
  | .dottedNumberInBrackets => "An IPv4 address cannot be in brackets"
  | .noHostNumber host => Json.quoted host ++ " does not appear to be an IPv4 or IPv6 address"
  | .hiddenSeparator authority =>
    "netloc '" ++ authority ++ "' contains invalid characters under NFKC normalization"
  | .badPort port => "Port could not be cast to integer value as " ++ Json.quoted port
  | .endlessPort digits =>
    "Exceeds the limit (" ++ toString longestPort ++
      " digits) for integer string conversion: value has " ++ toString digits ++
      " digits; use sys.set_int_max_str_digits() to increase the limit"
  | .largePort => "Port out of range 0-" ++ toString largestPort

inductive AddressError where
  | malformed (fault : AddressFault)
  | badLabel
  deriving DecidableEq, Repr

def isUnreserved (c : Char) : Bool := c.isAlphanum || c ∈ ['_', '.', '-', '~']

def escapeBut (safe : List Char) (cs : List Char) : List Char :=
  cs.flatMap fun c =>
    if isUnreserved c || c ∈ safe then [c] else escape (Text.Utf8.encode (String.ofList [c]))

namespace HostNumber

def decimal (cs : List Char) : Nat := cs.foldl (fun n c => n * 10 + (c.toNat - 48)) 0

/-- Whether characters are four numbers below 256, without zeros in front and with dots between. -/
def isDotted (cs : List Char) : Bool :=
  let isPart (p : List Char) : Bool :=
    !p.isEmpty && p.all Char.isDigit && p.length ≤ 3 && (p.length = 1 || p.head? ≠ some '0') &&
      decimal p ≤ 255
  let parts := Text.splitChars '.' cs
  parts.length = 4 && parts.all isPart

/-- The groups of hexadecimal digits of a number, where a dotted number at the end is two. -/
def groups? (cs : List Char) : Option (List (List Char)) :=
  let groups := Text.splitChars ':' cs
  match groups.getLast? with
  | none => none
  | some last =>
    if '.' ∉ last then some groups
    else if isDotted last then some (groups.dropLast ++ [['0'], ['0']])
    else none

def isGroup (g : List Char) : Bool := !g.isEmpty && g.length ≤ 4 && g.all Text.isHexDigit

/-- Whether characters are eight groups of up to four hexadecimal digits, of which two colons may
leave out a run, and maybe a zone behind a percent sign. -/
def isGrouped (cs : List Char) : Bool :=
  let zone := (cs.dropWhile (· ≠ '%')).drop 1
  let zoned : Bool := '%' ∉ cs || (!zone.isEmpty && '%' ∉ zone)
  match groups? (cs.takeWhile (· ≠ '%')) with
  | none => false
  | some groups =>
    let inner := (groups.drop 1).dropLast
    zoned && 3 ≤ groups.length && groups.length ≤ 9 &&
      match inner.idxOf? [] with
      | none => groups.length = 8 && groups.all isGroup
      | some n =>
        let front := groups.take (n + 1)
        let back := groups.drop (n + 2)
        let front := if front = [[]] then [] else front
        let back := if back = [[]] then [] else back
        front.all isGroup && back.all isGroup && front.length + back.length < 8

/-- Whether characters are a number of a kind to come: a `v`, a hexadecimal number, a dot and
anything. -/
def isLater (cs : List Char) : Bool :=
  let version := (cs.drop 1).takeWhile (· ≠ '.')
  cs.head? = some 'v' && !version.isEmpty && version.all Text.isHexDigit &&
    version.length + 2 < cs.length

def fault? (cs : List Char) : Option AddressFault :=
  if cs.head? = some 'v' then if isLater cs then none else some .badLaterNumber
  else if isDotted cs then some .dottedNumberInBrackets
  else if isGrouped cs then none
  else some (.noHostNumber (String.ofList cs))

end HostNumber

structure Authority where
  user : Option (List Char) := none
  password : Option (List Char) := none
  host : List Char
  port : List Char := []
  deriving Repr

namespace Authority

def behind (c : Char) (cs : List Char) : List Char := (cs.dropWhile (· ≠ c)).drop 1

def place (cs : List Char) : List Char := (Text.afterLast '@' (String.ofList cs)).toList

/-- What is wrong with the brackets of an authority. Nothing but a port may stand beside them, and
if there are any, the host is taken for a number. -/
def bracketFault? (cs : List Char) : Option AddressFault :=
  let spot := place cs
  let bracketed := behind '[' spot
  let rest := behind ']' bracketed
  if '[' ∉ cs && ']' ∉ cs then none
  else if '[' ∉ cs || ']' ∉ cs then some .unevenBrackets
  else if '[' ∉ spot then HostNumber.fault? (spot.takeWhile (· ≠ ':'))
  else if spot.head? ≠ some '[' || rest.head?.any (· ≠ ':') then some .unevenBrackets
  else HostNumber.fault? (bracketed.takeWhile (· ≠ ']'))

/-- Characters that turn into separators in the folded form of a text. -/
def hiddenSeparators : List Nat :=
  [0x2047, 0x2048, 0x2049, 0x2100, 0x2101, 0x2105, 0x2106, 0x2a74, 0xfe13, 0xfe16, 0xfe55, 0xfe56,
    0xfe5f, 0xfe6b, 0xff03, 0xff0f, 0xff1a, 0xff1f, 0xff20]

def fault? (cs : List Char) : Option AddressFault :=
  match bracketFault? cs with
  | some fault => some fault
  | none =>
    if cs.any fun c => c.toNat ∈ hiddenSeparators then
      some (.hiddenSeparator (String.ofList cs))
    else none

def ofChars (cs : List Char) : Authority :=
  let user := (Text.beforeLast '@' (String.ofList cs)).toList
  let spot := place cs
  let (host, port) :=
    if '[' ∈ spot then
      let bracketed := behind '[' spot
      (bracketed.takeWhile (· ≠ ']'), behind ':' (behind ']' bracketed))
    else (spot.takeWhile (· ≠ ':'), behind ':' spot)
  { user := if '@' ∈ cs then some (user.takeWhile (· ≠ ':')) else none
    password := if ':' ∈ user then some (behind ':' user) else none
    host := host, port := port }

def safe : List Char := "%!$&'()*+,;=".toList

/-- A host in small letters; what follows a percent sign stays as it is. -/
def smallHost (host : List Char) : List Char :=
  (host.takeWhile (· ≠ '%')).map Char.toLower ++ host.dropWhile (· ≠ '%')

def plainHost (host : List Char) : Except AddressError (List Char) :=
  match HostName.sent? (smallHost host) with
  | none => .error .badLabel
  | some name => .ok (if ':' ∈ name then ['['] ++ name ++ [']'] else name)

/-- A port as it is sent, behind a colon and without zeros in front. -/
def plainPort (port : List Char) : Except AddressError (List Char) :=
  let n := HostNumber.decimal port
  if port.isEmpty then .ok []
  else if !port.all Char.isDigit then .error (.malformed (.badPort (String.ofList port)))
  else if longestPort < port.length then .error (.malformed (.endlessPort port.length))
  else if largestPort < n then .error (.malformed .largePort)
  else .ok (':' :: (toString n).toList)

def plainUser (a : Authority) : List Char :=
  match a.user with
  | none => []
  | some user =>
    let password := match a.password with
      | none => []
      | some password => ':' :: escapeBut safe password
    escapeBut safe user ++ password ++ ['@']

def plain (a : Authority) : Except AddressError (List Char) := do
  let host ← plainHost a.host
  let port ← plainPort a.port
  return a.plainUser ++ host ++ port

end Authority

end CallAtlas.Http
