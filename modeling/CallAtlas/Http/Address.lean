import CallAtlas.Http.Authority
set_option autoImplicit false

/-!
# Addresses

Where a request goes. An address has a scheme, an authority, a path and a query, of which all may be
missing. What stands behind scheme and authority is read as an address again, and its path once
more, so that a path with two slashes in front loses its first step each time.
-/

namespace CallAtlas.Http

structure Address where
  scheme : List Char := []
  authority : List Char := []
  path : List Char
  query : List Char := []
  deriving Repr

namespace Address

/-- Without blanks and control characters in front, and without ends of lines and tabs. -/
def tidied (cs : List Char) : List Char :=
  (cs.dropWhile fun c => c.toNat ≤ 0x20).filter fun c => c ∉ ['\t', '\n', '\r']

def isSchemeChar (c : Char) : Bool := c.isAlphanum || c ∈ ['+', '-', '.']

def splitScheme (cs : List Char) : List Char × List Char :=
  let scheme := cs.takeWhile (· ≠ ':')
  if ':' ∈ cs && scheme.head?.any Char.isAlpha && scheme.all isSchemeChar then
    (scheme.map Char.toLower, cs.drop (scheme.length + 1))
  else ([], cs)

def endsAuthority (c : Char) : Bool := c ∈ ['/', '?', '#']

def splitAuthority : List Char → List Char × List Char
  | '/' :: '/' :: cs => (cs.takeWhile (!endsAuthority ·), cs.dropWhile (!endsAuthority ·))
  | cs => ([], cs)

/-- Reads an address. What follows a number sign is not sent to a server. -/
def read (cs : List Char) : Except AddressError Address :=
  let (scheme, rest) := splitScheme (tidied cs)
  let (authority, rest) := splitAuthority rest
  let rest := rest.takeWhile (· ≠ '#')
  match Authority.fault? authority with
  | some fault => .error (.malformed fault)
  | none =>
    .ok { scheme := scheme, authority := authority, path := rest.takeWhile (· ≠ '?')
          query := Authority.behind '?' rest }

/-- A path as a server is asked for it. One that is an address itself has its authority put into the
form that is sent. -/
def plainPath (path : List Char) : Except AddressError (List Char) := do
  let a ← read path
  let authority ← (Authority.ofChars a.authority).plain
  let scheme := if a.scheme.isEmpty then [] else a.scheme ++ [':']
  return scheme ++ (if authority.isEmpty then [] else '/' :: '/' :: authority) ++ a.path

end Address

structure Target where
  scheme : List Char
  /-- Whom the request is for, without the port that the scheme implies. It is empty if it is
  nothing that a server can be called. -/
  host : List Char
  path : List Char
  query : String
  deriving Repr

namespace Target

def defaultScheme : List Char := "http".toList
def defaultAuthority : List Char := "localhost".toList

def openSchemes : List (List Char) := ["ws".toList, "wss".toList]

/-- The schemes whose addresses have slashes in front of the authority even if that is empty. -/
def authoritySchemes : List (List Char) :=
  ["ftp", "http", "gopher", "nntp", "telnet", "imap", "wais", "file", "mms", "https", "shttp",
    "snews", "prospero", "rtsp", "rtspu", "rsync", "svn", "svn+ssh", "sftp", "nfs", "git",
    "git+ssh", "ws", "wss", "itms-services"].map String.toList

def impliedPort (scheme : List Char) : List Char :=
  if scheme = "http".toList || scheme = "ws".toList then ":80".toList
  else if scheme = "https".toList || scheme = "wss".toList then ":443".toList
  else []

def withoutImpliedPort (scheme authority : List Char) : List Char :=
  let port := impliedPort scheme
  if !port.isEmpty && port.isSuffixOf authority then
    authority.take (authority.length - port.length)
  else authority

/-- Whether characters are nothing, or a colon and a decimal number that is not zero. -/
def isPortPart (cs : List Char) : Bool :=
  cs.isEmpty ||
    (cs.head? = some ':' && (cs.drop 1).all Char.isDigit && 0 < HostNumber.decimal (cs.drop 1))

/-- Whether a server can be called so: a name of letters, digits, dots and hyphens, or hexadecimal
digits, colons and dots in brackets, with a colon before the first dot; behind it maybe a port. -/
def isCallable (cs : List Char) : Bool :=
  if cs.head? = some '[' then
    let number := (cs.drop 1).takeWhile (· ≠ ']')
    let group := number.takeWhile (· ≠ ':')
    let rest := number.drop (group.length + 1)
    ']' ∈ cs && group.all Text.isHexDigit && !rest.isEmpty &&
      rest.all (fun c => Text.isHexDigit c || c = '.' || c = ':') &&
      isPortPart (cs.drop (number.length + 2))
  else
    let name := cs.takeWhile fun c => c.isAlphanum || c = '.' || c = '-'
    !name.isEmpty && isPortPart (cs.drop name.length)

def shownHost (scheme authority : List Char) : List Char :=
  let host := withoutImpliedPort scheme authority
  if isCallable host then host.map Char.toLower else []

def nameOf (host : List Char) : List Char := host.takeWhile (· ≠ ':')

def readError? (host : List Char) : Option AddressError :=
  match HostName.read? (nameOf host) with
  | none => some .badLabel
  | some name => (Authority.fault? (name ++ host.drop (nameOf host).length)).map .malformed

def unescaped (cs : List Char) : List Char :=
  (Text.Utf8.decodeLossy (unescape (Text.Utf8.encode (String.ofList cs)))).toList

/-- What an address asks for with a query that is given apart. The address must not hold one. The
authority has to be one also in the form that is sent, and the host can be read from that again. -/
def ofAddress (address query : String) : Except AddressError Target := do
  let outer ← Address.read address.toList
  if !outer.query.isEmpty then throw (.malformed .twoQueries)
  let inner ← Address.read outer.path
  let path ← Address.plainPath inner.path
  let scheme := if outer.scheme.isEmpty then defaultScheme else outer.scheme
  let authority := if outer.authority.isEmpty then defaultAuthority else outer.authority
  let sent ← (Authority.ofChars authority).plain
  if let some fault := Authority.fault? sent then throw (.malformed fault)
  let host := shownHost scheme sent
  if let some e := readError? host then throw e
  return { scheme := scheme, host := host, path := (unescaped path).dropWhile (· = '/')
           query := query }

def staysOpen (t : Target) : Bool := t.scheme ∈ openSchemes

/-- Whether the name of the host, without the port, can be sent. It may have got dots of its own
when it was folded. -/
def hasSendableHost (t : Target) : Bool :=
  (HostName.sent? (nameOf t.host)).isSome

def withPath (t : Target) (path : List Char) : List Char :=
  let start :=
    if t.host.isEmpty && t.scheme ∉ authoritySchemes then [':'] else "://".toList ++ t.host
  let query := if t.query = "" then [] else '?' :: t.query.toList
  t.scheme ++ start ++ '/' :: path ++ query

end Target

end CallAtlas.Http
