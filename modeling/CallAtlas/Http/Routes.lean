import CallAtlas.Dot.Drawing
import CallAtlas.Dot.Launcher
import CallAtlas.Http.Address
import CallAtlas.Session
set_option autoImplicit false

/-!
# Routes

What a session answers over HTTP: its view as DOT text and, if there is a launcher, as an image. The
values of a request revise the settings of the session for this one request.
-/

namespace CallAtlas.Http

structure Response where
  status : Nat
  mimetype : String
  body : Text.Bytes
  deriving DecidableEq, Repr

structure Request where
  address : String
  query : String := ""
  launcher : Option Dot.Launcher := none
  deriving Repr

inductive Failure where
  | misfit (m : Misfit)
  | drawing (e : Dot.DrawingError)
  | launch (e : Dot.LaunchError)
  deriving DecidableEq, Repr

def plain (status : Nat) (s : String) : Response := ⟨status, "text/plain", Text.Utf8.encode s⟩

def drawing (s : Session) (form : Form) : Except Failure (Except Response Text.Bytes) :=
  match s.render (s.settingsFor form) with
  | .error (.request e) =>
    match e.misfit? with
    | some m => .error (.misfit m)
    | none => .ok (.error (plain 400 e.text))
  | .error (.drawing e) => .error (.drawing e)
  | .ok bytes => .ok (.ok bytes)

def dotRoute (s : Session) (values : Form) : Except Failure Response := do
  match ← drawing s values with
  | .error refusal => return refusal
  | .ok bytes => return ⟨200, "text/vnd.graphviz", bytes⟩

/-- The answer of the route for images. A launcher that is missing is an answer; one that fails is
not. -/
def imageRoute (s : Session) (installed : Option Dot.Launcher) (values : Form) :
    Except Failure Response := do
  match ← drawing s values with
  | .error refusal => return refusal
  | .ok _ =>
    match Dot.Launcher.run installed Dot.defaultBinary Dot.defaultFormat with
    | .ok image => return ⟨200, "image/svg+xml", image⟩
    | .error (.notFound binary) => return plain 501 (Dot.LaunchError.notFound binary).message
    | .error e => throw (.launch e)

def page (status : Nat) (title heading paragraph : String) : Response :=
  ⟨status, "text/html", Text.Utf8.encode
    ("<!doctype html>\n<html lang=en>\n<title>" ++ title ++ "</title>\n<h1>" ++ heading ++
      "</h1>\n<p>" ++ paragraph)⟩

def faultPage (status : Nat) (title explanation : String) : Response :=
  page status (toString status ++ " " ++ title) title (explanation ++ "</p>\n")

def badRequestPage : Response :=
  faultPage 400 "Bad Request"
    "The browser (or proxy) sent a request that this server could not understand."

def notFoundPage : Response :=
  faultPage 404 "Not Found"
    ("The requested URL was not found on the server. If you entered the URL manually please check " ++
      "your spelling and try again.")

def failurePage : Response :=
  faultPage 500 "Internal Server Error"
    ("The server encountered an internal error and was unable to complete your request. Either the " ++
      "server is overloaded or there is an error in the application.")

def inPage (cs : List Char) : String :=
  String.join (cs.map fun c =>
    if c = '&' then "&amp;" else if c = '<' then "&lt;" else if c = '>' then "&gt;"
    else if c = '\'' then "&#39;" else if c = '"' then "&#34;" else String.ofList [c])

/-- The page that sends to another address. No address with an end of a line in it can be sent. -/
def redirectPage (address : List Char) : Response :=
  if '\n' ∈ address || '\r' ∈ address then failurePage
  else page 308 "Redirecting..." "Redirecting..."
    ("You should be redirected automatically to the target URL: <a href=\"" ++ inPage address ++
      "\">" ++ inPage address ++ "</a>. If not, click the link.\n")

inductive Route where
  | dot
  | image
  | files
  deriving DecidableEq, Repr

def filesStart : List Char := "static/".toList

/-- Whether a path that starts as the paths of files do goes on with the name of one. -/
def isFileName (cs : List Char) : Bool := cs.head?.any (· ≠ '/') && '\n' ∉ cs.drop 1

def Route.ofPath? (path : List Char) : Option Route :=
  if path = "callgraph.dot".toList then some .dot
  else if path = "callgraph.svg".toList then some .image
  else if filesStart.isPrefixOf path && isFileName (path.drop filesStart.length) then some .files
  else none

def joinSlashes : List Char → List Char
  | [] => []
  | [c] => [c]
  | c :: d :: cs => if c = '/' && d = '/' then joinSlashes (d :: cs) else c :: joinSlashes (d :: cs)

def safeInPath : List Char := "!$&'()*+,/:;=@".toList

def Route.answer (s : Session) (installed : Option Dot.Launcher) (t : Target) (route : Route) :
    Response :=
  let values := form t.query
  let routed : Except Failure Response :=
    match route with
    | .dot => dotRoute s values
    | .image => imageRoute s installed values
    | .files => .ok notFoundPage
  match routed with
  | .ok response => response
  | .error _ => failurePage

/-- The answer of a server. A path that would have a route if slashes were not doubled is sent
there. A connection that stays open has no route. -/
def Target.answer (s : Session) (installed : Option Dot.Launcher) (t : Target) : Response :=
  let joined := joinSlashes t.path
  if !t.hasSendableHost then badRequestPage
  else match Route.ofPath? t.path with
    | some route =>
      if t.staysOpen then badRequestPage else route.answer s installed t
    | none =>
      if (Route.ofPath? joined).isNone then notFoundPage
      else if t.staysOpen then badRequestPage
      else redirectPage (t.withPath (escapeBut safeInPath joined))

def answer (s : Session) (r : Request) : Except AddressError Response := do
  return (← Target.ofAddress r.address r.query).answer s r.launcher

end CallAtlas.Http
