set_option autoImplicit false

/-!
# Events

What is reported while an analysis is loaded or a view is made, with the line each event is
reported as.
-/

namespace CallAtlas

inductive Event where
  | packageError (path message : String)
  | focusing (path : String)
  /-- How many of all wrappers were taken out. -/
  | elided (removed all : Nat)
  | limitDropped (count depth : Nat)
  | reduced (reachable nodes edges : Nat)
  deriving DecidableEq, Repr

inductive Level where
  | error
  | info
  | debug
  deriving DecidableEq, Repr

def Level.text : Level → String
  | .error => "ERROR"
  | .info => "INFO"
  | .debug => "DEBUG"

namespace Event

def level : Event → Level
  | .packageError _ _ => .error
  | .focusing _ | .reduced _ _ _ => .info
  | .elided _ _ | .limitDropped _ _ => .debug

def message : Event → String
  | .packageError path message => path ++ ": " ++ message
  | .focusing path => "focusing: " ++ path
  | .elided removed all =>
    "Elided " ++ toString removed ++ " of " ++ toString all ++ " synthetic functions"
  | .limitDropped count depth =>
    "Limit dropped " ++ toString count ++ " functions beyond depth " ++ toString depth
  | .reduced reachable nodes edges =>
    "Reduced " ++ toString reachable ++ " reachable functions to " ++ toString nodes ++ " nodes / " ++
      toString edges ++ " edges"

def line (e : Event) : String := e.level.text ++ " " ++ e.message

end Event

end CallAtlas
