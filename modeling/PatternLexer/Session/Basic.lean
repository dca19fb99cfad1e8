import PatternLexer.Files
import PatternLexer.Log.Service
import PatternLexer.Settings.Preferences

set_option autoImplicit false

namespace PatternLexer

structure Session where
  environment : Environment := {}
  files : Files := {}
  preferences : Option LoggingPreferences := none
  logger : Option Log.Service := none
  builtinReady : Bool := false
  printed : Array Log.Printed := #[]
deriving DecidableEq

def LoggingPreferences.service (p : LoggingPreferences) : Log.Service :=
  ⟨if p.structured then .structured p.limit else .console p.limit, p.limit⟩

namespace Session

def current (s : Session) : LoggingPreferences := s.preferences.getD s.environment.logging

def isStarted (s : Session) : Bool := s.logger.isSome

def print (s : Session) (texts : List Log.Printed) : Session :=
  { s with printed := s.printed ++ texts }

def log (s : Session) (e : Log.Event) : Session :=
  match s.logger with
  | none => s
  | some service =>
    let (service, texts) := service.log e
    { s with logger := some service }.print texts

def debugs (s : Session) : Bool := s.current.limit == .debug

def publish (s : Session) (n : Log.Notice) : Session :=
  if n.guarded && !s.debugs then s else s.log n.event

def publishAll (s : Session) (ns : List Log.Notice) : Session := ns.foldl publish s

def logOrPrint (s : Session) (code : Log.Code) (message : String) : Session :=
  match s.logger with
  | some _ => s.log (.error code message)
  | none => s.print [⟨.err, "[ERROR] FALLBACK: [" ++ code.text ++ "] " ++ message⟩]

def logged? (s : Session) : Option (List Log.Event) :=
  (s.logger.bind Log.Service.memory?).map Log.Memory.toList

def forget (s : Session) : Session :=
  { s with logger := s.logger.map fun service => service.mapMemory Log.Memory.clear }

end Session

end PatternLexer
