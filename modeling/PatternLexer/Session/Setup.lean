import PatternLexer.Lexer.Error
import PatternLexer.Session.Basic

set_option autoImplicit false

namespace PatternLexer

inductive SetupError where
  | messageLimitTooSmall
  | noMemory
  | invalid (fault : SetupError)
  | preferencesInstalled
  | loggerInstalled
  | undescribed (code : Log.Code)
  | unregistered (code : Log.Code)
deriving DecidableEq

namespace SetupError

def message : SetupError → String
  | messageLimitTooSmall => "Log message length limit too small: " ++ toString Log.messageLimit
  | noMemory => "Memory logger capacity must be positive"
  | invalid fault => "Configuration validation failed: " ++ fault.message
  | preferencesInstalled => "Runtime preferences already initialized"
  | loggerInstalled => "Global logger already initialized"
  | undescribed c => "Missing metadata for error code: " ++ c.text
  | unregistered c => "Lexical error code " ++ c.text ++ " not found in metadata registry"

end SetupError

def limitsFault? : Option SetupError :=
  if Log.messageLimit < 80 then some .messageLimitTooSmall
  else if Log.Memory.capacity = 0 then some .noMemory
  else none

def unregistered? : Option SetupError :=
  ([.unknownCharacter, .unterminatedProperty, .unknownProperty, .patternTooLong].find?
    fun (c : Log.Code) => c.entry?.isNone).map .unregistered

def undescribed? : Option SetupError :=
  ([.internalError, .unreadableFile, .unknownCharacter, .tokenized].find?
    fun (c : Log.Code) => c.description == Log.Code.unknownDescription).map .undescribed

namespace Session

def installPreferences (s : Session) (p : LoggingPreferences) : Option SetupError × Session :=
  match s.preferences with
  | some _ => (some .preferencesInstalled, s)
  | none => (none, { s with preferences := some p })

def installLogger (s : Session) (service : Log.Service) : Option SetupError × Session :=
  match s.logger with
  | some _ => (some .loggerInstalled, s)
  | none => (none, { s with logger := some service })

def startedEvent (service : Log.Service) : Log.Event :=
  (Log.Event.success .initialized "Global logging system initialized").withContext "logger"
    service.name

def startLogger (s : Session) : Option SetupError × Session :=
  let service := s.current.service
  match s.installLogger service with
  | (some e, s) => (some e, s)
  | (none, s) =>
    match undescribed? with
    | some e => (some e, s)
    | none => (none, s.log (startedEvent service))

-- The preferences stay installed even where a logger is found in place.
def install (s : Session) (p : LoggingPreferences) : Option SetupError × Session :=
  match limitsFault? with
  | some e => (some (.invalid e), s)
  | none =>
    match s.installPreferences p with
    | (some e, s) => (some e, s)
    | (none, s) => s.startLogger

def start (s : Session) (p : LoggingPreferences) : Option SetupError × Session :=
  match s.install p with
  | (some e, s) => (some e, s.logOrPrint .initializationFailure e.message)
  | (none, s) => (none, s)

end Session

end PatternLexer
