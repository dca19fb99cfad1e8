import PatternLexer.Log.Level

set_option autoImplicit false

namespace PatternLexer

structure LexingPreferences where
  detailedMetrics : Bool := true
  trackKinds : Bool := false
  positionInErrors : Bool := true
deriving DecidableEq

structure LoggingPreferences where
  structured : Bool := false
  limit : Log.Level := .info
deriving DecidableEq

structure Environment where
  detailedMetrics : Option String := none
  trackKinds : Option String := none
  positionInErrors : Option String := none
  structured : Option String := none
  limit : Option String := none
deriving DecidableEq

namespace Environment

def flag? (word : String) : Option Bool :=
  if word = "true" then some true
  else if word = "false" then some false
  else none

def level? (word : String) : Option Log.Level :=
  let word := word.toLower
  if word = "error" ∨ word = "0" then some .error
  else if word = "warning" ∨ word = "warn" ∨ word = "1" then some .warning
  else if word = "info" ∨ word = "2" then some .info
  else if word = "debug" ∨ word = "3" then some .debug
  else none

def lexing (env : Environment) : LexingPreferences where
  detailedMetrics := (env.detailedMetrics.bind flag?).getD true
  trackKinds := (env.trackKinds.bind flag?).getD false
  positionInErrors := (env.positionInErrors.bind flag?).getD true

def logging (env : Environment) : LoggingPreferences where
  structured := (env.structured.bind flag?).getD false
  limit := (env.limit.bind level?).getD .info

end Environment

end PatternLexer
