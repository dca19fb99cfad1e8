import PatternLexer.Session.Basic
import PatternLexer.Table.Builtin

set_option autoImplicit false

namespace PatternLexer

def profile : String := "development"

def sourceText : String :=
  "Built-in token map (" ++ toString Table.builtinText.utf8ByteSize ++ " bytes), profile " ++ profile

namespace LoggingPreferences

def summary (p : LoggingPreferences) : String :=
  "\n".intercalate
    ["Logging Configuration:",
      "=== Compile-time Limits ===",
      "- Max message length: " ++ toString Log.messageLimit,
      "- Memory logger capacity: " ++ toString Log.Memory.capacity,
      "=== User Preferences (Runtime) ===",
      "- Min log level: " ++ p.limit.title,
      "- Structured logging: " ++ toString p.structured]

end LoggingPreferences

namespace Session

def diagnostics (s : Session) : String :=
  "\n".intercalate
    ["=== Logging System Diagnostics ===",
      "Initialized: " ++ toString s.isStarted,
      "Build: " ++ sourceText,
      "",
      s.current.summary]

end Session

end PatternLexer
