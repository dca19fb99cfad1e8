import Std.Data.ExtTreeMap
import PatternLexer.Json.Printer
import PatternLexer.Log.Code
import PatternLexer.Log.Instant
import PatternLexer.Log.Level

set_option autoImplicit false

namespace PatternLexer.Log

def messageLimit : Nat := 4096

def fitting (room : Nat) : List Char → List Char
  | [] => []
  | c :: cs => if c.utf8Size ≤ room then c :: fitting (room - c.utf8Size) cs else []

def limitMessage (message : String) : String :=
  if message.utf8ByteSize ≤ messageLimit then message
  else String.ofList (fitting messageLimit message.toList) ++ "..."

abbrev Context := Std.ExtTreeMap String String compare

-- A time that was measured and not given is outside this library.
def unmeasured : String := "*"

structure Event where
  level : Level
  code : Code
  message : String
  position : Option Int := none
  context : Context := ∅
  time : Option Instant := none
deriving DecidableEq

namespace Event

def ofMessage (level : Level) (code : Code) (message : String) : Event :=
  { level, code, message := limitMessage message }

def error (code : Code) (message : String) : Event := ofMessage .error code message
def success (code : Code) (message : String) : Event := ofMessage .info code message
def warning (message : String) : Event := ofMessage .warning .anyWarning message
def info (message : String) : Event := ofMessage .info .anyInfo message
def debug (message : String) : Event := ofMessage .debug .anyDebug message

def withPosition (e : Event) (position : Int) : Event := { e with position := some position }

def withContext (e : Event) (key value : String) : Event :=
  { e with context := e.context.insert key value }

def withDetails (e : Event) (details : List (String × String)) : Event :=
  details.foldl (fun e d => e.withContext d.1 d.2) e

def classified (code : Code) (message : String) : Event :=
  (error code message).withDetails
    [("severity", code.severity.name), ("recoverable", toString code.recoverable)]

def timed (code : Code) (message milliseconds : String) (details : List (String × String)) :
    Event :=
  (success code message).withDetails (("duration_ms", milliseconds) :: details)

def withTime (e : Event) (time : Instant) : Event := { e with time := some time }

def isError (e : Event) : Bool := e.level == .error
def isWarning (e : Event) : Bool := e.level == .warning
def isInfo (e : Event) : Bool := e.level == .info
def isDebug (e : Event) : Bool := e.level == .debug

def timeText (e : Event) : String :=
  match e.time with
  | some t => t.text
  | none => unmeasured

def line (e : Event) : String :=
  "[" ++ e.level.label ++ "] " ++ e.code.text ++ " - " ++ e.message ++
    match e.position with
    | some p => " at position " ++ toString p
    | none => ""

def contextLines (e : Event) : String :=
  if e.context.isEmpty then ""
  else "\n  Context:" ++
    String.join (e.context.toList.map fun (k, v) => "\n    " ++ k ++ ": " ++ v)

def report (e : Event) : String :=
  e.line ++ "\n  Category: " ++ e.code.category ++ "\n  Severity: " ++ e.code.severity.name ++
    (if e.code.description = Code.unknownDescription then ""
      else "\n  Description: " ++ e.code.description) ++
    e.contextLines

def contextJson (c : Context) : Json :=
  .record (c.toList.map fun (k, v) => (k, .text v))

def members (e : Event) : List (String × Json) :=
  [("category", .text e.code.category), ("code", .text e.code.text)] ++
    (if e.context.isEmpty then [] else [("context", contextJson e.context)]) ++
    (if e.isError then
      [("error_metadata",
        .record [("description", .text e.code.description),
          ("requires_halt", .bool e.code.requiresHalt)])]
      else []) ++
    [("level", .text e.level.label), ("message", .text e.message)] ++
    (match e.position with
      | some p => [("position", .int p)]
      | none => []) ++
    [("severity", .text e.code.severity.name), ("timestamp", .text e.timeText)]

def toJson (e : Event) : Json := .record e.members

def jsonLine (e : Event) : String := e.toJson.write

end Event

-- A guarded event is meant only for a process whose preferences choose the level debug.
structure Notice where
  event : Event
  guarded : Bool := false
deriving DecidableEq

namespace Notice

def always (event : Event) : Notice := ⟨event, false⟩

def whenDebugging (message : String) (details : List (String × String)) : Notice :=
  ⟨(Event.debug message).withDetails details, true⟩

end Notice

end PatternLexer.Log
