import PatternLexer.Files
import PatternLexer.LoadError
import PatternLexer.Settings.Preferences
import PatternLexer.Toml.Document

set_option autoImplicit false

namespace PatternLexer

structure Settings where
  lexing : LexingPreferences
  logging : LoggingPreferences
deriving DecidableEq

namespace Settings

def default (env : Environment) : Settings := ⟨env.lexing, env.logging⟩

-- A section may be a list of its preferences in their order; further items of it do not count. A section that is
-- missing, or that is a moment, gives none.
def fields? (keys : List String) : Option Toml.Value → Option (List (Option Toml.Value))
  | none => some (keys.map fun _ => none)
  | some (.table _ entries) => some (keys.map fun k => Toml.Entries.get? entries k)
  | some (.array items) =>
    some ((items.take keys.length).map some ++ List.replicate (keys.length - items.length) none)
  | some .moment => some (keys.map fun _ => none)
  | some _ => none

def field? {α : Type} (read? : Toml.Value → Option α) (default : α) : Option Toml.Value → Option α
  | none => some default
  | some v => read? v

def flag? : Toml.Value → Option Bool
  | .boolean b => some b
  | _ => none

def level? : Toml.Value → Option Log.Level
  | .string word => Log.Level.ofWord? word
  | .table _ [(word, .table _ [])] => Log.Level.ofWord? word
  | .table _ [(word, .array [])] => Log.Level.ofWord? word
  | _ => none

def lexing? (default : LexingPreferences) (given : Option Toml.Value) :
    Option LexingPreferences :=
  match fields? ["collect_detailed_metrics", "track_kind_usage", "include_position_in_errors"]
    given with
  | some [detailed, track, position] =>
    match field? flag? default.detailedMetrics detailed, field? flag? default.trackKinds track,
      field? flag? default.positionInErrors position with
    | some detailedMetrics, some trackKinds, some positionInErrors =>
      some { detailedMetrics, trackKinds, positionInErrors }
    | _, _, _ => none
  | _ => none

def logging? (default : LoggingPreferences) (given : Option Toml.Value) :
    Option LoggingPreferences :=
  match fields? ["use_structured_logging", "min_log_level"] given with
  | some [structured, limit] =>
    match field? flag? default.structured structured, field? level? default.limit limit with
    | some structured, some limit => some { structured, limit }
    | _, _ => none
  | _ => none

def ofEntries? (env : Environment) (es : Toml.Entries) : Option Settings :=
  match lexing? env.lexing (es.get? "lexical"), logging? env.logging (es.get? "logging") with
  | some lexing, some logging => some { lexing, logging }
  | _, _ => none

def ofToml (env : Environment) (text : String) : Except LoadError Settings :=
  match (Toml.parse? text).bind (ofEntries? env) with
  | some s => .ok s
  | none => .error .malformedSettings

def load (env : Environment) (files : Files) (path : String) : Except LoadError Settings :=
  match files.read? path with
  | some text => ofToml env text
  | none => .error (.unreadableFile path)

end Settings

end PatternLexer
