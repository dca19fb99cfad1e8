import PatternLexer.Kind
import PatternLexer.Log.Code

set_option autoImplicit false

namespace PatternLexer

inductive LoadError where
  | unreadableFile (path : String)
  | malformedTable
  | malformedSettings
  | unknownKind (name : String)
  | emptyLexeme (kind : Kind)
  | duplicateLexeme (lexeme : String) (first second : Kind)
  | reservedKind (kind : Kind)
  | backslashShadowed (kind : Kind)
  | invalidShorthand (kind : Kind) (lexeme : String)
deriving DecidableEq

namespace LoadError

-- What a failing reader says of malformed text is not kept; this mark stands for it.
def unstated : String := "*"

def stated : LoadError → String
  | unreadableFile path => "Unable to read configuration file " ++ path ++ ": "
  | malformedTable => "Malformed token map: "
  | malformedSettings => "Malformed runtime configuration: "
  | unknownKind name => "Unknown token kind '" ++ name ++ "' in token map"
  | emptyLexeme k => "Token kind " ++ k.name ++ " is bound to an empty lexeme"
  | duplicateLexeme l first second =>
    "Lexeme '" ++ l ++ "' is bound to both " ++ first.name ++ " and " ++ second.name
  | reservedKind k =>
    "Token kind " ++ k.name ++ " is produced by the lexer and cannot be bound in a token map"
  | backslashShadowed k =>
    "Backslash cannot be bound to " ++ k.name ++ ": it would shadow every escape sequence"
  | invalidShorthand k l =>
    "Shorthand class " ++ k.name ++ " must be bound to a single lowercase letter, found '" ++ l ++ "'"

def mark : LoadError → String
  | unreadableFile _ => unstated
  | malformedTable => unstated
  | malformedSettings => unstated
  | _ => ""

def message (e : LoadError) : String := e.stated ++ e.mark

def code : LoadError → Log.Code
  | unreadableFile _ => .unreadableFile
  | malformedTable => .malformedTable
  | malformedSettings => .malformedSettings
  | unknownKind _ => .unknownKind
  | duplicateLexeme _ _ _ => .duplicateLexeme
  | emptyLexeme _ => .invalidBinding
  | reservedKind _ => .invalidBinding
  | backslashShadowed _ => .invalidBinding
  | invalidShorthand _ _ => .invalidBinding

end LoadError

end PatternLexer
