set_option autoImplicit false

namespace PatternLexer.Log

inductive Severity where
  | critical
  | high
  | medium
  | low
deriving DecidableEq

namespace Severity

def rank : Severity → Nat
  | critical => 0
  | high => 1
  | medium => 2
  | low => 3

def name : Severity → String
  | critical => "Critical"
  | high => "High"
  | medium => "Medium"
  | low => "Low"

end Severity

structure Code where
  text : String
deriving DecidableEq

namespace Code

def internalError : Code := ⟨"ERR001"⟩
def initializationFailure : Code := ⟨"ERR002"⟩
def unreadableFile : Code := ⟨"E010"⟩
def malformedTable : Code := ⟨"E011"⟩
def malformedSettings : Code := ⟨"E012"⟩
def unknownKind : Code := ⟨"E013"⟩
def invalidBinding : Code := ⟨"E014"⟩
def duplicateLexeme : Code := ⟨"E015"⟩
def unknownCharacter : Code := ⟨"E020"⟩
def unterminatedProperty : Code := ⟨"E021"⟩
def unknownProperty : Code := ⟨"E022"⟩
def patternTooLong : Code := ⟨"E023"⟩
def initialized : Code := ⟨"I004"⟩
def tableLoaded : Code := ⟨"I010"⟩
def tokenized : Code := ⟨"I020"⟩
def anyWarning : Code := ⟨"W000"⟩
def anyInfo : Code := ⟨"I000"⟩
def anyDebug : Code := ⟨"D000"⟩

end Code

structure CodeEntry where
  code : Code
  category : String
  severity : Severity
  recoverable : Bool
  requiresHalt : Bool
  description : String
  action : String
deriving DecidableEq

namespace CodeEntry

def failure (code : Code) (category : String) (severity : Severity)
    (description action : String) : CodeEntry :=
  ⟨code, category, severity, false, true, description, action⟩

def success (code : Code) (category : String) (description action : String) : CodeEntry :=
  ⟨code, category, .low, true, false, description, action⟩

def register : List CodeEntry :=
  [failure .internalError "System" .critical "Critical internal system error"
      "File a bug report with the failing pattern",
    failure .initializationFailure "System" .critical "System initialization failed"
      "Check logging and token map configuration",
    failure .unreadableFile "Configuration" .critical "Configuration file could not be read"
      "Check the file path and permissions",
    failure .malformedTable "Configuration" .critical
      "Token map is not a JSON object of kind names to lexemes" "Fix the token map JSON syntax",
    failure .malformedSettings "Configuration" .high
      "Runtime configuration is not valid TOML for the expected sections"
      "Fix the runtime configuration file",
    failure .unknownKind "Configuration" .critical
      "Token map names a token kind that does not exist"
      "Use one of the canonical token kind names",
    failure .invalidBinding "Configuration" .critical
      "Token map binds a kind to a lexeme it cannot carry"
      "Bind shorthand classes to one lowercase letter and leave synthesized kinds and the backslash out",
    failure .duplicateLexeme "Configuration" .critical
      "Two token kinds are bound to the same lexeme" "Remove one of the conflicting bindings",
    failure .unknownCharacter "Lexical" .high "Character has no classification rule"
      "Escape the character or add it to the token map",
    failure .unterminatedProperty "Lexical" .high
      "Unicode property escape reached end of input before '\x7d'"
      "Close the property name with '\x7d'",
    failure .unknownProperty "Lexical" .high "Unicode property name is not in the token map"
      "Use a supported property or script name",
    failure .patternTooLong "Lexical" .high "Pattern exceeds the maximum accepted length"
      "Split the pattern or raise MAX_PATTERN_LENGTH",
    success .initialized "System" "System initialization completed" "No action required",
    success .tableLoaded "Configuration" "Token map loaded and validated" "No action required",
    success .tokenized "Lexical" "Pattern tokenization completed"
      "Hand the token stream to the parser"]

end CodeEntry

namespace Code

def entry? (c : Code) : Option CodeEntry := CodeEntry.register.find? (·.code == c)

def severity (c : Code) : Severity :=
  match c.entry? with
  | some e => e.severity
  | none => .medium

def recoverable (c : Code) : Bool :=
  match c.entry? with
  | some e => e.recoverable
  | none => true

def requiresHalt (c : Code) : Bool :=
  match c.entry? with
  | some e => e.requiresHalt
  | none => false

def unknownDescription : String := "Unknown error"

def description (c : Code) : String :=
  match c.entry? with
  | some e => e.description
  | none => unknownDescription

def action (c : Code) : String :=
  match c.entry? with
  | some e => e.action
  | none => "No specific action available"

def category (c : Code) : String :=
  match c.entry? with
  | some e => e.category
  | none => "Unknown"

end Code

end PatternLexer.Log
