set_option autoImplicit false

namespace PatternLexer.Log

inductive Level where
  | error
  | warning
  | info
  | debug
deriving DecidableEq

namespace Level

def all : List Level := [.error, .warning, .info, .debug]

def rank : Level → Nat
  | error => 0
  | warning => 1
  | info => 2
  | debug => 3

def admits (limit level : Level) : Bool := level.rank ≤ limit.rank

def label : Level → String
  | error => "ERROR"
  | warning => "WARN"
  | info => "INFO"
  | debug => "DEBUG"

def word : Level → String
  | error => "error"
  | warning => "warning"
  | info => "info"
  | debug => "debug"

def title : Level → String
  | error => "Error"
  | warning => "Warning"
  | info => "Info"
  | debug => "Debug"

def ofWord? (s : String) : Option Level := all.find? (·.word == s)

@[simp] theorem admits_self (l : Level) : l.admits l = true := by simp [admits]

end Level

end PatternLexer.Log
