import PatternLexer.Proofs.Log.Writing
import PatternLexer.Proofs.Session.Setup

set_option autoImplicit false

namespace PatternLexer

structure SetupStep where
  environment : Environment
  call : SetupCall

namespace Session

def answer (s : Session) : SetupCall → Option SetupError × Session
  | .start p => s.start p
  | .installPreferences p => s.installPreferences p
  | .installLogger service => s.installLogger service

def step (s : Session) (a : SetupStep) : Option SetupError × Session :=
  { s with environment := a.environment }.answer a.call

def run (s : Session) (steps : List SetupStep) : Session := steps.foldl (fun s a => (s.step a).2) s

variable {s : Session}

end Session

end PatternLexer
