import PatternLexer.Files
import PatternLexer.Log.Event
import PatternLexer.Table.Builtin

set_option autoImplicit false

namespace PatternLexer

namespace LoadError

def details : LoadError → List (String × String)
  | unknownKind name => [("kind", name)]
  | emptyLexeme k => [("kind", k.name)]
  | reservedKind k => [("kind", k.name)]
  | backslashShadowed k => [("kind", k.name)]
  | invalidShorthand k _ => [("kind", k.name)]
  | duplicateLexeme _ _ _ => []
  | unreadableFile _ => []
  | malformedTable => []
  | malformedSettings => []

-- The mark for the words of a failing reader is no text and does not count toward the limit on messages.
def event (e : LoadError) : Log.Event :=
  let report := (Log.Event.error e.code e.stated).withDetails e.details
  if report.message = e.stated then { report with message := e.message } else report

end LoadError

structure Attempt (α : Type) where
  result : Except LoadError α
  notices : List Log.Notice := []

namespace Attempt

variable {α β : Type}

def report : Except LoadError α → Attempt α
  | .ok a => { result := .ok a }
  | .error e => { result := .error e, notices := [.always e.event] }

def andThen (x : Attempt α) (onward : α → Attempt β) : Attempt β :=
  match x.result with
  | .ok a =>
    let y := onward a
    { result := y.result, notices := x.notices ++ y.notices }
  | .error e => { result := .error e, notices := x.notices }

def noting (x : Attempt α) (notice : α → Log.Notice) : Attempt α :=
  x.andThen fun a => { result := .ok a, notices := [notice a] }

end Attempt

namespace Table

def builtNotice (t : Table) : Log.Notice :=
  .whenDebugging "Token map built" [("entries", toString t.size)]

def loadedEvent (path : String) (t : Table) : Log.Event :=
  (Log.Event.success .tableLoaded "Token map loaded").withDetails
    [("path", path), ("entries", toString t.size)]

def bindEach (t : Table) : List Binding → Attempt Table
  | [] => { result := .ok t }
  | b :: bs => (Attempt.report (t.bind b)).andThen fun t => t.bindEach bs

def build (bs : List Binding) : Attempt Table := (({} : Table).bindEach bs).noting builtNotice

def kindNamed (name : String) : Except LoadError Kind :=
  match Kind.ofName? name with
  | some kind => .ok kind
  | none => .error (.unknownKind name)

-- All names are looked up before anything is bound.
def resolveEach : List (String × String) → Attempt (List Binding)
  | [] => { result := .ok [] }
  | (name, lexeme) :: rest =>
    (Attempt.report (kindNamed name)).andThen fun kind =>
      (resolveEach rest).andThen fun bs => { result := .ok (⟨kind, lexeme⟩ :: bs) }

def readNamed (text : String) : Except LoadError Named :=
  match (Json.parse? text).bind named? with
  | some n => .ok n
  | none => .error .malformedTable

def buildJson (text : String) : Attempt Table :=
  (Attempt.report (readNamed text)).andThen fun n => (resolveEach n.toList).andThen build

def readFile (files : Files) (path : String) : Except LoadError String :=
  match files.read? path with
  | some text => .ok text
  | none => .error (.unreadableFile path)

def buildFile (files : Files) (path : String) : Attempt Table :=
  ((Attempt.report (readFile files path)).andThen buildJson).noting fun t => .always (loadedEvent path t)

end Table

end PatternLexer
