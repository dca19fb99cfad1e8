import PatternLexer.Log.Event

set_option autoImplicit false

namespace PatternLexer.Log

inductive Channel where
  | out
  | err
deriving DecidableEq

structure Printed where
  channel : Channel
  text : String
deriving DecidableEq

def Printed.ofEvent (e : Event) (text : String) : Printed :=
  ⟨if e.isError then .err else .out, text⟩

def Memory.capacity : Nat := 10000

structure Memory where
  events : Array Event := #[]
  fits : events.size ≤ Memory.capacity := by exact Nat.zero_le _
deriving DecidableEq

namespace Memory

def popFront (events : Array Event) : Array Event := events.extract 1 events.size

def makeRoom (events : Array Event) : Array Event :=
  if capacity ≤ events.size then popFront events else events

theorem room_made {events : Array Event} (fits : events.size ≤ capacity) : (makeRoom events).size < capacity := by
  have some_room : 0 < capacity := by decide
  rw [makeRoom]
  split
  · rw [popFront, Array.size_extract]
    omega
  · omega

def add (m : Memory) (e : Event) : Memory where
  events := (makeRoom m.events).push e
  fits := by
    rw [Array.size_push]
    exact room_made m.fits

def toList (m : Memory) : List Event := m.events.toList

def count (m : Memory) : Nat := m.events.size

def clear (_ : Memory) : Memory := {}

def errors (m : Memory) : List Event := m.toList.filter (·.isError)

def withCode (m : Memory) (c : Code) : List Event := m.toList.filter (·.code == c)

def hasError (m : Memory) (c : Code) : Bool := m.toList.any fun e => e.isError && e.code == c

def hasSuccess (m : Memory) (c : Code) : Bool := m.toList.any fun e => e.isInfo && e.code == c

end Memory

-- The printing sinks have a limit of their own, fixed when they are made.
inductive Sink where
  | console (limit : Level)
  | structured (limit : Level)
  | memory (held : Memory)
deriving DecidableEq

namespace Sink

def name : Sink → String
  | console _ => "console"
  | structured _ => "structured"
  | memory _ => "memory"

def log (s : Sink) (e : Event) : Sink × List Printed :=
  match s with
  | console limit => (s, if limit.admits e.level then [.ofEvent e e.line] else [])
  | structured limit => (s, if limit.admits e.level then [.ofEvent e e.jsonLine] else [])
  | memory held => (memory (held.add e), [])

end Sink

structure Service where
  sink : Sink
  limit : Level
deriving DecidableEq

namespace Service

def name (s : Service) : String := s.sink.name

def shouldLog (s : Service) (level : Level) : Bool := s.limit.admits level

def setLimit (s : Service) (limit : Level) : Service := { s with limit }

def log (s : Service) (e : Event) : Service × List Printed :=
  if s.shouldLog e.level then
    let (sink, printed) := s.sink.log e
    ({ s with sink }, printed)
  else (s, [])

def logAll (s : Service) (es : List Event) : Service × List Printed :=
  es.foldl (fun (s, printed) e =>
    let (s, more) := s.log e
    (s, printed ++ more)) (s, [])

def inMemory (limit : Level) : Service := ⟨.memory {}, limit⟩

def memory? (s : Service) : Option Memory :=
  match s.sink with
  | .memory held => some held
  | _ => none

def mapMemory (s : Service) (f : Memory → Memory) : Service :=
  match s.sink with
  | .memory held => { s with sink := .memory (f held) }
  | _ => s

end Service

end PatternLexer.Log
