import PatternLexer.Lexer.Metrics
import PatternLexer.Lexer.Scan

set_option autoImplicit false

namespace PatternLexer

-- At the end of its tape and after an error a lexer is final: it answers the same for ever and changes no more.
structure Lexer where
  table : Table
  tape : Tape Char
  preferences : LexingPreferences := {}
  state : State := .start
  failure : Option LexError := none
  metrics : Metrics := {}
deriving DecidableEq

structure Reading where
  result : Except LexError Token
  lexer : Lexer
  notices : List Log.Notice := []
deriving DecidableEq

namespace Lexer

def ofTape (table : Table) (preferences : LexingPreferences) (tape : Tape Char) : Lexer :=
  { table, tape, preferences }

def create (table : Table) (preferences : LexingPreferences) (pattern : String) :
    Except LexError Lexer :=
  if patternLimit < pattern.length then .error (.patternTooLong pattern.length)
  else .ok (ofTape table preferences (.ofList pattern.toList))

def createNotices (pattern : String) : List Log.Notice :=
  if patternLimit < pattern.length then [.always (LexError.lengthEvent pattern.length)]
  else [.whenDebugging "Starting lexical analysis"
    [("pattern_length", toString pattern.length)]]

def withPreferences (l : Lexer) (preferences : LexingPreferences) : Lexer := { l with preferences }

def moveTo (l : Lexer) (s : Scan) : Lexer := { l with tape := s.tape, state := s.state }

def finish (l : Lexer) : Lexer := { l with state := .done }

def accept (l : Lexer) (k : Token) : Lexer :=
  { l with state := .start, metrics := l.metrics.record l.preferences k }

def fail (l : Lexer) (e : LexError) : Lexer :=
  { l with state := .failed, failure := some e, metrics := l.metrics.recordError }

def report (l : Lexer) (e : LexError) : Log.Event :=
  e.event l.preferences.positionInErrors l.tape.cursor

def settle (l : Lexer) : Except LexError Token → Reading
  | .ok .finish => { result := .ok .finish, lexer := l.finish }
  | .ok k => { result := .ok k, lexer := l.accept k }
  | .error e => { result := .error e, lexer := l.fail e, notices := [.always (l.report e)] }

def read (l : Lexer) : Reading :=
  let s := Scan.read l.table l.tape
  (l.moveTo s).settle s.result

def nextToken (l : Lexer) : Reading :=
  match l.state, l.failure with
  | .done, _ => { result := .ok .finish, lexer := l }
  | .failed, some e => { result := .error e, lexer := l }
  | _, _ => l.read

def next (l : Lexer) : Option (Except LexError Token) × Lexer × List Log.Notice :=
  if l.state.isFinal then (none, l, [])
  else
    let r := l.nextToken
    match r.result with
    | .ok .finish => (none, r.lexer, r.notices)
    | result => (some result, r.lexer, r.notices)

@[simp] theorem result_settle (l : Lexer) (r : Except LexError Token) :
    (l.settle r).result = r := by
  unfold settle; split <;> rfl

@[simp] theorem tape_settle (l : Lexer) (r : Except LexError Token) :
    (l.settle r).lexer.tape = l.tape := by
  unfold settle; split <;> rfl

theorem distance_nextToken_lt {l : Lexer} {k : Token} (h : l.nextToken.result = .ok k)
    (more : k ≠ .finish) : l.nextToken.lexer.tape.distance < l.tape.distance := by
  unfold nextToken at h ⊢
  split at h
  · simp_all
  · simp_all
  · have scanned : (Scan.read l.table l.tape).result = .ok k := by simpa [read] using h
    simpa [read, moveTo] using Scan.distance_read_lt scanned more

theorem nextToken_eq_read {l : Lexer} (h : l.state.isFinal = false) : l.nextToken = l.read := by
  unfold nextToken
  split <;> simp_all [State.isFinal]

theorem state_read_of_error {l : Lexer} {e : LexError} (h : l.read.result = .error e) :
    l.read.lexer.state = .failed := by
  have scanned : (Scan.read l.table l.tape).result = .error e := by simpa [read] using h
  simp [read, scanned, settle, fail]

def left (l : Lexer) : Nat := if l.state.isFinal then 0 else l.tape.distance + 1

theorem left_le (l : Lexer) : l.left ≤ l.tape.distance + 1 := by
  unfold left; split <;> omega

theorem lexer_next {l : Lexer} (h : l.state.isFinal = false) : l.next.2.1 = l.nextToken.lexer := by
  simp only [next, h, Bool.false_eq_true, if_false]
  split <;> rfl

theorem result_of_next {l : Lexer} {r : Except LexError Token} (h : l.next.1 = some r) :
    l.state.isFinal = false ∧ l.nextToken.result = r ∧ r ≠ .ok .finish := by
  unfold next at h
  cases ended : l.state.isFinal with
  | true => simp [ended] at h
  | false =>
    simp only [ended, Bool.false_eq_true, if_false] at h
    split at h
    · simp at h
    · have same := Option.some.inj h
      subst same
      exact ⟨rfl, rfl, by assumption⟩

theorem left_next_lt {l : Lexer} {r : Except LexError Token} (h : l.next.1 = some r) :
    l.next.2.1.left < l.left := by
  obtain ⟨going, came, more⟩ := result_of_next h
  have bound : l.left = l.tape.distance + 1 := by simp [left, going]
  rw [lexer_next going, bound]
  cases r with
  | error e =>
    rw [nextToken_eq_read going] at came ⊢
    simp [left, state_read_of_error came, State.isFinal]
  | ok k =>
    have shorter := distance_nextToken_lt came (fun done => more (by rw [done]))
    have := left_le l.nextToken.lexer
    omega

end Lexer

end PatternLexer
