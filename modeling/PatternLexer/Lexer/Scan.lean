import PatternLexer.Lexer.Error
import PatternLexer.Table.Basic
import PatternLexer.Token

set_option autoImplicit false

namespace PatternLexer

inductive State where
  | start
  | escaped
  | inShortProperty
  | inBracedProperty
  | done
  | failed
deriving DecidableEq

def State.isFinal : State → Bool
  | done => true
  | failed => true
  | _ => false

instance decidableEqExcept {ε α : Type} [DecidableEq ε] [DecidableEq α] : DecidableEq (Except ε α)
  | .error e, .error e' => decidable_of_iff (e = e') (by simp)
  | .ok a, .ok b => decidable_of_iff (a = b) (by simp)
  | .error _, .ok _ => isFalse nofun
  | .ok _, .error _ => isFalse nofun

structure Scan where
  result : Except LexError Token
  tape : Tape Char
  state : State
deriving DecidableEq

namespace Scan

def isBlank (c : Char) : Bool :=
  c == ' ' || c == '\r' || c == '\n' || c == '\t' || c == '\x0b' || c == '\u00a0'

def plainKind? (t : Table) (c : Char) : Option Kind :=
  match (t.kindOfChar? c).filter Kind.isDirect with
  | some k => some k
  | none =>
    if c.isDigit then some (.literal .integer)
    else if c.isAlpha || isBlank c then some (.literal .char)
    else none

def shorthandKind? (t : Table) (c : Char) : Option Kind :=
  (t.kindOfChar? c).filter Kind.isShorthand

def negatedKind? (t : Table) (c : Char) : Option Kind :=
  if c.toLower = c then none else shorthandKind? t c.toLower

-- Without a closing brace the characters are returned as an error.
def bracedName (tape : Tape Char) (taken : List Char) : Except String String × Tape Char :=
  match _h : tape.next.1 with
  | some c =>
    if c = '\x7d' then (.ok (String.ofList taken.reverse), tape.advance)
    else bracedName tape.advance (c :: taken)
  | none => (.error (String.ofList taken.reverse), tape.advance)
termination_by tape.distance
decreasing_by exact Tape.distance_advance_lt (by assumption)

def named (t : Table) (name : String) (negated : Bool) (tape : Tape Char) (state : State) : Scan :=
  match t.kindOf? name with
  | some k => ⟨.ok (.escape k name negated), tape, state⟩
  | none => ⟨.error (.unknownProperty name tape.position), tape, state⟩

def inBraces (t : Table) (negated : Bool) (tape : Tape Char) : Scan :=
  match bracedName tape [] with
  | (.ok name, tape) => named t name negated tape .inBracedProperty
  | (.error fragment, tape) =>
    ⟨.error (.unterminatedProperty fragment tape.position), tape, .inBracedProperty⟩

def braced (t : Table) (negated : Bool) (tape : Tape Char) : Scan :=
  if tape.peek? 1 = some '^' then inBraces t true tape.advance else inBraces t negated tape

-- At the end of the tape the name is empty.
def property (t : Table) (negated : Bool) (tape : Tape Char) : Scan :=
  match tape.next with
  | (some c, tape) =>
    if c = '\x7b' then braced t negated tape
    else named t (String.singleton c) negated tape .inShortProperty
  | (none, tape) => named t "" negated tape .inShortProperty

-- The letters of shorthands are only looked at and stay on the tape, so they are read again as the next token.
def selected (t : Table) (c : Char) (tape : Tape Char) : Scan :=
  if c = '\\' then ⟨.ok (.plain (.literal .backslash) "\\"), tape.advance, .escaped⟩
  else if c = 'p' ∨ c = 'P' then property t (c == 'P') tape.advance
  else if c = 'X' then ⟨.ok (.escape (.property .x) "X" false), tape, .escaped⟩
  else
    match shorthandKind? t c with
    | some k => ⟨.ok (.escape k (String.singleton c) false), tape, .escaped⟩
    | none =>
      match negatedKind? t c with
      | some k => ⟨.ok (.escape k (String.singleton c) true), tape, .escaped⟩
      | none => ⟨.ok (.plain (.literal .char) (String.singleton c)), tape.advance, .escaped⟩

def escape (t : Table) (tape : Tape Char) : Scan :=
  match tape.peek? 1 with
  | some c => selected t c tape
  | none => ⟨.ok (.plain (.literal .backslash) "\\"), tape.advance, .escaped⟩

def token (t : Table) (c : Char) (tape : Tape Char) : Scan :=
  match plainKind? t c with
  | some k => ⟨.ok (.plain k (String.singleton c)), tape, .start⟩
  | none =>
    if c = '\\' then escape t tape
    else ⟨.error (.unknownCharacter c tape.position), tape, .start⟩

def read (t : Table) (tape : Tape Char) : Scan :=
  match tape.next with
  | (some c, tape) => token t c tape
  | (none, tape) => ⟨.ok .finish, tape, .start⟩

theorem distance_bracedName_le (tape : Tape Char) (taken : List Char) :
    (bracedName tape taken).2.distance ≤ tape.distance := by
  fun_induction bracedName tape taken with
  | case1 tape taken _ => exact Tape.distance_advance_le tape
  | case2 tape taken c _ _ ih => exact Nat.le_trans ih (Tape.distance_advance_le tape)
  | case3 tape taken _ => exact Tape.distance_advance_le tape

@[simp] theorem tape_named (t : Table) (name : String) (negated : Bool) (tape : Tape Char)
    (state : State) : (named t name negated tape state).tape = tape := by
  unfold named; split <;> rfl

theorem distance_inBraces_le (t : Table) (negated : Bool) (tape : Tape Char) :
    (inBraces t negated tape).tape.distance ≤ tape.distance := by
  have after := distance_bracedName_le tape []
  unfold inBraces
  split <;> simp_all

theorem distance_braced_le (t : Table) (negated : Bool) (tape : Tape Char) :
    (braced t negated tape).tape.distance ≤ tape.distance := by
  unfold braced
  split
  · exact Nat.le_trans (distance_inBraces_le t _ _) (Tape.distance_advance_le tape)
  · exact distance_inBraces_le t _ _

theorem distance_property_le (t : Table) (negated : Bool) (tape : Tape Char) :
    (property t negated tape).tape.distance ≤ tape.distance := by
  unfold property
  cases h : tape.next.1 with
  | none => simpa [Tape.next, show tape.advance.current? = none from h] using
      Tape.distance_advance_le tape
  | some c =>
    simp only [Tape.next, show tape.advance.current? = some c from h]
    split
    · exact Nat.le_trans (distance_braced_le t negated _) (Tape.distance_advance_le tape)
    · simpa using Tape.distance_advance_le tape

theorem distance_selected_le (t : Table) (c : Char) (tape : Tape Char) :
    (selected t c tape).tape.distance ≤ tape.distance := by
  unfold selected
  split
  · exact Tape.distance_advance_le tape
  split
  · exact Nat.le_trans (distance_property_le t _ _) (Tape.distance_advance_le tape)
  split
  · exact Nat.le_refl _
  split
  · exact Nat.le_refl _
  split
  · exact Nat.le_refl _
  · exact Tape.distance_advance_le tape

theorem distance_token_le (t : Table) (c : Char) (tape : Tape Char) :
    (token t c tape).tape.distance ≤ tape.distance := by
  unfold token
  split
  · exact Nat.le_refl _
  split
  · unfold escape
    split
    · exact distance_selected_le t _ tape
    · exact Tape.distance_advance_le tape
  · exact Nat.le_refl _

theorem distance_read_lt {t : Table} {tape : Tape Char} {k : Token}
    (h : (read t tape).result = .ok k) (more : k ≠ .finish) :
    (read t tape).tape.distance < tape.distance := by
  unfold read at h ⊢
  cases first : tape.next.1 with
  | none =>
    simp only [Tape.next, show tape.advance.current? = none from first] at h
    cases h
    exact absurd rfl more
  | some c =>
    simp only [Tape.next, show tape.advance.current? = some c from first]
    exact Nat.lt_of_le_of_lt (distance_token_le t c _) (Tape.distance_advance_lt first)

end Scan

end PatternLexer
