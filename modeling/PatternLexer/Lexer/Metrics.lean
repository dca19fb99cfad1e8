import PatternLexer.Settings.Preferences
import PatternLexer.Token

set_option autoImplicit false

namespace PatternLexer

abbrev Usage := List (Kind × Nat)

namespace Usage

def add : Usage → Kind → Usage
  | [], k => [(k, 1)]
  | (j, n) :: u, k => if j = k then (j, n + 1) :: u else (j, n) :: add u k

def count (u : Usage) (k : Kind) : Nat :=
  match u.find? fun c => c.1 == k with
  | some c => c.2
  | none => 0

-- Of two entries with the same number the one whose kind stands earlier is the greater.
def order (a b : Kind × Nat) : Ordering := (compare a.2 b.2).then (compare b.1 a.1)

def lead (best : Option (Kind × Nat)) (a : Kind × Nat) : Option (Kind × Nat) :=
  match best with
  | some b => if order b a = .gt then some b else some a
  | none => some a

def mostUsed? (u : Usage) : Option Kind := (u.foldl lead none).map (·.1)

end Usage

structure Metrics where
  tokens : Nat := 0
  plain : Nat := 0
  escapes : Nat := 0
  negated : Nat := 0
  properties : Nat := 0
  characters : Nat := 0
  errors : Nat := 0
  usage : Usage := []
deriving DecidableEq

namespace Metrics

def recordForm (m : Metrics) : Token → Metrics
  | .plain k _ =>
    { m with
      plain := m.plain + 1
      characters := if k = .literal .char then m.characters + 1 else m.characters }
  | .escape k _ negated =>
    { m with
      escapes := m.escapes + 1
      negated := if negated then m.negated + 1 else m.negated
      properties := if k.isProperty then m.properties + 1 else m.properties }
  | .finish => m

def recordKind (m : Metrics) (k : Kind) : Metrics := { m with usage := m.usage.add k }

def record (p : LexingPreferences) (m : Metrics) (t : Token) : Metrics :=
  match t.kind? with
  | none => m
  | some k =>
    let m := { m with tokens := m.tokens + 1 }
    let m := if p.trackKinds then m.recordKind k else m
    if p.detailedMetrics then m.recordForm t else m

def recordError (m : Metrics) : Metrics := { m with errors := m.errors + 1 }

end Metrics

end PatternLexer
