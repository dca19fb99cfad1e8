import PatternLexer.Proofs.Lexer.Calls

set_option autoImplicit false

namespace PatternLexer

def Token.isProperty : Token → Bool
  | escape k _ _ => k.isProperty
  | _ => false

inductive Counter where
  | tokens
  | plain
  | characters
  | escapes
  | negated
  | properties
deriving DecidableEq

namespace Counter

def read : Counter → Metrics → Nat
  | tokens, m => m.tokens
  | plain, m => m.plain
  | characters, m => m.characters
  | escapes, m => m.escapes
  | negated, m => m.negated
  | properties, m => m.properties

def includes : Counter → Token → Bool
  | tokens, k => !k.isFinish
  | plain, .plain _ _ => true
  | characters, .plain k _ => k = .literal .char
  | escapes, k => k.isEscape
  | negated, k => k.isNegated
  | properties, k => k.isProperty
  | _, _ => false

def isDetail (c : Counter) : Bool := c ≠ tokens

def counts (c : Counter) (p : LexingPreferences) (k : Token) : Bool :=
  c.includes k && (!c.isDetail || p.detailedMetrics)

theorem read_fresh (c : Counter) : c.read {} = 0 := by
  cases c <;> rfl

theorem record_kind_read (c : Counter) (m : Metrics) (k : Kind) : c.read (m.recordKind k) = c.read m := by
  cases c <;> rfl

theorem record_form_read (c : Counter) (m : Metrics) (k : Token) :
    c.read (m.recordForm k) = c.read m + if c.isDetail && c.includes k then 1 else 0 := by
  cases k with
  | plain kind lexeme =>
      cases c with
      | characters => by_cases char : kind = .literal .char <;> simp [read, Metrics.recordForm, isDetail, includes, char]
      | _ => rfl
  | escape kind lexeme negated =>
      cases c with
      | negated => cases negated <;> rfl
      | properties =>
          cases property : kind.isProperty <;>
            simp [read, Metrics.recordForm, isDetail, includes, Token.isProperty, property]
      | _ => rfl
  | finish => cases c <;> rfl

theorem record_read (c : Counter) (p : LexingPreferences) (m : Metrics) (k : Token) :
    c.read (m.record p k) = c.read m + if c.counts p k then 1 else 0 := by
  cases kind : k.kind? with
  | none =>
      cases k with
      | finish => cases c <;> rfl
      | _ => cases kind
  | some kind' =>
      have more : k.isFinish = false := by
        cases k with
        | finish => cases kind
        | _ => rfl
      have used (m : Metrics) : c.read (if p.trackKinds then m.recordKind kind' else m) = c.read m := by
        split
        · exact c.record_kind_read m kind'
        · rfl
      rw [Metrics.record, kind]
      dsimp only
      cases detailed : p.detailedMetrics with
      | true =>
          rw [if_pos rfl, record_form_read, used]
          cases c <;> simp [read, counts, isDetail, includes, more, detailed]
      | false =>
          rw [if_neg (by decide), used]
          cases c <;> simp [read, counts, isDetail, includes, more, detailed]

theorem detail_count {c : Counter} (detail : c.isDetail = true) (p : LexingPreferences) (ts : List Token) :
    ts.countP (c.counts p) = if p.detailedMetrics then ts.countP c.includes else 0 := by
  cases detailed : p.detailedMetrics with
  | true =>
      rw [if_pos rfl]
      exact List.countP_congr fun k _ => by simp [counts, detailed]
  | false =>
      rw [if_neg (by decide), List.countP_eq_zero]
      intro k _
      simp [counts, detail, detailed]

theorem tokens_count (p : LexingPreferences) {ts : List Token} (unfinished : .finish ∉ ts) :
    ts.countP (tokens.counts p) = ts.length := by
  rw [List.countP_eq_length]
  intro k member
  cases k with
  | finish => exact absurd member unfinished
  | _ => rfl

end Counter

namespace Lexer

variable {l : Lexer}

theorem run_onto_completes (open' : l.Open) (ts : List Token) (tokens : l.sequence = ts.map .ok)
    (taken : List Token) (logged : List Log.Notice) :
    (l.runOnto taken logged).notices = logged ∧
      ∀ c : Counter, c.read (l.runOnto taken logged).lexer.metrics =
        c.read l.metrics + ts.countP (c.counts l.preferences) := by
  induction ts generalizing l taken with
  | nil =>
      have came : (Scan.read l.table l.tape).result = .ok .finish := Scan.sequence_nil tokens
      rw [run_onto_finish taken logged (token_nil open' tokens), next_token_finish open'.going came]
      exact ⟨List.append_nil logged, fun c => rfl⟩
  | cons k ts ih =>
      obtain ⟨still, rest, step⟩ := run_onto_open open' tokens taken logged
      obtain ⟨silent, counted⟩ := ih still rest (k :: taken)
      rw [step]
      refine ⟨silent, fun c => ?_⟩
      rw [counted c, List.countP_cons, accept, moveTo]
      dsimp only
      rw [c.record_read]
      omega

end Lexer

end PatternLexer
