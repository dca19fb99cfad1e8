import PatternLexer.Proofs.Lexer.Counts
import PatternLexer.Proofs.Lexer.Reports
import PatternLexer.Proofs.Session.Publishing
import PatternLexer.Session.Reading

set_option autoImplicit false

namespace PatternLexer

namespace Log.Event

theorem with_details (e : Event) (details : List (String × String)) :
    e.withDetails details = { e with context := e.context.insertMany details } := by
  induction details generalizing e with
  | nil => rw [Std.ExtTreeMap.insertMany_nil, withDetails, List.foldl_nil]
  | cons d details ih =>
      change (e.withContext d.1 d.2).withDetails details = _
      rw [ih, Std.ExtTreeMap.insertMany_cons]
      rfl

theorem message_with_details (level : Level) (code : Code) (message : String) (details : List (String × String)) :
    (ofMessage level code message).withDetails details =
      { level, code, message := limitMessage message, context := .ofList details compare } := by
  rw [with_details, Std.ExtTreeMap.ofList_eq_insertMany_empty]
  rfl

end Log.Event

namespace Trace

def failure (shown : Bool) (e : LexError) (place : Nat) : Log.Event where
  level := .error
  code := e.code
  message := Log.limitMessage e.message
  position := if shown then some place else none
  context := .ofList [("fragment", String.ofList (e.fragment.toList.take 64))] compare

def completion (detailed : Bool) (ts : List Token) : Log.Event where
  level := .info
  code := .tokenized
  message := "Tokenization completed"
  context := .ofList
    [("duration_ms", Log.unmeasured), ("tokens", toString ts.length),
      ("escapes", toString (if detailed then ts.countP Token.isEscape else 0)),
      ("negated", toString (if detailed then ts.countP Token.isNegated else 0)),
      ("unicode", toString (if detailed then ts.countP Token.isProperty else 0))] compare

theorem failure_logged (shown : Bool) (e : LexError) (place : Nat) : e.event shown place = failure shown e place := by
  have detailed := Log.Event.message_with_details .error e.code e.message [("fragment", e.shownFragment)]
  change (Log.Event.error e.code e.message).withContext "fragment" e.shownFragment = _ at detailed
  rw [LexError.event, detailed]
  cases shown <;> rfl

theorem completion_logged {m : Metrics} {p : LexingPreferences} {ts : List Token} (unfinished : .finish ∉ ts)
    (counted : ∀ c : Counter, c.read m = ts.countP (c.counts p)) :
    completedEvent m = completion p.detailedMetrics ts := by
  have tokens : m.tokens = ts.length := (counted .tokens).trans (Counter.tokens_count p unfinished)
  have escapes := (counted .escapes).trans (Counter.detail_count rfl p ts)
  have negated := (counted .negated).trans (Counter.detail_count rfl p ts)
  have properties := (counted .properties).trans (Counter.detail_count rfl p ts)
  simp only [Counter.read] at escapes negated properties
  rw [completedEvent, tokens, escapes, negated, properties, Log.Event.timed, Log.Event.success,
    Log.Event.message_with_details, Log.limit_within (by decide)]
  rfl

end Trace

section Reading

variable {t : Table} {pattern : String} {ts : List Token}

theorem tokens_unfinished (tokens : Scan.sequence t (.ofList pattern.toList) = ts.map .ok) : .finish ∉ ts := by
  have unfinished := Scan.sequence_unfinished t (.ofList pattern.toList)
  rw [tokens] at unfinished
  simpa using unfinished

theorem tokenize_completes (p : LexingPreferences) (short : pattern.length ≤ patternLimit)
    (tokens : Scan.sequence t (.ofList pattern.toList) = ts.map .ok) :
    tokenize t p pattern = (.ok (.ofList (ts ++ [.finish])),
      Lexer.createNotices pattern ++ [.always (Trace.completion p.detailedMetrics ts)]) := by
  have open' := Lexer.of_tape_open t p (.ofList pattern.toList)
  have created := (Lexer.create_ok_iff t p pattern _).mpr ⟨short, rfl⟩
  have result := (Lexer.run_sequence open'.going).trans ((close_ok_iff _ _).mpr ⟨ts, tokens, rfl⟩)
  obtain ⟨silent, counted⟩ := Lexer.run_onto_completes open' ts tokens [] []
  have completed := Trace.completion_logged (tokens_unfinished tokens) fun c => by
    rw [counted c, Lexer.ofTape, c.read_fresh, Nat.zero_add]
  rw [← Lexer.run] at silent completed
  rw [tokenize, created]
  simp only [result, silent, completed, List.append_nil]

theorem tokenize_fails (p : LexingPreferences) (short : pattern.length ≤ patternLimit) {e : LexError}
    (failed : Scan.sequence t (.ofList pattern.toList) = ts.map .ok ++ [.error e]) :
    ∃ i : Nat, e.position? = some i ∧ tokenize t p pattern = (.error e,
      Lexer.createNotices pattern ++ [.always (Trace.failure p.positionInErrors e i)]) := by
  have open' := Lexer.of_tape_open t p (.ofList pattern.toList)
  have created := (Lexer.create_ok_iff t p pattern _).mpr ⟨short, rfl⟩
  have result := (Lexer.run_sequence open'.going).trans ((close_sequence_error_iff _ _ e).mpr ⟨ts, failed⟩)
  have fresh : (Tape.ofList pattern.toList).Stands [] pattern.toList := .inl rfl
  obtain ⟨i, shown, reported⟩ := Lexer.run_onto_fails open' fresh ts failed [] []
  rw [← Lexer.run, Trace.failure_logged] at reported
  refine ⟨i, shown, ?_⟩
  rw [tokenize, created]
  simp only [result, reported]
  rfl

end Reading

end PatternLexer
