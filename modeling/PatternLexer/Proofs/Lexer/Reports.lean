import PatternLexer.Proofs.Lexer.Errors
import PatternLexer.Proofs.Log.Message

set_option autoImplicit false

namespace PatternLexer

namespace LexError

def stem : LexError → String
  | unknownCharacter c _ => "Unknown token " ++ String.singleton c ++ " at position "
  | unterminatedProperty f _ => "Unknown token " ++ f ++ " at position "
  | unknownProperty n _ => "Unknown unicode token " ++ n ++ " at position "
  | patternTooLong _ => ""

inductive Alike : LexError → LexError → Prop where
  | unknownCharacter (c : Char) (i j : Nat) : Alike (.unknownCharacter c i) (.unknownCharacter c j)
  | unterminatedProperty (f : String) (i j : Nat) : Alike (.unterminatedProperty f i) (.unterminatedProperty f j)
  | unknownProperty (n : String) (i j : Nat) : Alike (.unknownProperty n i) (.unknownProperty n j)

theorem message_stem {e : LexError} {i : Nat} (shown : e.position? = some i) :
    e.message = e.stem ++ toString i := by
  cases e with
  | patternTooLong => cases shown
  | _ =>
      obtain rfl := Option.some.inj shown
      rfl

theorem alike_texts {e e' : LexError} (alike : e.Alike e') :
    e.code = e'.code ∧ e.fragment = e'.fragment ∧ e.stem = e'.stem ∧
      ∃ i j, e.position? = some i ∧ e'.position? = some j := by
  cases alike <;> exact ⟨rfl, rfl, rfl, _, _, rfl, rfl⟩

theorem hidden_events_alike {e e' : LexError} (alike : e.Alike e') :
    (e.event false 0).level = (e'.event false 0).level ∧ (e.event false 0).code = (e'.event false 0).code ∧
      (e.event false 0).position = none ∧ (e'.event false 0).position = none ∧
      (e.event false 0).context = (e'.event false 0).context ∧
      (e.event false 0 = e'.event false 0 ↔ (e.event false 0).message = (e'.event false 0).message) := by
  obtain ⟨code, fragment, -⟩ := alike_texts alike
  have shown : e.shownFragment = e'.shownFragment := by rw [shownFragment, shownFragment, fragment]
  refine ⟨rfl, code, rfl, rfl, ?_, fun same => congrArg Log.Event.message same, fun same => ?_⟩
  · simp only [event, shown, Bool.false_eq_true, if_false, Log.Event.withContext]
    rfl
  · change Log.limitMessage e.message = Log.limitMessage e'.message at same
    simp only [event, shown, Log.Event.error, Log.Event.ofMessage, code, same]

end LexError

namespace Lexer

variable {l : Lexer}

structure Hides (l : Lexer) (calls : List Call) : Prop where
  now : l.preferences.positionInErrors = false
  later : ∀ p, .prefer p ∈ calls → p.positionInErrors = false

theorem next_logs (going : l.state.isFinal = false) : l.next.2.2 = l.nextToken.notices := by
  simp only [next, going, Bool.false_eq_true, if_false]
  split <;> rfl

theorem open_logs (open' : l.Open) (c : Call) :
    (l.call c).2.2 = (l.call c).2.1.failure.toList.map fun e =>
      .always (e.event l.preferences.positionInErrors (l.call c).2.1.tape.cursor) := by
  have token : l.nextToken.notices = l.nextToken.lexer.failure.toList.map fun e =>
      .always (e.event l.preferences.positionInErrors l.nextToken.lexer.tape.cursor) := by
    cases came : (Scan.read l.table l.tape).result with
    | error e =>
        rw [next_token_error open'.going came]
        rfl
    | ok k =>
        by_cases more : k = .finish
        · subst more
          rw [next_token_finish open'.going came]
          simp [finish, moveTo, open'.unfailed]
        · rw [next_token_ok open'.going came more]
          simp [accept, moveTo, open'.unfailed]
  cases c with
  | token => exact token
  | item =>
      rw [call, lexer_next open'.going, next_logs open'.going]
      exact token
  | prefer p => simp [call, withPreferences, open'.unfailed]

theorem call_preferences (l : Lexer) (c : Call) :
    (l.call c).2.1.preferences = match c with
      | .prefer p => p
      | _ => l.preferences := by
  have token : l.nextToken.lexer.preferences = l.preferences := by
    unfold nextToken
    split
    · rfl
    · rfl
    · unfold read settle
      dsimp only
      split <;> rfl
  cases c with
  | token => exact token
  | item =>
      cases ended : l.state.isFinal with
      | true => rw [call, next_final ended]
      | false =>
          rw [call, lexer_next ended]
          exact token
  | prefer p => rfl

theorem hides_call {c : Call} {calls : List Call} (hides : l.Hides (c :: calls)) : (l.call c).2.1.Hides calls := by
  refine ⟨?_, fun p set => hides.later p (List.mem_cons_of_mem c set)⟩
  rw [call_preferences]
  cases c with
  | prefer p => exact hides.later p List.mem_cons_self
  | _ => exact hides.now

theorem hidden_logged (open' : l.Open) (calls : List Call) (hides : l.Hides calls) {e : LexError}
    (failed : (l.after calls).failure = some e) : l.logged calls = [.always (e.event false 0)] := by
  induction calls generalizing l with
  | nil => cases open'.unfailed.symm.trans failed
  | cons c calls ih =>
      change (l.call c).2.2 ++ (l.call c).2.1.logged calls = _
      change ((l.call c).2.1.after calls).failure = some e at failed
      rw [open_logs open' c, hides.now]
      cases reads : c.reads with
      | false =>
          obtain ⟨still, -⟩ := open_prefer open' reads
          rw [still.unfailed]
          exact ih still (hides_call hides) failed
      | true =>
          rcases open_step open' reads with ⟨settled, -⟩ | ⟨k, still, -⟩
          · obtain ⟨p, same⟩ := settled_after_keeps settled calls
            -- The failure on record is that of this call; the calls after it keep it and log nothing.
            have recorded : (l.call c).2.1.failure = some e := by rwa [same] at failed
            rw [recorded, settled_logged settled calls, List.append_nil]
            rfl
          · rw [still.unfailed]
            exact ih still (hides_call hides) failed

theorem run_onto_fails {behind ahead : List Char} (open' : l.Open) (stands : l.tape.Stands behind ahead)
    (ts : List Token) {e : LexError} (failed : l.sequence = ts.map .ok ++ [.error e]) (taken : List Token)
    (logged : List Log.Notice) :
    ∃ i : Nat, e.position? = some i ∧
      (l.runOnto taken logged).notices = logged ++ [.always (e.event l.preferences.positionInErrors i)] := by
  induction ts generalizing l taken behind ahead with
  | nil =>
      have came := Scan.sequence_failed failed
      obtain ⟨i, shown, cursor, -, -⟩ := Scan.read_placed stands came
      have read := next_token_error open'.going came
      refine ⟨i, shown, ?_⟩
      rw [run_onto_error taken logged (by rw [read]), read, report, moveTo]
      dsimp only
      rw [cursor]
  | cons k ts ih =>
      obtain ⟨span, ahead, rfl, onward⟩ := Scan.read_stands l.table stands
      obtain ⟨still, rest, step⟩ := run_onto_open open' failed taken logged
      rw [step]
      exact ih still onward rest (k :: taken)

end Lexer

-- The message ends in the place all the same, so the events tell errors apart unless both messages are cut before it.
theorem hidden_reports_equal_iff {l l' : Lexer} (built : l.Built) (built' : l'.Built) {calls calls' : List Call}
    (hides : l.Hides calls) (hides' : l'.Hides calls') {e e' : LexError}
    (failed : (l.after calls).failure = some e) (failed' : (l'.after calls').failure = some e')
    (alike : e.Alike e') :
    ∃ (ev ev' : Log.Event) (i j : Nat), l.logged calls = [.always ev] ∧ l'.logged calls' = [.always ev'] ∧
      e.position? = some i ∧ e'.position? = some j ∧
      ev.level = ev'.level ∧ ev.code = ev'.code ∧ ev.position = none ∧ ev'.position = none ∧
      ev.context = ev'.context ∧ (ev = ev' ↔ ev.message = ev'.message) ∧
      (ev.message = ev'.message ↔ i = j ∨ Log.CutAlike e.stem i j) := by
  obtain ⟨t, p, tape, rfl⟩ := Lexer.built_tape built
  obtain ⟨t', p', tape', rfl⟩ := Lexer.built_tape built'
  have logged := Lexer.hidden_logged (Lexer.of_tape_open t p tape) calls hides failed
  have logged' := Lexer.hidden_logged (Lexer.of_tape_open t' p' tape') calls' hides' failed'
  obtain ⟨-, -, stem, i, j, shown, shown'⟩ := LexError.alike_texts alike
  obtain ⟨level, code, place, place', context, equal⟩ := LexError.hidden_events_alike alike
  refine ⟨_, _, i, j, logged, logged', shown, shown', level, code, place, place', context, equal, ?_⟩
  change Log.limitMessage e.message = Log.limitMessage e'.message ↔ _
  rw [LexError.message_stem shown, LexError.message_stem shown', ← stem]
  exact Log.limit_numbered_iff e.stem i j

theorem hidden_reports_equal_iff_apart :
    let p : LexingPreferences := { positionInErrors := false }
    let l := Lexer.ofTape {} p (.ofList "€".toList)
    let l' := Lexer.ofTape {} p (.ofList "ab€".toList)
    let calls : List Call := [.token, .token, .token]
    (l.after calls).failure = some (.unknownCharacter '€' 0) ∧
      (l'.after calls).failure = some (.unknownCharacter '€' 2) ∧
      ∃ ev ev' : Log.Event, l.logged calls = [.always ev] ∧ l'.logged calls = [.always ev'] ∧
        ev.position = none ∧ ev'.position = none ∧ ev.message ≠ ev'.message := by
  intro p l l' calls
  have hides (m : Lexer) (now : m.preferences.positionInErrors = false) : m.Hides calls :=
    ⟨now, fun q set => by simp [calls] at set⟩
  have failed : (l.after calls).failure = some (.unknownCharacter '€' 0) := by decide +kernel
  have failed' : (l'.after calls).failure = some (.unknownCharacter '€' 2) := by decide +kernel
  obtain ⟨ev, ev', i, j, logged, logged', shown, shown', -, -, place, place', -, -, same⟩ :=
    hidden_reports_equal_iff (.ofTape {} p _) (.ofTape {} p _) (hides l rfl) (hides l' rfl) failed failed'
      (.unknownCharacter '€' 0 2)
  obtain rfl := Option.some.inj shown
  obtain rfl := Option.some.inj shown'
  refine ⟨failed, failed', ev, ev', logged, logged', place, place', fun equal => ?_⟩
  rcases same.mp equal with other | ⟨long, -⟩
  · cases other
  · exact absurd long (by decide)

end PatternLexer
