import PatternLexer.Proofs.Lexer.Coherence
import PatternLexer.Proofs.Lexer.Counts
import PatternLexer.Session.Reading

set_option autoImplicit false

namespace PatternLexer

-- What is seen of a lexer, apart from its preferences and from the counts that these decide.
structure View where
  tape : Tape Char
  state : State
  failure : Option LexError
  tokens : Nat
  errors : Nat
deriving DecidableEq

structure Turn where
  session : Session
  call : Call

def readingCalls (turns : List Turn) : List Call := (turns.map Turn.call).filter Call.reads

def Session.serve (s : Session) (l : Lexer) : Call → Answer × Lexer × Session
  | .token => ((some (s.nextToken l).1), (s.nextToken l).2)
  | .item => s.nextItem l
  | .prefer p => (none, l.withPreferences p, s)

theorem Session.serve_call (s : Session) (l : Lexer) (c : Call) :
    (s.serve l c).1 = (l.call c).1 ∧ (s.serve l c).2.1 = (l.call c).2.1 := by
  cases c <;> exact ⟨rfl, rfl⟩

theorem Metrics.record_tokens (p : LexingPreferences) (m : Metrics) (k : Token) :
    (m.record p k).tokens = m.tokens + if k.isFinish then 0 else 1 := by
  have counted : (m.record p k).tokens = m.tokens + if Counter.tokens.counts p k then 1 else 0 :=
    Counter.tokens.record_read p m k
  rw [counted]
  cases k <;> rfl

namespace Lexer

variable {l l' : Lexer}

def view (l : Lexer) : View where
  tape := l.tape
  state := l.state
  failure := l.failure
  tokens := l.metrics.tokens
  errors := l.metrics.errors

def through (l : Lexer) : List Turn → Lexer
  | [] => l
  | turn :: turns => (turn.session.serve l turn.call).2.1.through turns

def trail (l : Lexer) : List Turn → List (Call × Answer × View)
  | [] => []
  | turn :: turns =>
    let served := turn.session.serve l turn.call
    (if turn.call.reads then [(turn.call, served.1, served.2.1.view)] else []) ++ served.2.1.trail turns

structure SeenAlike (l l' : Lexer) : Prop where
  table : l.table = l'.table
  view : l.view = l'.view

theorem seen_alike_read (alike : l.SeenAlike l') (going : l.state.isFinal = false) :
    l.nextToken.result = l'.nextToken.result ∧ l.nextToken.lexer.SeenAlike l'.nextToken.lexer := by
  obtain ⟨table, view⟩ := alike
  obtain ⟨tape, state, failure, tokens, errors⟩ := View.mk.inj view
  have going' : l'.state.isFinal = false := state ▸ going
  have scan : Scan.read l'.table l'.tape = Scan.read l.table l.tape := by rw [table, tape]
  cases came : (Scan.read l.table l.tape).result with
  | error e =>
      have came' : (Scan.read l'.table l'.tape).result = .error e := by rw [scan, came]
      rw [next_token_error going came, next_token_error going' came', scan]
      refine ⟨rfl, table, ?_⟩
      simp only [Lexer.view, fail, moveTo, Metrics.recordError, tokens, errors]
  | ok k =>
      have came' : (Scan.read l'.table l'.tape).result = .ok k := by rw [scan, came]
      by_cases more : k = .finish
      · subst more
        rw [next_token_finish going came, next_token_finish going' came', scan]
        refine ⟨rfl, table, ?_⟩
        simp only [Lexer.view, finish, moveTo, failure, tokens, errors]
      · rw [next_token_ok going came more, next_token_ok going' came' more, scan]
        refine ⟨rfl, table, ?_⟩
        simp only [Lexer.view, accept, moveTo, Metrics.record_tokens, record_errors, failure, tokens, errors]

theorem seen_alike_settled (alike : l.SeenAlike l') {r : Except LexError Token} (settled : l.Settled r) :
    l'.Settled r := by
  obtain ⟨-, state, failure, -, -⟩ := View.mk.inj alike.view
  rw [Settled, ← state, ← failure]
  exact settled

theorem seen_alike_token (alike : l.SeenAlike l') (coherent : l.Coherent) :
    l.nextToken.result = l'.nextToken.result ∧ l.nextToken.lexer.SeenAlike l'.nextToken.lexer := by
  cases ended : l.state.isFinal with
  | false => exact seen_alike_read alike ended
  | true =>
      obtain ⟨r, settled⟩ := coherent_settled coherent ended
      rw [settled_token settled, settled_token (seen_alike_settled alike settled)]
      exact ⟨rfl, alike⟩

theorem seen_alike_item (alike : l.SeenAlike l') (coherent : l.Coherent) :
    l.next.1 = l'.next.1 ∧ l.next.2.1.SeenAlike l'.next.2.1 := by
  cases ended : l.state.isFinal with
  | true =>
      obtain ⟨r, settled⟩ := coherent_settled coherent ended
      rw [next_final ended, next_final (seen_alike_settled alike settled).final]
      exact ⟨rfl, alike⟩
  | false =>
      have state : l.state = l'.state := congrArg View.state alike.view
      have ended' : l'.state.isFinal = false := state ▸ ended
      obtain ⟨result, onward⟩ := seen_alike_read alike ended
      refine ⟨?_, by rwa [lexer_next ended, lexer_next ended']⟩
      by_cases last : l.nextToken.result = .ok .finish
      · rw [next_finish ended last, next_finish ended' (result ▸ last)]
      · rw [next_item ended last, next_item ended' (result ▸ last), result]

theorem seen_alike_call (alike : l.SeenAlike l') (coherent : l.Coherent) {c : Call} (reads : c.reads = true) :
    (l.call c).1 = (l'.call c).1 ∧ (l.call c).2.1.SeenAlike (l'.call c).2.1 := by
  cases c with
  | token =>
      obtain ⟨result, onward⟩ := seen_alike_token alike coherent
      exact ⟨congrArg some result, onward⟩
  | item => exact seen_alike_item alike coherent
  | prefer p => cases reads

theorem seen_alike_prefer (alike : l.SeenAlike l') {c : Call} (reads : c.reads = false) :
    (l.call c).2.1.SeenAlike l' := by
  cases c with
  | prefer p => exact ⟨alike.table, alike.view⟩
  | _ => cases reads

def alone (calls : List Call) : List Turn := calls.map fun c => ⟨{}, c⟩

theorem trail_read (l : Lexer) (s : Session) {c : Call} (reads : c.reads = true) (turns : List Turn) :
    l.trail (⟨s, c⟩ :: turns) = (c, (l.call c).1, (l.call c).2.1.view) :: (l.call c).2.1.trail turns := by
  obtain ⟨answer, after⟩ := s.serve_call l c
  rw [trail, if_pos reads, answer, after]
  rfl

theorem trail_other (l : Lexer) (s : Session) {c : Call} (reads : c.reads = false) (turns : List Turn) :
    l.trail (⟨s, c⟩ :: turns) = (l.call c).2.1.trail turns := by
  obtain ⟨-, after⟩ := s.serve_call l c
  rw [trail, if_neg (by rw [reads]; decide), after]
  rfl

theorem through_cons (l : Lexer) (s : Session) (c : Call) (turns : List Turn) :
    l.through (⟨s, c⟩ :: turns) = (l.call c).2.1.through turns := by
  rw [through, (s.serve_call l c).2]

theorem trail_alone (alike : l.SeenAlike l') (coherent : l.Coherent) (turns : List Turn) :
    l.trail turns = l'.trail (alone (readingCalls turns)) ∧
      (l.through turns).SeenAlike (l'.through (alone (readingCalls turns))) := by
  induction turns generalizing l l' with
  | nil => exact ⟨rfl, alike⟩
  | cons turn turns ih =>
      obtain ⟨s, c⟩ := turn
      have still := coherent_call coherent c
      rw [through_cons]
      cases reads : c.reads with
      | false =>
          -- The other lexer takes no turn here: preferences are not seen.
          have skipped : readingCalls (⟨s, c⟩ :: turns) = readingCalls turns :=
            List.filter_cons_of_neg (by simp [reads])
          rw [trail_other l s reads, skipped]
          exact ih (seen_alike_prefer alike reads) still
      | true =>
          have kept : readingCalls (⟨s, c⟩ :: turns) = c :: readingCalls turns := List.filter_cons_of_pos reads
          obtain ⟨same, onward⟩ := seen_alike_call alike coherent reads
          obtain ⟨rest, final⟩ := ih onward still
          rw [trail_read l s reads, kept, alone, List.map_cons, trail_read l' {} reads, through_cons, same, onward.view,
            rest]
          exact ⟨rfl, final⟩

end Lexer

theorem reading_undisturbed (t : Table) (tape : Tape Char) (p p' : LexingPreferences) {turns turns' : List Turn}
    (driven : readingCalls turns = readingCalls turns') :
    let l := Lexer.ofTape t p tape
    let l' := Lexer.ofTape t p' tape
    l.trail turns = l'.trail turns' ∧ (l.through turns).view = (l'.through turns').view := by
  intro l l'
  have alike : l.SeenAlike l' := ⟨rfl, rfl⟩
  have alike' : l'.SeenAlike l' := ⟨rfl, rfl⟩
  obtain ⟨seen, after⟩ := Lexer.trail_alone alike (Lexer.coherent_of_tape t p tape) turns
  obtain ⟨seen', after'⟩ := Lexer.trail_alone alike' (Lexer.coherent_of_tape t p' tape) turns'
  rw [driven] at seen after
  exact ⟨seen.trans seen'.symm, after.view.trans after'.view.symm⟩

theorem reading_undisturbed_failure :
    let loud : Session := { preferences := some { limit := .debug }, logger := some (.inMemory .debug) }
    let tape := Tape.ofList "1a€".toList
    let l := Lexer.ofTape {} {} tape
    let l' := Lexer.ofTape {} ⟨false, true, false⟩ tape
    let turns : List Turn :=
      [⟨loud, .token⟩, ⟨loud, .prefer ⟨true, true, true⟩⟩, ⟨{}, .item⟩, ⟨loud, .item⟩, ⟨loud, .token⟩]
    let turns' : List Turn := [⟨{}, .prefer {}⟩, ⟨{}, .token⟩, ⟨{}, .item⟩, ⟨{}, .item⟩, ⟨{}, .token⟩]
    readingCalls turns = readingCalls turns' ∧ l.trail turns = l'.trail turns' ∧
      (l.trail turns).map (·.2.1) = [some (.ok (.plain (.literal .integer) "1")),
        some (.ok (.plain (.literal .char) "a")), some (.error (.unknownCharacter '€' 2)),
        some (.error (.unknownCharacter '€' 2))] ∧
      (l'.through turns').view = ⟨⟨#['1', 'a', '€'], 2⟩, .failed, some (.unknownCharacter '€' 2), 2, 1⟩ := by
  intro loud tape l l' turns turns'
  have driven : readingCalls turns = readingCalls turns' := rfl
  have answers : (l.trail turns).map (·.2.1) = [some (.ok (.plain (.literal .integer) "1")),
      some (.ok (.plain (.literal .char) "a")), some (.error (.unknownCharacter '€' 2)),
      some (.error (.unknownCharacter '€' 2))] := by decide +kernel
  have after : (l.through turns).view = ⟨⟨#['1', 'a', '€'], 2⟩, .failed, some (.unknownCharacter '€' 2), 2, 1⟩ := by
    decide +kernel
  obtain ⟨seen, same⟩ := reading_undisturbed {} tape {} ⟨false, true, false⟩ driven
  exact ⟨driven, seen, answers, same.symm.trans after⟩

end PatternLexer
