import PatternLexer.Proofs.Lexer.Calls

set_option autoImplicit false

namespace PatternLexer

namespace Lexer

inductive Built : Lexer → Prop where
  | ofTape (t : Table) (preferences : LexingPreferences) (tape : Tape Char) : Built (ofTape t preferences tape)
  | created {t : Table} {preferences : LexingPreferences} {pattern : String} {l : Lexer}
      (created : create t preferences pattern = .ok l) : Built l

structure Coherent (l : Lexer) : Prop where
  resting : l.state = .start ∨ l.state = .done ∨ l.state = .failed
  failure : l.failure.isSome = true ↔ l.state = .failed
  errors : l.metrics.errors = if l.state = .failed then 1 else 0

def logged (l : Lexer) : List Call → List Log.Notice
  | [] => []
  | c :: calls => (l.call c).2.2 ++ (l.call c).2.1.logged calls

variable {l : Lexer}

theorem built_tape (built : l.Built) : ∃ t preferences tape, l = ofTape t preferences tape := by
  cases built with
  | ofTape t preferences tape => exact ⟨t, preferences, tape, rfl⟩
  | created created => exact ⟨_, _, _, ((create_ok_iff _ _ _ _).mp created).2⟩

theorem coherent_of_tape (t : Table) (preferences : LexingPreferences) (tape : Tape Char) :
    (ofTape t preferences tape).Coherent :=
  ⟨.inl rfl, by simp [ofTape], rfl⟩

theorem form_errors (m : Metrics) (k : Token) : (m.recordForm k).errors = m.errors := by
  cases k <;> rfl

theorem record_errors (p : LexingPreferences) (m : Metrics) (k : Token) : (m.record p k).errors = m.errors := by
  rw [Metrics.record]
  split
  · rfl
  · rename_i kind _
    have used (m : Metrics) : (if p.trackKinds then m.recordKind kind else m).errors = m.errors := by
      split <;> rfl
    dsimp only
    split
    · exact (form_errors _ k).trans (used _)
    · exact used _

theorem coherent_unfailed (coherent : l.Coherent) (going : l.state.isFinal = false) :
    l.state ≠ .failed ∧ l.failure = none := by
  have unfailed : l.state ≠ .failed := by
    intro failed
    rw [failed] at going
    cases going
  refine ⟨unfailed, ?_⟩
  cases recorded : l.failure with
  | none => rfl
  | some e => exact absurd (coherent.failure.mp (by rw [recorded]; rfl)) unfailed

theorem coherent_read (coherent : l.Coherent) (going : l.state.isFinal = false) : l.nextToken.lexer.Coherent := by
  obtain ⟨unfailed, none⟩ := coherent_unfailed coherent going
  have zero : l.metrics.errors = 0 := by rw [coherent.errors, if_neg unfailed]
  cases came : (Scan.read l.table l.tape).result with
  | error e =>
      rw [next_token_error going came]
      exact ⟨.inr (.inr rfl), by simp [fail], by simp [fail, moveTo, Metrics.recordError, zero]⟩
  | ok k =>
      by_cases more : k = .finish
      · subst more
        rw [next_token_finish going came]
        exact ⟨.inr (.inl rfl), by simp [finish, moveTo, none], by simp [finish, moveTo, zero]⟩
      · rw [next_token_ok going came more]
        exact ⟨.inl rfl, by simp [accept, moveTo, none], by simp [accept, moveTo, record_errors, zero]⟩

-- A failed lexer has recorded its failure, so a final lexer always has an answer to repeat.
theorem coherent_settled (coherent : l.Coherent) (ended : l.state.isFinal = true) : ∃ r, l.Settled r := by
  rcases coherent.resting with start | done | failed
  · rw [start] at ended
    cases ended
  · cases recorded : l.failure with
    | none => exact ⟨.ok .finish, .inl ⟨done, recorded, rfl⟩⟩
    | some e =>
        have failed := coherent.failure.mp (by rw [recorded]; rfl)
        rw [done] at failed
        cases failed
  · obtain ⟨e, recorded⟩ := Option.isSome_iff_exists.mp (coherent.failure.mpr failed)
    exact ⟨.error e, .inr ⟨e, failed, recorded, rfl⟩⟩

theorem settled_keeps {r : Except LexError Token} (settled : l.Settled r) (c : Call) :
    (l.call c).2.1 = l.withPreferences (l.call c).2.1.preferences := by
  cases c with
  | token =>
      rw [call, settled_token settled]
      rfl
  | item =>
      rw [call, next_final settled.final]
      rfl
  | prefer p => rfl

theorem coherent_prefer (coherent : l.Coherent) (p : LexingPreferences) : (l.withPreferences p).Coherent :=
  ⟨coherent.resting, coherent.failure, coherent.errors⟩

theorem coherent_call (coherent : l.Coherent) (c : Call) : (l.call c).2.1.Coherent := by
  cases ended : l.state.isFinal with
  | true =>
      obtain ⟨r, settled⟩ := coherent_settled coherent ended
      rw [settled_keeps settled c]
      exact coherent_prefer coherent _
  | false =>
      cases c with
      | token => exact coherent_read coherent ended
      | item =>
          rw [call, lexer_next ended]
          exact coherent_read coherent ended
      | prefer p => exact coherent_prefer coherent p

theorem coherent_after (coherent : l.Coherent) (calls : List Call) : (l.after calls).Coherent := by
  induction calls generalizing l with
  | nil => exact coherent
  | cons c calls ih => exact ih (coherent_call coherent c)

theorem settled_after_keeps {r : Except LexError Token} (settled : l.Settled r) (calls : List Call) :
    ∃ p, l.after calls = l.withPreferences p := by
  induction calls generalizing l with
  | nil => exact ⟨l.preferences, rfl⟩
  | cons c calls ih =>
      obtain ⟨p, same⟩ := ih (settled_call settled c).2.1
      refine ⟨p, same.trans ?_⟩
      rw [settled_keeps settled c]
      rfl

theorem settled_logged {r : Except LexError Token} (settled : l.Settled r) (calls : List Call) :
    l.logged calls = [] := by
  induction calls generalizing l with
  | nil => rfl
  | cons c calls ih =>
      obtain ⟨-, still, silent⟩ := settled_call settled c
      rw [logged, silent, ih still, List.nil_append]

end Lexer

theorem calls_coherent {l : Lexer} (built : l.Built) (calls : List Call) :
    (l.after calls).Coherent ∧
      ((l.after calls).state.isFinal = true →
        (l.after calls).Settled (Lexer.ending (l.handed calls)) ∧
        ∀ more : List Call,
          ((l.after calls).after more).tape = (l.after calls).tape ∧
          ((l.after calls).after more).state = (l.after calls).state ∧
          ((l.after calls).after more).failure = (l.after calls).failure ∧
          ((l.after calls).after more).metrics = (l.after calls).metrics ∧
          (l.after calls).logged more = [] ∧
          (((l.after calls).after more).call .token).1 = some (Lexer.ending (l.handed calls)) ∧
          (((l.after calls).after more).call .item).1 = none) := by
  obtain ⟨t, preferences, tape, rfl⟩ := Lexer.built_tape built
  refine ⟨Lexer.coherent_after (Lexer.coherent_of_tape t preferences tape) calls, fun ended => ?_⟩
  obtain ⟨whole, settled⟩ := Lexer.settled_sequence (Lexer.of_tape_open t preferences tape) calls ended
  rw [whole]
  refine ⟨settled, fun more => ?_⟩
  obtain ⟨p, same⟩ := Lexer.settled_after_keeps settled more
  have still := Lexer.settled_after settled more
  refine ⟨?_, ?_, ?_, ?_, Lexer.settled_logged settled more, (Lexer.settled_call still .token).1,
    (Lexer.settled_call still .item).1⟩
  all_goals rw [same]; rfl

theorem calls_coherent_unclosed :
    let l := Lexer.ofTape {} {} (.ofList "1\\p\x7bL".toList)
    let calls : List Call := [.token, .item]
    let more : List Call := [.item, .prefer { positionInErrors := false }]
    Lexer.create {} {} "1\\p\x7bL" = .ok l ∧ (l.after calls).state = .failed ∧ (l.after calls).Coherent ∧
      ((l.after calls).after more).failure = (l.after calls).failure ∧ (l.after calls).logged more = [] ∧
      (((l.after calls).after more).call .token).1 = some (.error (.unterminatedProperty "L" 5)) := by
  intro l calls more
  have created : Lexer.create {} {} "1\\p\x7bL" = .ok l := by decide +kernel
  have failed : (l.after calls).state = .failed := by decide +kernel
  have last : Lexer.ending (l.handed calls) = .error (.unterminatedProperty "L" 5) := by decide +kernel
  obtain ⟨coherent, final⟩ := calls_coherent (.created created) calls
  obtain ⟨-, kept⟩ := final (by rw [failed]; rfl)
  obtain ⟨-, -, failure, -, silent, answer, -⟩ := kept more
  exact ⟨created, failed, coherent, failure, silent, last ▸ answer⟩

end PatternLexer
