import PatternLexer.Lexer.Run
import PatternLexer.Proofs.Lexer.Sequence

set_option autoImplicit false

namespace PatternLexer

namespace Lexer

variable {l : Lexer}

theorem next_token_ok (going : l.state.isFinal = false) {k : Token}
    (came : (Scan.read l.table l.tape).result = .ok k) (more : k ≠ .finish) :
    l.nextToken = ⟨.ok k, (l.moveTo (Scan.read l.table l.tape)).accept k, []⟩ := by
  rw [nextToken_eq_read going, read]
  simp only [came, settle]

theorem next_token_finish (going : l.state.isFinal = false)
    (came : (Scan.read l.table l.tape).result = .ok .finish) :
    l.nextToken = ⟨.ok .finish, (l.moveTo (Scan.read l.table l.tape)).finish, []⟩ := by
  rw [nextToken_eq_read going, read]
  simp only [came, settle]

theorem next_token_error (going : l.state.isFinal = false) {e : LexError}
    (came : (Scan.read l.table l.tape).result = .error e) :
    l.nextToken = ⟨.error e, (l.moveTo (Scan.read l.table l.tape)).fail e,
      [.always ((l.moveTo (Scan.read l.table l.tape)).report e)]⟩ := by
  rw [nextToken_eq_read going, read]
  simp only [came, settle]

theorem next_token_result (going : l.state.isFinal = false) :
    l.nextToken.result = (Scan.read l.table l.tape).result := by
  rw [nextToken_eq_read going, read, result_settle]

theorem run_onto_error (taken : List Token) (logged : List Log.Notice) {e : LexError}
    (came : l.nextToken.result = .error e) :
    l.runOnto taken logged = ⟨.error e, l.nextToken.lexer, logged ++ l.nextToken.notices⟩ := by
  rw [runOnto]
  split <;> simp_all

theorem run_onto_finish (taken : List Token) (logged : List Log.Notice)
    (came : l.nextToken.result = .ok .finish) :
    l.runOnto taken logged =
      ⟨.ok (taken.reverse ++ [.finish]), l.nextToken.lexer, logged ++ l.nextToken.notices⟩ := by
  rw [runOnto]
  split <;> simp_all

theorem run_onto_token (taken : List Token) (logged : List Log.Notice) {k : Token}
    (came : l.nextToken.result = .ok k) (more : k ≠ .finish) :
    l.runOnto taken logged = l.nextToken.lexer.runOnto (k :: taken) (logged ++ l.nextToken.notices) := by
  rw [runOnto]
  split <;> simp_all

theorem run_onto_sequence (l : Lexer) (taken : List Token) (logged : List Log.Notice)
    (going : l.state.isFinal = false) :
    (l.runOnto taken logged).result = (close (Scan.sequence l.table l.tape)).map (taken.reverse ++ ·) := by
  cases came : (Scan.read l.table l.tape).result with
  | error e =>
      rw [run_onto_error taken logged ((next_token_result going).trans came), Scan.sequence_error came]
      rfl
  | ok k =>
      by_cases more : k = .finish
      · subst more
        rw [run_onto_finish taken logged ((next_token_result going).trans came), Scan.sequence_finish came]
        rfl
      · rw [run_onto_token taken logged ((next_token_result going).trans came) more,
          run_onto_sequence _ _ _ (by rw [next_token_ok going came more]; rfl), next_token_ok going came more,
          Scan.sequence_token came more, close]
        simp only [accept, moveTo, List.reverse_cons, List.append_assoc, List.singleton_append]
        cases close (Scan.sequence l.table (Scan.read l.table l.tape).tape) <;> rfl
termination_by l.tape.distance
decreasing_by exact distance_nextToken_lt ((next_token_result going).trans came) more

theorem run_sequence (going : l.state.isFinal = false) :
    l.run.result = close (Scan.sequence l.table l.tape) := by
  rw [run, run_onto_sequence l [] [] going]
  cases close (Scan.sequence l.table l.tape) <;> rfl

theorem collect_onto_none (taken : List (Except LexError Token)) (logged : List Log.Notice)
    (came : l.next.1 = none) : (l.collectOnto taken logged).1 = taken.reverse := by
  rw [collectOnto]
  split <;> simp_all

theorem collect_onto_some (taken : List (Except LexError Token)) (logged : List Log.Notice)
    {item : Except LexError Token} (came : l.next.1 = some item) :
    l.collectOnto taken logged = l.next.2.1.collectOnto (item :: taken) (logged ++ l.next.2.2) := by
  rw [collectOnto]
  split <;> simp_all

theorem next_final (ended : l.state.isFinal = true) : l.next = (none, l, []) := by
  rw [next, if_pos ended]

theorem next_finish (going : l.state.isFinal = false) (came : l.nextToken.result = .ok .finish) :
    l.next.1 = none := by
  simp [next, going, came]

theorem next_item (going : l.state.isFinal = false) (came : l.nextToken.result ≠ .ok .finish) :
    l.next.1 = some l.nextToken.result := by
  simp only [next, going, Bool.false_eq_true, if_false]

theorem collect_onto_sequence (l : Lexer) (taken : List (Except LexError Token))
    (logged : List Log.Notice) (going : l.state.isFinal = false) :
    (l.collectOnto taken logged).1 = taken.reverse ++ Scan.sequence l.table l.tape := by
  have result := next_token_result going
  cases came : (Scan.read l.table l.tape).result with
  | error e =>
      have some : l.next.1 = some (.error e) := by
        rw [next_item going (by simp [result, came]), result, came]
      have after : l.next.2.1.state.isFinal = true := by
        rw [lexer_next going, next_token_error going came]
        rfl
      rw [collect_onto_some taken logged some, collect_onto_none _ _ (by rw [next_final after]),
        Scan.sequence_error came, List.reverse_cons]
  | ok k =>
      by_cases more : k = .finish
      · subst more
        rw [collect_onto_none taken logged (next_finish going (result.trans came)),
          Scan.sequence_finish came, List.append_nil]
      · have some : l.next.1 = some (.ok k) := by
          rw [next_item going (by simp [result, came, more]), result, came]
        rw [collect_onto_some taken logged some, lexer_next going,
          collect_onto_sequence _ _ _ (by rw [next_token_ok going came more]; rfl),
          next_token_ok going came more, Scan.sequence_token came more]
        simp [accept, moveTo]
termination_by l.tape.distance
decreasing_by exact distance_nextToken_lt (result.trans came) more

theorem collect_sequence (going : l.state.isFinal = false) :
    l.collect.1 = Scan.sequence l.table l.tape := by
  rw [collect, collect_onto_sequence l [] [] going, List.reverse_nil, List.nil_append]

end Lexer

theorem tokenize_sequence (t : Table) (preferences : LexingPreferences) (pattern : String) :
    (tokenize t preferences pattern).1 =
      if patternLimit < pattern.length then .error (.patternTooLong pattern.length)
      else (close (Scan.sequence t (.ofList pattern.toList))).map Tape.ofList := by
  by_cases long : patternLimit < pattern.length
  · simp [tokenize, Lexer.create, long]
  · have run := Lexer.run_sequence (l := .ofTape t preferences (.ofList pattern.toList)) rfl
    simp only [Lexer.ofTape] at run
    simp only [tokenize, Lexer.create, if_neg long, Lexer.ofTape, run]
    cases close (Scan.sequence t (.ofList pattern.toList)) <;> rfl

theorem tokenize_ok_iff (t : Table) (preferences : LexingPreferences) (pattern : String)
    (stream : TokenStream) :
    (tokenize t preferences pattern).1 = .ok stream ↔
      pattern.length ≤ patternLimit ∧ ∃ ts : List Token,
        Scan.sequence t (.ofList pattern.toList) = ts.map .ok ∧ stream = .ofList (ts ++ [.finish]) := by
  rw [tokenize_sequence]
  by_cases long : patternLimit < pattern.length
  · simp [long, Nat.not_le_of_lt long]
  · rw [if_neg long]
    constructor
    · intro read
      cases closed : close (Scan.sequence t (.ofList pattern.toList)) with
      | error e => rw [closed] at read; cases read
      | ok ks =>
          rw [closed] at read
          obtain ⟨ts, tokens, rfl⟩ := (close_ok_iff _ _).mp closed
          exact ⟨Nat.le_of_not_lt long, ts, tokens, (Except.ok.inj read).symm⟩
    · rintro ⟨-, ts, tokens, rfl⟩
      rw [(close_ok_iff _ _).mpr ⟨ts, tokens, rfl⟩]
      rfl

theorem tokenize_single_iff (t : Table) (preferences : LexingPreferences) (pattern : String) (k : Token) :
    (tokenize t preferences pattern).1 = .ok (.ofList [k, .finish]) ↔
      pattern.length ≤ patternLimit ∧ Scan.sequence t (.ofList pattern.toList) = [.ok k] := by
  rw [tokenize_ok_iff]
  refine and_congr_right fun _ => ⟨?_, fun single => ⟨[k], single, rfl⟩⟩
  rintro ⟨ts, tokens, same⟩
  have closed : [k] ++ [.finish] = ts ++ [.finish] := by simpa [Tape.ofList] using same
  rw [tokens, ← List.append_cancel_right closed]
  rfl

theorem tokenize_error_iff (t : Table) (preferences : LexingPreferences) (pattern : String)
    (e : LexError) :
    (tokenize t preferences pattern).1 = .error e ↔
      patternLimit < pattern.length ∧ e = .patternTooLong pattern.length ∨
        pattern.length ≤ patternLimit ∧ ∃ ts : List Token,
          Scan.sequence t (.ofList pattern.toList) = ts.map .ok ++ [.error e] := by
  rw [tokenize_sequence]
  by_cases long : patternLimit < pattern.length
  · simp [long, Nat.not_le_of_lt long, eq_comm]
  · rw [if_neg long, ← close_sequence_error_iff]
    simp only [long, Nat.le_of_not_lt long, false_and, true_and, false_or]
    cases close (Scan.sequence t (.ofList pattern.toList)) <;> simp [Except.map]

end PatternLexer
