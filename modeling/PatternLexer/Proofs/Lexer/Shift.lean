import PatternLexer.Proofs.Lexer.Coherence
import PatternLexer.Proofs.Tape.Passed

set_option autoImplicit false

namespace PatternLexer

theorem later_ok_iff (n : Nat) (r : Except LexError Token) (k : Token) : later n r = .ok k ↔ r = .ok k := by
  cases r <;> simp

def Answer.later (n : Nat) (a : Answer) : Answer := a.map (PatternLexer.later n)

namespace Lexer

structure CountsAlike (far near : Lexer) : Prop where
  preferences : far.preferences = near.preferences
  metrics : far.metrics = near.metrics

-- The lexer `far` has the characters `xs` in front of what `near` has, and is otherwise where it is. If the two had
-- `equal` preferences at first, they also count alike.
structure Shifted (xs : List Char) (equal : Prop) (far near : Lexer) : Prop where
  table : far.table = near.table
  tape : far.tape = near.tape.preceded xs
  state : far.state = near.state
  failure : far.failure = near.failure.map (LexError.later xs.length)
  inside : ∃ behind ahead, near.tape.Stands behind ahead
  counts : equal → CountsAlike far near

variable {xs : List Char} {equal : Prop} {far near : Lexer}

theorem shifted_scan (shifted : Shifted xs equal far near) :
    Scan.read far.table far.tape = (Scan.read near.table near.tape).preceded xs := by
  obtain ⟨behind, ahead, stands⟩ := shifted.inside
  rw [shifted.table, shifted.tape, Scan.read_preceded near.table stands]

theorem shifted_inside (shifted : Shifted xs equal far near) :
    ∃ behind ahead, (Scan.read near.table near.tape).tape.Stands behind ahead := by
  obtain ⟨behind, ahead, stands⟩ := shifted.inside
  obtain ⟨span, rest, -, onward⟩ := Scan.read_stands near.table stands
  exact ⟨behind ++ span, rest, onward⟩

theorem shifted_read (shifted : Shifted xs equal far near) (going : near.state.isFinal = false) :
    far.nextToken.result = later xs.length near.nextToken.result ∧
      Shifted xs equal far.nextToken.lexer near.nextToken.lexer := by
  have going' : far.state.isFinal = false := by rw [shifted.state, going]
  have scan := shifted_scan shifted
  have inside := shifted_inside shifted
  have moved : (Scan.read far.table far.tape).result = later xs.length (Scan.read near.table near.tape).result := by
    rw [scan]
    rfl
  cases came : (Scan.read near.table near.tape).result with
  | error e =>
      have came' : (Scan.read far.table far.tape).result = .error (e.later xs.length) := by
        rw [moved, came]
        rfl
      rw [next_token_error going came, next_token_error going' came', scan]
      refine ⟨rfl, shifted.table, rfl, rfl, rfl, inside, fun same => ?_⟩
      obtain ⟨preferences, metrics⟩ := shifted.counts same
      exact ⟨preferences, congrArg Metrics.recordError metrics⟩
  | ok k =>
      have came' : (Scan.read far.table far.tape).result = .ok k := by rwa [moved, later_ok_iff]
      by_cases more : k = .finish
      · subst more
        rw [next_token_finish going came, next_token_finish going' came', scan]
        exact ⟨rfl, shifted.table, rfl, rfl, shifted.failure, inside, fun same =>
          ⟨(shifted.counts same).preferences, (shifted.counts same).metrics⟩⟩
      · rw [next_token_ok going came more, next_token_ok going' came' more, scan]
        refine ⟨rfl, shifted.table, rfl, rfl, shifted.failure, inside, fun same => ?_⟩
        obtain ⟨preferences, metrics⟩ := shifted.counts same
        exact ⟨preferences, congrArg₂ (fun p m => Metrics.record p m k) preferences metrics⟩

theorem shifted_settled (shifted : Shifted xs equal far near) {r : Except LexError Token}
    (settled : near.Settled r) : far.Settled (later xs.length r) := by
  rcases settled with ⟨state, none, rfl⟩ | ⟨e, state, recorded, rfl⟩
  · exact .inl ⟨shifted.state.trans state, by rw [shifted.failure, none]; rfl, rfl⟩
  · exact .inr ⟨_, shifted.state.trans state, by rw [shifted.failure, recorded]; rfl, rfl⟩

theorem shifted_token (shifted : Shifted xs equal far near) (coherent : near.Coherent) :
    far.nextToken.result = later xs.length near.nextToken.result ∧
      Shifted xs equal far.nextToken.lexer near.nextToken.lexer := by
  cases ended : near.state.isFinal with
  | false => exact shifted_read shifted ended
  | true =>
      obtain ⟨r, settled⟩ := coherent_settled coherent ended
      rw [settled_token settled, settled_token (shifted_settled shifted settled)]
      exact ⟨rfl, shifted⟩

theorem shifted_item (shifted : Shifted xs equal far near) :
    far.next.1 = Answer.later xs.length near.next.1 ∧ Shifted xs equal far.next.2.1 near.next.2.1 := by
  have state : far.state.isFinal = near.state.isFinal := congrArg State.isFinal shifted.state
  cases ended : near.state.isFinal with
  | true =>
      rw [next_final ended, next_final (state.trans ended)]
      exact ⟨rfl, shifted⟩
  | false =>
      have ended' := state.trans ended
      obtain ⟨result, onward⟩ := shifted_read shifted ended
      refine ⟨?_, by rwa [lexer_next ended, lexer_next ended']⟩
      by_cases last : near.nextToken.result = .ok .finish
      · have last' : far.nextToken.result = .ok .finish := by rwa [result, later_ok_iff]
        rw [next_finish ended last, next_finish ended' last']
        rfl
      · have more : far.nextToken.result ≠ .ok .finish := by rwa [result, ne_eq, later_ok_iff]
        rw [next_item ended last, next_item ended' more, result]
        rfl

theorem shifted_prefer (shifted : Shifted xs equal far near) (p : LexingPreferences) :
    Shifted xs equal (far.withPreferences p) (near.withPreferences p) :=
  ⟨shifted.table, shifted.tape, shifted.state, shifted.failure, shifted.inside,
    fun same => ⟨rfl, (shifted.counts same).metrics⟩⟩

theorem shifted_call (shifted : Shifted xs equal far near) (coherent : near.Coherent) (c : Call) :
    (far.call c).1 = (near.call c).1.later xs.length ∧
      Shifted xs equal (far.call c).2.1 (near.call c).2.1 := by
  cases c with
  | token =>
      obtain ⟨result, onward⟩ := shifted_token shifted coherent
      exact ⟨congrArg some result, onward⟩
  | item => exact shifted_item shifted
  | prefer p => exact ⟨rfl, shifted_prefer shifted p⟩

theorem shifted_after (shifted : Shifted xs equal far near) (coherent : near.Coherent) (calls : List Call) :
    far.answers calls = (near.answers calls).map (fun (c, a) => (c, a.later xs.length)) ∧
      Shifted xs equal (far.after calls) (near.after calls) := by
  induction calls generalizing far near with
  | nil => exact ⟨rfl, shifted⟩
  | cons c calls ih =>
      obtain ⟨answer, onward⟩ := shifted_call shifted coherent c
      obtain ⟨answers, further⟩ := ih onward (coherent_call coherent c)
      exact ⟨by rw [Lexer.answers, Lexer.answers, List.map_cons, answer, answers], further⟩

theorem shifted_of_tape (t : Table) (p p' : LexingPreferences) (behind ahead : List Char) :
    Shifted behind (p = p') (ofTape t p (.cut behind ahead)) (ofTape t p' (.ofList ahead)) := by
  have tape : Tape.cut behind ahead = (Tape.cut [] ahead).preceded behind := by
    rw [Tape.cut_preceded, List.append_nil]
  exact ⟨rfl, tape, rfl, rfl, ⟨[], ahead, .inl rfl⟩, fun same => ⟨same, rfl⟩⟩

end Lexer

theorem run_from_cursor (t : Table) (p p' : LexingPreferences) (items : List Char) {n : Nat}
    (inside : n ≤ items.length) {tape : Tape Char}
    (overwritten : (Tape.advance^[n] (Tape.ofList items)).Overwritten tape) (calls : List Call) :
    let far := Lexer.ofTape t p tape
    let near := Lexer.ofTape t p' (.ofList (items.drop n))
    tape.cursor = n - 1 ∧
      far.answers calls = (near.answers calls).map (fun (c, a) => (c, a.later n)) ∧
      (far.after calls).state = (near.after calls).state ∧
      (far.after calls).tape.cursor = (near.after calls).tape.cursor + n ∧
      (p = p' → (far.after calls).metrics = (near.after calls).metrics) := by
  intro far near
  rw [Tape.list_tape_advances items inside] at overwritten
  obtain ⟨behind, length, rfl⟩ := Tape.cut_overwritten overwritten
  rw [List.length_take_of_le inside] at length
  have start := Lexer.shifted_of_tape t p p' behind (items.drop n)
  obtain ⟨answers, shifted⟩ := Lexer.shifted_after start (Lexer.coherent_of_tape t p' _) calls
  rw [length] at answers
  refine ⟨by simp [Tape.cut, length], answers, shifted.state, ?_, fun same => (shifted.counts same).metrics⟩
  rw [shifted.tape, Tape.preceded, length]
  exact Int.add_comm _ _

theorem run_from_cursor_overwritten :
    let items := "1a\\p\x7bL".toList
    let tape : Tape Char := ⟨#['€', '\\', '\\', 'p', '\x7b', 'L'], 1⟩
    let far := Lexer.ofTape {} {} tape
    let near := Lexer.ofTape {} {} (.ofList (items.drop 2))
    let calls : List Call := [.item, .token]
    (Tape.advance^[2] (Tape.ofList items)).Overwritten tape ∧
      near.answers calls = [(.item, some (.error (.unterminatedProperty "L" 4))),
        (.token, some (.error (.unterminatedProperty "L" 4)))] ∧
      far.answers calls = [(.item, some (.error (.unterminatedProperty "L" 6))),
        (.token, some (.error (.unterminatedProperty "L" 6)))] ∧
      (far.after calls).metrics = (near.after calls).metrics := by
  intro items tape far near calls
  have first : (Tape.advance^[2] (Tape.ofList items)).replace 0 '€' =
      .ok ⟨#['€', 'a', '\\', 'p', '\x7b', 'L'], 1⟩ := by decide +kernel
  have second : (⟨#['€', 'a', '\\', 'p', '\x7b', 'L'], 1⟩ : Tape Char).replace 1 '\\' = .ok tape := by decide +kernel
  have overwritten : (Tape.advance^[2] (Tape.ofList items)).Overwritten tape :=
    .replace (.replace .same (by decide +kernel) first) (by decide +kernel) second
  have answers : near.answers calls = [(.item, some (.error (.unterminatedProperty "L" 4))),
      (.token, some (.error (.unterminatedProperty "L" 4)))] := by decide +kernel
  obtain ⟨-, shifted, -, -, metrics⟩ := run_from_cursor {} {} {} items (by decide +kernel) overwritten calls
  rw [answers] at shifted
  exact ⟨overwritten, answers, shifted, metrics rfl⟩

end PatternLexer
