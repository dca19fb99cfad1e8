import Mathlib.Logic.Function.Iterate
import PatternLexer.Proofs.Lexer.Returned
import PatternLexer.Proofs.Tape.Handling

set_option autoImplicit false

namespace PatternLexer

namespace Scan

open Tape

structure Onward (tape : Tape Char) (s : Scan) : Prop where
  items : s.tape.items = tape.items
  passed : tape.cursor ≤ s.tape.cursor
  high : s.tape.cursor ≤ tape.length
  moved : s.result ≠ .ok .finish → tape.cursor + 2 ≤ tape.length ∧ tape.cursor < s.tape.cursor
  ended : s.result = .ok .finish → s.tape.cursor = tape.length

variable {t : Table} {tape : Tape Char}

theorem cut_bounds (behind ahead : List Char) :
    (cut behind ahead).cursor + 1 = behind.length ∧ (cut behind ahead).length = behind.length + ahead.length := by
  refine ⟨?_, ?_⟩
  · simp only [cut]
    omega
  · simp [cut, length]

theorem cut_items (behind span ahead : List Char) :
    (cut (behind ++ span) ahead).items = (cut behind (span ++ ahead)).items := by
  simp [cut]

theorem drains_more {text : List Char} {found : Finding} {state : State} (drains : Drains t text found state)
    {p : Nat} (more : found p ≠ .ok .finish) : text ≠ [] := by
  cases drains with
  | finish => exact absurd rfl more
  | _ => exact List.cons_ne_nil _ _

theorem halts_onward {span ahead : List Char} {found : Finding} {state : State}
    (halts : Halts t span ahead found state) (behind : List Char) :
    Onward (cut behind (span ++ ahead)) (read t (cut behind (span ++ ahead))) := by
  have some := List.length_pos_iff.mpr (halts_nonempty halts)
  obtain ⟨before, length⟩ := cut_bounds behind (span ++ ahead)
  obtain ⟨after, -⟩ := cut_bounds (behind ++ span) ahead
  rw [List.length_append] at length after
  have moved : (cut behind (span ++ ahead)).cursor < (cut (behind ++ span) ahead).cursor := by omega
  have low : (cut behind (span ++ ahead)).cursor + 2 ≤ (cut behind (span ++ ahead)).length := by omega
  have high : (cut (behind ++ span) ahead).cursor ≤ (cut behind (span ++ ahead)).length := by omega
  rw [read_halts halts]
  exact ⟨cut_items behind span ahead, Int.le_of_lt moved, high, fun _ => ⟨low, moved⟩,
    fun ended => absurd ended (halts_more halts _)⟩

theorem drains_onward {text : List Char} {found : Finding} {state : State} (drains : Drains t text found state)
    (behind : List Char) : Onward (cut behind text) (read t (cut behind text)) := by
  obtain ⟨before, length⟩ := cut_bounds behind text
  have after : (spent (behind ++ text)).cursor = behind.length + text.length := by simp [spent]
  have moved : (cut behind text).cursor < (spent (behind ++ text)).cursor := by omega
  have last : (spent (behind ++ text)).cursor = (cut behind text).length := by omega
  rw [read_drains drains]
  refine ⟨rfl, Int.le_of_lt moved, Int.le_of_eq last, fun more => ⟨?_, moved⟩, fun _ => last⟩
  have some := List.length_pos_iff.mpr (drains_more drains more)
  omega

theorem read_onward (t : Table) (bounds : tape.InBounds) : Onward tape (read t tape) := by
  rcases stands_in_bounds tape bounds.low bounds.high with here | ⟨-, here⟩
  · rw [here]
    rcases read_cases t tape.rest with ⟨span, ahead, found, state, whole, halts⟩ | ⟨found, state, drains⟩
    · rw [whole]
      exact halts_onward halts _
    · exact drains_onward drains _
  · rw [here, read_spent]
    exact ⟨rfl, Int.le_refl _, Int.le_refl _, fun more => absurd rfl more, fun _ => rfl⟩

theorem onward_bounds (bounds : tape.InBounds) {s : Scan} (onward : Onward tape s) :
    s.tape.length = tape.length ∧ s.tape.InBounds := by
  have length : s.tape.length = tape.length := congrArg Array.size onward.items
  exact ⟨length, Int.le_trans bounds.low onward.passed, by rw [length]; exact onward.high⟩

theorem sequence_length (t : Table) (tape : Tape Char) (bounds : tape.InBounds) :
    (sequence t tape).length ≤ tape.remaining := by
  have onward := read_onward t bounds
  obtain ⟨same, within⟩ := onward_bounds bounds onward
  rcases sequence_cases t tape with ⟨e, came, items⟩ | ⟨-, items⟩ | ⟨k, came, more, items⟩
  · have moved := onward.moved (by rw [came]; nofun)
    rw [items, List.length_singleton, remaining]
    omega
  · rw [items]
    exact Nat.zero_le _
  · have moved := onward.moved (by rw [came]; simpa using more)
    have rest := sequence_length t (read t tape).tape within
    rw [items, List.length_cons]
    simp only [remaining, same] at rest ⊢
    omega
termination_by tape.distance
decreasing_by exact distance_read_lt came more

theorem braced_name_advances (tape : Tape Char) (taken : List Char) :
    ∃ n ≤ tape.remaining, (bracedName tape taken).2 = advance^[n + 1] tape := by
  fun_induction bracedName tape taken with
  | case1 tape taken _ => exact ⟨0, Nat.zero_le _, rfl⟩
  | case2 tape taken c found _ ih =>
      obtain ⟨n, enough, same⟩ := ih
      have moved := (next_some found).2
      have inside := (get?_isSome_lt found).2
      rw [moved, advance_length] at inside
      refine ⟨n + 1, ?_, same⟩
      simp only [remaining, advance_length] at enough ⊢
      omega
  | case3 tape taken _ => exact ⟨0, Nat.zero_le _, rfl⟩

end Scan

namespace Lexer

structure Progresses (l : Lexer) (c : Call) : Prop where
  items : (l.call c).2.1.tape.items = l.tape.items
  passed : l.tape.cursor ≤ (l.call c).2.1.tape.cursor
  high : (l.call c).2.1.tape.cursor ≤ l.tape.length
  moved : ∀ k, (l.call c).1.token? = some k →
    l.tape.cursor ≤ l.tape.length - 2 ∧ l.tape.cursor < (l.call c).2.1.tape.cursor
  ended : (l.call c).1 = some (.ok .finish) → (l.call c).2.1.tape.cursor = l.tape.length

structure Within (tape : Tape Char) (l : Lexer) : Prop where
  items : l.tape.items = tape.items
  bounds : l.tape.InBounds
  done : l.state = .done → l.tape.cursor = l.tape.length

variable {l : Lexer} {tape : Tape Char}

theorem read_tape (going : l.state.isFinal = false) :
    l.nextToken.lexer.tape = (Scan.read l.table l.tape).tape := by
  rw [nextToken_eq_read going, read, tape_settle, moveTo]

theorem read_done (going : l.state.isFinal = false) (done : l.nextToken.lexer.state = .done) :
    (Scan.read l.table l.tape).result = .ok .finish := by
  cases came : (Scan.read l.table l.tape).result with
  | error e =>
      rw [next_token_error going came] at done
      cases done
  | ok k =>
      by_cases more : k = .finish
      · rw [more]
      · rw [next_token_ok going came more] at done
        cases done

theorem read_token {k : Token} (came : Answer.token? (some l.nextToken.result) = some k) :
    l.nextToken.result ≠ .ok .finish := by
  intro finished
  rw [finished] at came
  cases came

theorem item_unfinished (l : Lexer) : l.next.1 ≠ some (.ok .finish) := fun finished =>
  (result_of_next finished).2.2 rfl

theorem going_call (going : l.state.isFinal = false) {c : Call} (reads : c.reads = true) :
    (l.call c).2.1 = l.nextToken.lexer ∧ (l.call c).1.token? = Answer.token? (some l.nextToken.result) ∧
      ((l.call c).1 = some (.ok .finish) → l.nextToken.result = .ok .finish) := by
  cases c with
  | token => exact ⟨rfl, rfl, Option.some.inj⟩
  | item => exact ⟨lexer_next going, item_token going, fun finished => absurd finished (item_unfinished l)⟩
  | prefer p => cases reads

theorem read_within (within : l.Within tape) (going : l.state.isFinal = false) :
    l.nextToken.lexer.Within tape := by
  have onward := Scan.read_onward l.table within.bounds
  obtain ⟨length, bounds⟩ := Scan.onward_bounds within.bounds onward
  refine ⟨?_, ?_, fun done => ?_⟩
  · rw [read_tape going, onward.items, within.items]
  · rwa [read_tape going]
  · rw [read_tape going, length]
    exact onward.ended (read_done going done)

theorem prefer_within (within : l.Within tape) (p : LexingPreferences) : (l.withPreferences p).Within tape :=
  ⟨within.items, within.bounds, within.done⟩

theorem call_within (coherent : l.Coherent) (within : l.Within tape) (c : Call) : (l.call c).2.1.Within tape := by
  cases ended : l.state.isFinal with
  | true =>
      obtain ⟨r, settled⟩ := coherent_settled coherent ended
      rw [settled_keeps settled c]
      exact prefer_within within _
  | false =>
      cases reads : c.reads with
      | true =>
          rw [(going_call ended reads).1]
          exact read_within within ended
      | false =>
          cases c with
          | prefer p => exact prefer_within within p
          | _ => cases reads

theorem after_within (coherent : l.Coherent) (within : l.Within tape) (calls : List Call) :
    (l.after calls).Within tape := by
  induction calls generalizing l with
  | nil => exact within
  | cons c calls ih => exact ih (coherent_call coherent c) (call_within coherent within c)

theorem kept_progresses {c : Call} (within : l.Within tape) (kept : (l.call c).2.1.tape = l.tape)
    (none : (l.call c).1.token? = none) (done : (l.call c).1 = some (.ok .finish) → l.state = .done) :
    l.Progresses c := by
  refine ⟨congrArg Tape.items kept, Int.le_of_eq (congrArg Tape.cursor kept).symm, kept ▸ within.bounds.high,
    fun k some => ?_, fun finished => ?_⟩
  · rw [none] at some
    cases some
  · rw [kept]
    exact within.done (done finished)

theorem settled_progresses {r : Except LexError Token} (settled : l.Settled r) (within : l.Within tape) (c : Call) :
    l.Progresses c := by
  refine kept_progresses within ?_ (settled_returns settled c) fun finished => ?_
  · rw [settled_keeps settled c]
    rfl
  · rw [(settled_call settled c).1] at finished
    rcases settled with ⟨done, -, -⟩ | ⟨e, -, -, rfl⟩
    · exact done
    · split at finished <;> cases finished

theorem read_progresses (within : l.Within tape) (going : l.state.isFinal = false) {c : Call}
    (reads : c.reads = true) : l.Progresses c := by
  have onward := Scan.read_onward l.table within.bounds
  obtain ⟨same, token, finish⟩ := going_call going reads
  have result := next_token_result going
  have after := (congrArg Lexer.tape same).trans (read_tape going)
  refine ⟨after ▸ onward.items, after ▸ onward.passed, after ▸ onward.high, fun k came => ?_, fun finished => ?_⟩
  · obtain ⟨low, moved⟩ := onward.moved (result ▸ read_token (token ▸ came))
    exact ⟨by omega, after ▸ moved⟩
  · exact after ▸ onward.ended (result ▸ finish finished)

theorem call_progresses (coherent : l.Coherent) (within : l.Within tape) (c : Call) : l.Progresses c := by
  cases ended : l.state.isFinal with
  | true =>
      obtain ⟨r, settled⟩ := coherent_settled coherent ended
      exact settled_progresses settled within c
  | false =>
      cases reads : c.reads with
      | true => exact read_progresses within ended reads
      | false =>
          cases c with
          | prefer p => exact kept_progresses within rfl rfl nofun
          | _ => cases reads

theorem progress_pays {c : Call} (progresses : l.Progresses c) :
    (l.call c).1.token?.toList.length + (l.call c).2.1.tape.remaining ≤ l.tape.remaining := by
  have length : (l.call c).2.1.tape.length = l.tape.length := congrArg Array.size progresses.items
  have passed := progresses.passed
  simp only [Tape.remaining, length]
  cases came : (l.call c).1.token? with
  | none =>
      rw [Option.toList_none, List.length_nil]
      omega
  | some k =>
      obtain ⟨low, moved⟩ := progresses.moved k came
      rw [Option.toList_some, List.length_singleton]
      omega

theorem returned_pays (coherent : l.Coherent) (within : l.Within tape) (p : LexingPreferences) (calls : List Call) :
    (returned p (l.answers calls)).length + (l.after calls).tape.remaining ≤ l.tape.remaining := by
  induction calls generalizing l p with
  | nil => exact Nat.le_of_eq (Nat.zero_add _)
  | cons c calls ih =>
      have first := progress_pays (call_progresses coherent within c)
      have rest := ih (coherent_call coherent c) (call_within coherent within c) (c.chosen p)
      rw [answers, returned, List.length_append, List.length_map]
      change _ + ((l.call c).2.1.after calls).tape.remaining ≤ _
      omega

theorem calls_final (open' : l.Open) (bounds : l.tape.InBounds) {calls : List Call}
    (enough : l.tape.remaining < calls.countP Call.reads) : (l.after calls).state.isFinal = true := by
  rcases open_after open' calls with ⟨-, rest, count⟩ | ⟨settled, -, -⟩
  · have bound := Scan.sequence_length l.table l.tape bounds
    rw [← sequence, rest, List.length_append, count] at bound
    omega
  · exact settled.final

structure Loops (l : Lexer) (n : Nat) : Prop where
  lexer : l.run.lexer = l.after (List.replicate (n + 1) .token)
  going : ∀ i ≤ n, (l.after (List.replicate i .token)).state.isFinal = false
  ended : l.run.lexer.state.isFinal = true

theorem run_onto_calls (l : Lexer) (taken : List Token) (logged : List Log.Notice) (going : l.state.isFinal = false) :
    ∃ n, (l.runOnto taken logged).lexer = l.after (List.replicate (n + 1) .token) ∧
      (∀ i ≤ n, (l.after (List.replicate i .token)).state.isFinal = false) ∧
      (l.runOnto taken logged).lexer.state.isFinal = true := by
  have first : ∀ i ≤ 0, (l.after (List.replicate i .token)).state.isFinal = false := by
    intro i last
    rw [Nat.le_zero.mp last]
    exact going
  have result := next_token_result going
  cases came : (Scan.read l.table l.tape).result with
  | error e =>
      rw [run_onto_error taken logged (result.trans came)]
      refine ⟨0, rfl, first, ?_⟩
      rw [next_token_error going came]
      rfl
  | ok k =>
      by_cases more : k = .finish
      · subst more
        rw [run_onto_finish taken logged (result.trans came)]
        refine ⟨0, rfl, first, ?_⟩
        rw [next_token_finish going came]
        rfl
      · have going' : l.nextToken.lexer.state.isFinal = false := by
          rw [next_token_ok going came more]
          rfl
        rw [run_onto_token taken logged (result.trans came) more]
        obtain ⟨n, lexer, rest, ended⟩ :=
          run_onto_calls l.nextToken.lexer (k :: taken) (logged ++ l.nextToken.notices) going'
        -- The call that has read this token comes before those of the loop on the rest.
        refine ⟨n + 1, lexer, fun i last => ?_, ended⟩
        cases i with
        | zero => exact going
        | succ i => exact rest i (Nat.le_of_succ_le_succ last)
termination_by l.tape.distance
decreasing_by exact distance_nextToken_lt (result.trans came) more

theorem run_loops (open' : l.Open) (bounds : l.tape.InBounds) : ∃ n ≤ l.tape.remaining, l.Loops n := by
  obtain ⟨n, lexer, going, ended⟩ := run_onto_calls l [] [] open'.going
  refine ⟨n, Nat.le_of_not_lt fun enough => ?_, lexer, going, ended⟩
  have reads : (List.replicate n Call.token).countP Call.reads = n := by simp [List.countP_replicate, Call.reads]
  have final := calls_final open' bounds (reads.symm ▸ enough)
  rw [going n (Nat.le_refl n)] at final
  cases final

end Lexer

-- A lexer is final after one call more than there are items ahead, and both loops end by then.
theorem calls_progress (t : Table) (p : LexingPreferences) {tape : Tape Char} (low : -1 ≤ tape.cursor)
    (high : tape.cursor ≤ tape.length) :
    (∀ calls : List Call,
      let l := (Lexer.ofTape t p tape).after calls
      l.Within tape ∧ (∀ c, l.Progresses c) ∧
        (returned p ((Lexer.ofTape t p tape).answers calls)).length ≤ tape.remaining ∧
        (tape.remaining < calls.countP Call.reads → l.state.isFinal = true)) ∧
      (∃ n ≤ tape.remaining, (Lexer.ofTape t p tape).Loops n) ∧
      (∀ (inner : Tape Char) (taken : List Char),
        ∃ n ≤ inner.remaining, (Scan.bracedName inner taken).2 = Tape.advance^[n + 1] inner) ∧
      tape.remaining ≤ tape.length := by
  have bounds : tape.InBounds := ⟨low, high⟩
  have open' := Lexer.of_tape_open t p tape
  have coherent := Lexer.coherent_of_tape t p tape
  have within : (Lexer.ofTape t p tape).Within tape := ⟨rfl, bounds, nofun⟩
  refine ⟨fun calls => ?_, Lexer.run_loops open' bounds, Scan.braced_name_advances, ?_⟩
  · intro l
    have within' : l.Within tape := Lexer.after_within coherent within calls
    refine ⟨within', Lexer.call_progresses (Lexer.coherent_after coherent calls) within', ?_,
      Lexer.calls_final open' bounds⟩
    have pays := Lexer.returned_pays coherent within p calls
    exact Nat.le_trans (Nat.le_add_right _ _) pays
  · rw [Tape.remaining]
    omega

theorem calls_progress_backslash :
    let tape : Tape Char := ⟨#['1', '2', '\\'], 0⟩
    let k : Token := .plain (.literal .backslash) "\\"
    tape.remaining = 2 ∧ (((Lexer.ofTape {} {} tape).after [.item]).call .token).1 = some (.ok k) ∧
      ((Lexer.ofTape {} {} tape).after [.item]).tape.cursor <
        (((Lexer.ofTape {} {} tape).after [.item]).call .token).2.1.tape.cursor ∧
      ((Lexer.ofTape {} {} tape).after [.item, .token, .item]).state.isFinal = true ∧
      ∃ n ≤ 2, (Lexer.ofTape {} {} tape).Loops n := by
  intro tape k
  have left : tape.remaining = 2 := by decide
  have came : (((Lexer.ofTape {} {} tape).after [.item]).call .token).1 = some (.ok k) := by decide +kernel
  obtain ⟨calls, loops, -, -⟩ := calls_progress {} {} (show -1 ≤ tape.cursor by decide) (by decide)
  obtain ⟨-, progresses, -, -⟩ := calls [.item]
  obtain ⟨-, -, -, final⟩ := calls [.item, .token, .item]
  have new : Answer.token? (some (.ok k)) = some k := rfl
  exact ⟨left, came, ((progresses .token).moved k (came ▸ new)).2, final (by rw [left]; decide), left ▸ loops⟩

end PatternLexer
