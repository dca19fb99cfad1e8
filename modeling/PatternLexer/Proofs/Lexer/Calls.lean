import PatternLexer.Proofs.Lexer.Loops

set_option autoImplicit false

namespace PatternLexer

inductive Call where
  | token
  | item
  | prefer (preferences : LexingPreferences)
deriving DecidableEq

def Call.reads : Call → Bool
  | .prefer _ => false
  | _ => true

abbrev Answer := Option (Except LexError Token)

def Answer.items (a : Answer) : List (Except LexError Token) := a.toList.filter (· ≠ .ok .finish)

namespace Lexer

def call (l : Lexer) : Call → Answer × Lexer × List Log.Notice
  | .token => (some l.nextToken.result, l.nextToken.lexer, l.nextToken.notices)
  | .item => l.next
  | .prefer p => (none, l.withPreferences p, [])

def after (l : Lexer) (calls : List Call) : Lexer := calls.foldl (fun l c => (l.call c).2.1) l

def answers (l : Lexer) : List Call → List (Call × Answer)
  | [] => []
  | c :: calls => (c, (l.call c).1) :: (l.call c).2.1.answers calls

def handed (l : Lexer) : List Call → List (Except LexError Token)
  | [] => []
  | c :: calls => if l.state.isFinal then [] else (l.call c).1.items ++ (l.call c).2.1.handed calls

def itemError : Call × Answer → Bool
  | (.item, some (.error _)) => true
  | _ => false

-- The lexer is final, and `r` is what every request for a token comes to.
def Settled (l : Lexer) (r : Except LexError Token) : Prop :=
  l.state = .done ∧ l.failure = none ∧ r = .ok .finish ∨
    ∃ e, l.state = .failed ∧ l.failure = some e ∧ r = .error e

variable {l : Lexer}

theorem Settled.final {r : Except LexError Token} (settled : l.Settled r) : l.state.isFinal = true := by
  rcases settled with ⟨state, -, -⟩ | ⟨e, state, -, -⟩ <;> rw [state] <;> rfl

theorem settled_token {r : Except LexError Token} (settled : l.Settled r) : l.nextToken = ⟨r, l, []⟩ := by
  rcases settled with ⟨state, -, rfl⟩ | ⟨e, state, failure, rfl⟩
  · simp [nextToken, state]
  · simp [nextToken, state, failure]

theorem settled_call {r : Except LexError Token} (settled : l.Settled r) (c : Call) :
    (l.call c).1 = (if c = .token then some r else none) ∧ (l.call c).2.1.Settled r ∧ (l.call c).2.2 = [] := by
  cases c with
  | token => simp [call, settled_token settled, settled]
  | item => simp [call, next_final settled.final, settled]
  | prefer p => exact ⟨rfl, settled, rfl⟩

theorem settled_after {r : Except LexError Token} (settled : l.Settled r) (calls : List Call) :
    (l.after calls).Settled r := by
  induction calls generalizing l with
  | nil => exact settled
  | cons c calls ih => exact ih (settled_call settled c).2.1

theorem settled_item_errors {r : Except LexError Token} (settled : l.Settled r) (calls : List Call) :
    (l.answers calls).countP itemError = 0 := by
  induction calls generalizing l with
  | nil => rfl
  | cons c calls ih =>
      obtain ⟨answer, still, -⟩ := settled_call settled c
      rw [answers, List.countP_cons, ih still, answer]
      cases c <;> rfl

theorem handed_final (ended : l.state.isFinal = true) (calls : List Call) : l.handed calls = [] := by
  cases calls with
  | nil => rfl
  | cons c calls => rw [handed, if_pos ended]

structure Open (l : Lexer) : Prop where
  going : l.state.isFinal = false
  unfailed : l.failure = none

def sequence (l : Lexer) : List (Except LexError Token) := Scan.sequence l.table l.tape

def ending (items : List (Except LexError Token)) : Except LexError Token :=
  match items.getLast? with
  | some (.error e) => .error e
  | _ => .ok .finish

theorem open_call (open' : l.Open) {c : Call} (reads : c.reads = true) :
    (l.call c).1.items = Answer.items (some l.nextToken.result) ∧ (l.call c).2.1 = l.nextToken.lexer := by
  cases c with
  | token => exact ⟨rfl, rfl⟩
  | item =>
      refine ⟨?_, lexer_next open'.going⟩
      by_cases finished : l.nextToken.result = .ok .finish
      · simp [call, next_finish open'.going finished, finished, Answer.items]
      · simp [call, next_item open'.going finished]
  | prefer p => cases reads

theorem open_step (open' : l.Open) {c : Call} (reads : c.reads = true) :
    ((l.call c).2.1.Settled (ending l.sequence) ∧ (l.call c).1.items = l.sequence ∧ l.sequence.length ≤ 1) ∨
      ∃ k, (l.call c).2.1.Open ∧ (l.call c).1.items = [.ok k] ∧ l.sequence = .ok k :: (l.call c).2.1.sequence := by
  obtain ⟨items, after⟩ := open_call open' reads
  rw [items, after]
  have result := next_token_result open'.going
  cases came : (Scan.read l.table l.tape).result with
  | error e =>
      refine .inl ?_
      rw [result, came, sequence, Scan.sequence_error came, next_token_error open'.going came]
      exact ⟨.inr ⟨e, rfl, rfl, rfl⟩, by simp [Answer.items], Nat.le_refl 1⟩
  | ok k =>
      by_cases more : k = .finish
      · subst more
        refine .inl ?_
        rw [result, came, sequence, Scan.sequence_finish came, next_token_finish open'.going came]
        exact ⟨.inl ⟨rfl, open'.unfailed, rfl⟩, by simp [Answer.items], Nat.zero_le 1⟩
      · refine .inr ⟨k, ?_⟩
        rw [result, came, sequence, Scan.sequence_token came more, next_token_ok open'.going came more]
        exact ⟨⟨rfl, open'.unfailed⟩, by simp [Answer.items, more], rfl⟩

theorem open_prefer (open' : l.Open) {c : Call} (reads : c.reads = false) :
    (l.call c).2.1.Open ∧ (l.call c).1 = none ∧ (l.call c).2.1.sequence = l.sequence := by
  cases c with
  | prefer p => exact ⟨⟨open'.going, open'.unfailed⟩, rfl, rfl⟩
  | _ => cases reads

theorem ending_cons (k : Token) (items : List (Except LexError Token)) :
    ending (.ok k :: items) = ending items := by
  cases items with
  | nil => rfl
  | cons item items => rw [ending, List.getLast?_cons_cons, ending]

theorem open_after (open' : l.Open) (calls : List Call) :
    ((l.after calls).Open ∧ l.sequence = l.handed calls ++ (l.after calls).sequence ∧
        (l.handed calls).length = calls.countP Call.reads) ∨
      ((l.after calls).Settled (ending l.sequence) ∧ l.handed calls = l.sequence ∧
        l.sequence.length ≤ calls.countP Call.reads) := by
  induction calls generalizing l with
  | nil => exact .inl ⟨open', rfl, rfl⟩
  | cons c calls ih =>
      have first : l.handed (c :: calls) = (l.call c).1.items ++ (l.call c).2.1.handed calls := by
        rw [handed, open'.going]
        rfl
      rw [first, List.countP_cons]
      change ((((l.call c).2.1.after calls).Open ∧ _ = _ ++ ((l.call c).2.1.after calls).sequence ∧ _) ∨
        ((l.call c).2.1.after calls).Settled _ ∧ _)
      cases reads : c.reads with
      | false =>
          obtain ⟨still, answer, same⟩ := open_prefer open' reads
          rw [answer, ← same]
          exact ih still
      | true =>
          rcases open_step open' reads with ⟨settled, items, bound⟩ | ⟨k, still, items, head⟩
          · -- From here on every call repeats how the sequence has ended.
            refine .inr ⟨settled_after settled calls, ?_, ?_⟩
            · rw [items, handed_final settled.final, List.append_nil]
            · simp only [if_true]
              omega
          · rw [items, head, ending_cons]
            rcases ih still with ⟨open'', rest, count⟩ | ⟨settled, whole, bound⟩
            · refine .inl ⟨open'', ?_, ?_⟩
              · rw [List.append_assoc, ← rest, List.singleton_append]
              · simp [count]
            · refine .inr ⟨settled, ?_, ?_⟩
              · rw [whole, List.singleton_append]
              · simp only [List.length_cons, if_true]
                omega

theorem handed_sequence (open' : l.Open) (calls : List Call) :
    l.handed calls = l.sequence.take (calls.countP Call.reads) := by
  rcases open_after open' calls with ⟨-, rest, count⟩ | ⟨-, whole, bound⟩
  · rw [rest, ← count, List.take_left]
  · rw [whole, List.take_of_length_le bound]

theorem settled_sequence (open' : l.Open) (calls : List Call)
    (ended : (l.after calls).state.isFinal = true) :
    l.handed calls = l.sequence ∧ (l.after calls).Settled (ending l.sequence) := by
  rcases open_after open' calls with ⟨still, -, -⟩ | ⟨settled, whole, -⟩
  · rw [still.going] at ended
    cases ended
  · exact ⟨whole, settled⟩

theorem item_error_items (c : Call) {a : Answer} {k : Token} (items : a.items = [.ok k]) :
    itemError (c, a) = false := by
  rcases a with - | e | k'
  · cases items
  · cases items
  · cases c <;> rfl

theorem open_item_errors (open' : l.Open) (calls : List Call) : (l.answers calls).countP itemError ≤ 1 := by
  induction calls generalizing l with
  | nil => exact Nat.zero_le 1
  | cons c calls ih =>
      rw [answers, List.countP_cons]
      cases reads : c.reads with
      | false =>
          obtain ⟨still, answer, -⟩ := open_prefer open' reads
          rw [answer]
          cases c <;> exact ih still
      | true =>
          rcases open_step open' reads with ⟨settled, -, -⟩ | ⟨k, still, items, -⟩
          · rw [settled_item_errors settled]
            split <;> omega
          · rw [item_error_items c items]
            exact ih still

theorem settle_table (l : Lexer) (r : Except LexError Token) : (l.settle r).lexer.table = l.table := by
  unfold settle
  split <;> rfl

theorem next_token_keeps (l : Lexer) :
    l.nextToken.lexer.table = l.table ∧
      (l.nextToken.lexer.tape = l.tape ∨ l.nextToken.lexer.tape = (Scan.read l.table l.tape).tape) := by
  unfold nextToken
  split
  · exact ⟨rfl, .inl rfl⟩
  · exact ⟨rfl, .inl rfl⟩
  · exact ⟨settle_table _ _, .inr (by simp [read, moveTo])⟩

theorem call_keeps (l : Lexer) (c : Call) :
    (l.call c).2.1.table = l.table ∧
      ((l.call c).2.1.tape = l.tape ∨ (l.call c).2.1.tape = (Scan.read l.table l.tape).tape) := by
  cases c with
  | token => exact next_token_keeps l
  | item =>
      cases ended : l.state.isFinal with
      | true =>
          rw [call, next_final ended]
          exact ⟨rfl, .inl rfl⟩
      | false =>
          rw [call, lexer_next ended]
          exact next_token_keeps l
  | prefer p => exact ⟨rfl, .inl rfl⟩

theorem after_table (l : Lexer) (calls : List Call) : (l.after calls).table = l.table := by
  induction calls generalizing l with
  | nil => rfl
  | cons c calls ih => exact (ih (l.call c).2.1).trans (call_keeps l c).1

theorem after_stands {behind ahead : List Char} (stands : l.tape.Stands behind ahead) (calls : List Call) :
    ∃ span rest, ahead = span ++ rest ∧ (l.after calls).tape.Stands (behind ++ span) rest := by
  induction calls generalizing l behind ahead with
  | nil => exact ⟨[], ahead, rfl, by rwa [List.append_nil]⟩
  | cons c calls ih =>
      rcases (call_keeps l c).2 with same | moved
      · exact ih (by rwa [same])
      · obtain ⟨span, rest, rfl, onward⟩ := Scan.read_stands l.table stands
        rw [← moved] at onward
        obtain ⟨span', rest', rfl, further⟩ := ih onward
        exact ⟨span ++ span', rest', by rw [List.append_assoc], by rwa [← List.append_assoc]⟩

theorem open_emits (open' : l.Open) {c : Call} {k : Token} (emitted : (l.call c).1 = some (.ok k)) (more : k ≠ .finish) :
    (Scan.read l.table l.tape).result = .ok k ∧
      (l.call c).2.1 = (l.moveTo (Scan.read l.table l.tape)).accept k := by
  cases reads : c.reads with
  | false =>
      rw [(open_prefer open' reads).2.1] at emitted
      cases emitted
  | true =>
      obtain ⟨items, after⟩ := open_call open' reads
      rw [emitted, next_token_result open'.going] at items
      have came : (Scan.read l.table l.tape).result = .ok k := by
        cases came : (Scan.read l.table l.tape).result with
        | error e => simp [came, Answer.items, more] at items
        | ok k' => by_cases last : k' = .finish <;> simp_all [Answer.items]
      rw [after, next_token_ok open'.going came more]
      exact ⟨came, rfl⟩

theorem settled_emits {r : Except LexError Token} (settled : l.Settled r) {c : Call} {k : Token}
    (emitted : (l.call c).1 = some (.ok k)) : k = .finish := by
  rw [(settled_call settled c).1] at emitted
  rcases settled with ⟨-, -, rfl⟩ | ⟨e, -, -, rfl⟩
  · split at emitted
    · exact (Except.ok.inj (Option.some.inj emitted)).symm
    · cases emitted
  · split at emitted <;> cases emitted

theorem call_emits (open' : l.Open) (calls : List Call) {c : Call} {k : Token}
    (emitted : ((l.after calls).call c).1 = some (.ok k)) (more : k ≠ .finish) :
    (Scan.read l.table (l.after calls).tape).result = .ok k ∧
      ((l.after calls).call c).2.1.tape = (Scan.read l.table (l.after calls).tape).tape ∧
      ((l.after calls).call c).2.1.Open := by
  rcases open_after open' calls with ⟨still, -, -⟩ | ⟨settled, -, -⟩
  · obtain ⟨came, after⟩ := open_emits still emitted more
    rw [after, ← after_table l calls]
    exact ⟨came, rfl, rfl, still.unfailed⟩
  · exact absurd (settled_emits settled emitted) more

theorem token_cons (open' : l.Open) {k : Token} {items : List (Except LexError Token)}
    (some : l.sequence = .ok k :: items) :
    l.nextToken.result = .ok k ∧ l.nextToken.lexer.Open ∧ l.nextToken.lexer.sequence = items ∧
      l.nextToken.lexer.table = l.table ∧ l.nextToken.lexer.tape = (Scan.read l.table l.tape).tape := by
  obtain ⟨came, more, rest⟩ := Scan.sequence_cons some
  rw [next_token_ok open'.going came more]
  exact ⟨rfl, ⟨rfl, open'.unfailed⟩, rest, rfl, rfl⟩

theorem token_nil (open' : l.Open) (none : l.sequence = []) : l.nextToken.result = .ok .finish :=
  (next_token_result open'.going).trans (Scan.sequence_nil none)

theorem run_onto_open (open' : l.Open) {k : Token} {items : List (Except LexError Token)}
    (some : l.sequence = .ok k :: items) (taken : List Token) (logged : List Log.Notice) :
    let onward := (l.moveTo (Scan.read l.table l.tape)).accept k
    onward.Open ∧ onward.sequence = items ∧ l.runOnto taken logged = onward.runOnto (k :: taken) logged := by
  intro onward
  obtain ⟨came, more, rest⟩ := Scan.sequence_cons some
  have read := next_token_ok open'.going came more
  refine ⟨⟨rfl, open'.unfailed⟩, rest, ?_⟩
  rw [run_onto_token taken logged (by rw [read]) more, read, List.append_nil]

theorem token_answers (open' : l.Open) (ts : List Token) (tokens : l.sequence = ts.map .ok) (i : Nat) {k : Token}
    (at' : (ts ++ [.finish])[i]? = some k) :
    ((l.after (List.replicate i .token)).call .token).1 = some (.ok k) := by
  induction ts generalizing l i with
  | nil =>
      cases i with
      | zero =>
          obtain rfl := Option.some.inj at'
          exact congrArg some (token_nil open' tokens)
      | succ i => cases at'
  | cons k' ts ih =>
      obtain ⟨came, still, rest, -, -⟩ := token_cons open' tokens
      cases i with
      | zero =>
          obtain rfl := Option.some.inj at'
          exact congrArg some came
      | succ i => exact ih still rest i at'

theorem of_tape_open (t : Table) (preferences : LexingPreferences) (tape : Tape Char) :
    (ofTape t preferences tape).Open := ⟨rfl, rfl⟩

theorem create_ok_iff (t : Table) (preferences : LexingPreferences) (pattern : String) (l : Lexer) :
    create t preferences pattern = .ok l ↔
      pattern.length ≤ patternLimit ∧ l = ofTape t preferences (.ofList pattern.toList) := by
  unfold create
  split
  · rename_i long
    simp [Nat.not_le_of_lt long]
  · rename_i short
    simp [Nat.le_of_not_lt short, eq_comm]

theorem create_error_iff (t : Table) (preferences : LexingPreferences) (pattern : String) (e : LexError) :
    create t preferences pattern = .error e ↔
      patternLimit < pattern.length ∧ e = .patternTooLong pattern.length := by
  unfold create
  split
  · rename_i long
    simp [long, eq_comm]
  · rename_i short
    simp [short]

theorem collect_created {t : Table} {preferences : LexingPreferences} {pattern : String}
    (created : create t preferences pattern = .ok l) :
    l.Open ∧ l.collect.1 = l.sequence ∧ l.sequence = Scan.sequence t (.ofList pattern.toList) := by
  obtain ⟨-, rfl⟩ := (create_ok_iff t preferences pattern l).mp created
  exact ⟨of_tape_open t preferences _, collect_sequence rfl, rfl⟩

end Lexer

-- Tokenizing, collecting the iterator and any mixture of calls agree on one sequence, `l.collect.1`.
theorem readers_agree (t : Table) (preferences : LexingPreferences) (pattern : String) :
    (∀ stream, (tokenize t preferences pattern).1 = .ok stream ↔
      ∃ (l : Lexer) (ts : List Token), Lexer.create t preferences pattern = .ok l ∧
        l.collect.1 = ts.map .ok ∧ .finish ∉ ts ∧ stream = .ofList (ts ++ [.finish])) ∧
    (∀ e, (tokenize t preferences pattern).1 = .error e ↔
      Lexer.create t preferences pattern = .error e ∨
        ∃ (l : Lexer) (ts : List Token), Lexer.create t preferences pattern = .ok l ∧
          l.collect.1 = ts.map .ok ++ [.error e]) ∧
    ∀ l, Lexer.create t preferences pattern = .ok l → ∀ calls : List Call,
      l.handed calls = l.collect.1.take (calls.countP Call.reads) ∧
      (l.answers calls).countP Lexer.itemError ≤ 1 ∧
      ((l.after calls).state.isFinal = true →
        l.handed calls = l.collect.1 ∧ (l.after calls).Settled (Lexer.ending l.collect.1) ∧
        ∀ more, (((l.after calls).after more).call .item).1 = none ∧
          (((l.after calls).after more).call .token).1 = some (Lexer.ending l.collect.1)) := by
  refine ⟨fun stream => ?_, fun e => ?_, fun l created calls => ?_⟩
  · rw [tokenize_ok_iff]
    constructor
    · rintro ⟨short, ts, tokens, read⟩
      have created := (Lexer.create_ok_iff t preferences pattern _).mpr ⟨short, rfl⟩
      obtain ⟨-, collected, same⟩ := Lexer.collect_created created
      refine ⟨_, ts, created, by rw [collected, same, tokens], fun closing => ?_, read⟩
      exact Scan.sequence_unfinished t _ (tokens ▸ List.mem_map_of_mem closing)
    · rintro ⟨l, ts, created, collected, -, read⟩
      obtain ⟨-, collected', same⟩ := Lexer.collect_created created
      exact ⟨((Lexer.create_ok_iff _ _ _ _).mp created).1, ts, by rw [← same, ← collected', collected], read⟩
  · rw [tokenize_error_iff, Lexer.create_error_iff]
    refine or_congr_right ⟨?_, ?_⟩
    · rintro ⟨short, ts, items⟩
      have created := (Lexer.create_ok_iff t preferences pattern _).mpr ⟨short, rfl⟩
      obtain ⟨-, collected, same⟩ := Lexer.collect_created created
      exact ⟨_, ts, created, by rw [collected, same, items]⟩
    · rintro ⟨l, ts, created, collected⟩
      obtain ⟨-, collected', same⟩ := Lexer.collect_created created
      exact ⟨((Lexer.create_ok_iff _ _ _ _).mp created).1, ts, by rw [← same, ← collected', collected]⟩
  · obtain ⟨open', collected, -⟩ := Lexer.collect_created created
    rw [collected]
    refine ⟨Lexer.handed_sequence open' calls, Lexer.open_item_errors open' calls, fun ended => ?_⟩
    obtain ⟨whole, settled⟩ := Lexer.settled_sequence open' calls ended
    refine ⟨whole, settled, fun more => ?_⟩
    have still := Lexer.settled_after settled more
    exact ⟨(Lexer.settled_call still .item).1, (Lexer.settled_call still .token).1⟩

theorem readers_agree_mixed :
    let l := Lexer.ofTape {} {} (.ofList "a€".toList)
    let calls : List Call := [.item, .token]
    Lexer.create {} {} "a€" = .ok l ∧ (l.after calls).state.isFinal = true ∧
      l.handed calls = l.collect.1.take 2 ∧ l.handed calls = l.collect.1 ∧
      (((l.after calls).after []).call .item).1 = none := by
  intro l calls
  have created : Lexer.create {} {} "a€" = .ok l := by decide +kernel
  have ended : (l.after calls).state.isFinal = true := by decide +kernel
  obtain ⟨front, -, settled⟩ := (readers_agree {} {} "a€").2.2 l created calls
  exact ⟨created, ended, front, (settled ended).1, ((settled ended).2.2 []).1⟩

end PatternLexer
