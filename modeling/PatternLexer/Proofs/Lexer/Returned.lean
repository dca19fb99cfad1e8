import PatternLexer.Proofs.Lexer.Coherence
import PatternLexer.Proofs.Lexer.Counts
import PatternLexer.Proofs.Lexer.Reports

set_option autoImplicit false

namespace PatternLexer

def Answer.token? : Answer → Option Token
  | some (.ok .finish) => none
  | some (.ok k) => some k
  | _ => none

def Call.chosen : Call → LexingPreferences → LexingPreferences
  | .prefer p, _ => p
  | _, p => p

-- Each token comes with the preferences set last. The closing token is not counted.
def returned (p : LexingPreferences) : List (Call × Answer) → List (LexingPreferences × Token)
  | [] => []
  | (c, a) :: history => (a.token?.toList.map (c.chosen p, ·)) ++ returned (c.chosen p) history

namespace Usage

structure Tallies (u : Usage) (number : Kind → Nat) : Prop where
  distinct : (u.map (·.1)).Nodup
  present : ∀ k, k ∈ u.map (·.1) ↔ 0 < number k
  counts : ∀ k, u.count k = number k

variable {u : Usage}

theorem tallies_nothing : Tallies [] fun _ => 0 := ⟨List.nodup_nil, by simp, fun _ => rfl⟩

theorem add_keys (u : Usage) (j k : Kind) : k ∈ (u.add j).map (·.1) ↔ k = j ∨ k ∈ u.map (·.1) := by
  induction u with
  | nil => simp [add]
  | cons c u ih =>
      obtain ⟨i, n⟩ := c
      by_cases same : i = j
      · simp [add, same]
      · rw [add, if_neg same, List.map_cons, List.mem_cons, ih, List.map_cons, List.mem_cons]
        exact or_left_comm

theorem add_distinct (distinct : (u.map (·.1)).Nodup) (j : Kind) : ((u.add j).map (·.1)).Nodup := by
  induction u with
  | nil => simp [add]
  | cons c u ih =>
      obtain ⟨i, n⟩ := c
      obtain ⟨fresh, rest⟩ := List.nodup_cons.mp distinct
      by_cases same : i = j
      · rw [add, if_pos same]
        exact distinct
      · rw [add, if_neg same, List.map_cons, List.nodup_cons, add_keys]
        exact ⟨not_or.mpr ⟨same, fresh⟩, ih rest⟩

theorem count_cons (i : Kind) (n : Nat) (u : Usage) (k : Kind) :
    count ((i, n) :: u) k = if i = k then n else count u k := by
  by_cases same : i = k <;> simp [count, same]

theorem add_count (u : Usage) (j k : Kind) : (u.add j).count k = u.count k + if j = k then 1 else 0 := by
  induction u with
  | nil => exact count_cons j 1 [] k |>.trans (Nat.zero_add _).symm
  | cons c u ih =>
      obtain ⟨i, n⟩ := c
      by_cases same : i = j
      · subst same
        rw [add, if_pos rfl, count_cons, count_cons]
        split <;> rfl
      · rw [add, if_neg same, count_cons, count_cons, ih]
        by_cases found : i = k
        · have other : j ≠ k := fun equal => same (found.trans equal.symm)
          rw [if_pos found, if_pos found, if_neg other, Nat.add_zero]
        · rw [if_neg found, if_neg found]

theorem tallies_add {number : Kind → Nat} (tallies : u.Tallies number) (j : Kind) :
    (u.add j).Tallies fun k => number k + if j = k then 1 else 0 := by
  refine ⟨add_distinct tallies.distinct j, fun k => ?_, fun k => ?_⟩
  · rw [add_keys, tallies.present]
    by_cases same : j = k
    · simp [same]
    · simp [same, Ne.symm same]
  · rw [add_count, tallies.counts]

end Usage

namespace Metrics

def tracked (p : LexingPreferences) (k : Token) : Option Kind := if p.trackKinds then k.kind? else none

structure Tally (m : Metrics) (came : List (LexingPreferences × Token)) : Prop where
  forms : ∀ c : Counter, c.read m = came.countP fun x => c.counts x.1 x.2
  kinds : m.usage.Tallies fun j => came.countP fun x => tracked x.1 x.2 = some j

variable {m : Metrics} {came : List (LexingPreferences × Token)}

theorem tally_nothing : Tally {} [] := ⟨Counter.read_fresh, Usage.tallies_nothing⟩

theorem form_usage (m : Metrics) (k : Token) : (m.recordForm k).usage = m.usage := by
  cases k <;> rfl

theorem record_usage (p : LexingPreferences) (m : Metrics) (k : Token) :
    (m.record p k).usage = (tracked p k).elim m.usage m.usage.add := by
  cases kind : k.kind? with
  | none =>
      rw [record, tracked, kind, ite_self]
      rfl
  | some j =>
      have used (m : Metrics) :
          (if p.trackKinds then m.recordKind j else m).usage = (tracked p k).elim m.usage m.usage.add := by
        rw [tracked, kind]
        split <;> rfl
      rw [record, kind]
      dsimp only
      split
      · rw [form_usage, used]
      · rw [used]

theorem tally_record (tally : m.Tally came) (p : LexingPreferences) (k : Token) :
    (m.record p k).Tally (came ++ [(p, k)]) := by
  refine ⟨fun c => ?_, ?_⟩
  · rw [c.record_read, tally.forms, List.countP_append, List.countP_singleton]
  · simp only [record_usage, List.countP_append, List.countP_singleton]
    cases kind : tracked p k with
    | none => simpa using tally.kinds
    | some j => simpa using Usage.tallies_add tally.kinds j

theorem tally_error (tally : m.Tally came) : m.recordError.Tally came := by
  refine ⟨fun c => ?_, tally.kinds⟩
  rw [← tally.forms]
  cases c <;> rfl

theorem forms_apart (p : LexingPreferences) (k : Token) :
    (if Counter.plain.counts p k then 1 else 0) + (if Counter.escapes.counts p k then 1 else 0) =
      if p.detailedMetrics && Counter.tokens.counts p k then 1 else 0 := by
  cases k <;> cases detailed : p.detailedMetrics <;>
    simp [Counter.counts, Counter.includes, Counter.isDetail, Token.isEscape, Token.isFinish, detailed]

theorem forms_together (came : List (LexingPreferences × Token)) :
    (came.countP fun x => Counter.plain.counts x.1 x.2) + (came.countP fun x => Counter.escapes.counts x.1 x.2) =
      came.countP fun x => x.1.detailedMetrics && Counter.tokens.counts x.1 x.2 := by
  induction came with
  | nil => rfl
  | cons x came ih =>
      have first := forms_apart x.1 x.2
      simp only [List.countP_cons]
      omega

theorem narrower {c d : Counter} (detail : c.isDetail = d.isDetail) (within : ∀ k, c.includes k → d.includes k)
    (tally : m.Tally came) : c.read m ≤ d.read m := by
  rw [tally.forms, tally.forms]
  refine List.countP_mono_left fun x _ counted => ?_
  rw [Counter.counts, Bool.and_eq_true] at counted ⊢
  exact ⟨within x.2 counted.1, detail ▸ counted.2⟩

theorem includes_within (k : Token) :
    (Counter.characters.includes k → Counter.plain.includes k) ∧
      (Counter.negated.includes k → Counter.escapes.includes k) ∧
      (Counter.properties.includes k → Counter.escapes.includes k) := by
  cases k <;> simp [Counter.includes, Token.isEscape, Token.isNegated, Token.isProperty]

theorem tally_within (tally : m.Tally came) :
    m.characters ≤ m.plain ∧ m.negated ≤ m.escapes ∧ m.properties ≤ m.escapes :=
  ⟨narrower (c := .characters) (d := .plain) rfl (fun k => (includes_within k).1) tally,
    narrower (c := .negated) (d := .escapes) rfl (fun k => (includes_within k).2.1) tally,
    narrower (c := .properties) (d := .escapes) rfl (fun k => (includes_within k).2.2) tally⟩

theorem tally_together (tally : m.Tally came) :
    m.plain + m.escapes ≤ m.tokens ∧
      ((∀ x ∈ came, x.1.detailedMetrics = true) → m.plain + m.escapes = m.tokens) := by
  have plain : m.plain = _ := tally.forms .plain
  have escapes : m.escapes = _ := tally.forms .escapes
  have tokens : m.tokens = _ := tally.forms .tokens
  rw [plain, escapes, tokens, forms_together]
  refine ⟨List.countP_mono_left fun x _ => And.right ∘ (Bool.and_eq_true _ _).mp, fun detailed => ?_⟩
  exact List.countP_congr fun x member => by rw [detailed x member, Bool.true_and]

end Metrics

namespace Lexer

variable {l : Lexer} {came : List (LexingPreferences × Token)}

theorem settled_returns {r : Except LexError Token} (settled : l.Settled r) (c : Call) :
    (l.call c).1.token? = none := by
  rw [(settled_call settled c).1]
  split
  · rcases settled with ⟨-, -, rfl⟩ | ⟨e, -, -, rfl⟩ <;> rfl
  · rfl

theorem item_token (going : l.state.isFinal = false) :
    Answer.token? l.next.1 = Answer.token? (some l.nextToken.result) := by
  by_cases finished : l.nextToken.result = .ok .finish
  · rw [next_finish going finished, finished]
    rfl
  · rw [next_item going finished]

theorem read_tally (going : l.state.isFinal = false) (tally : l.metrics.Tally came) :
    l.nextToken.lexer.metrics.Tally
      (came ++ (Answer.token? (some l.nextToken.result)).toList.map (l.preferences, ·)) := by
  cases read : (Scan.read l.table l.tape).result with
  | error e =>
      rw [next_token_error going read]
      exact (List.append_nil came).symm ▸ Metrics.tally_error tally
  | ok k =>
      by_cases more : k = .finish
      · subst more
        rw [next_token_finish going read]
        exact (List.append_nil came).symm ▸ tally
      · have new : Answer.token? (some (.ok k)) = some k := by
          cases k with
          | finish => exact absurd rfl more
          | _ => rfl
        rw [next_token_ok going read more, new]
        exact Metrics.tally_record tally l.preferences k

theorem call_tally (coherent : l.Coherent) (tally : l.metrics.Tally came) (c : Call) :
    (l.call c).2.1.metrics.Tally (came ++ (l.call c).1.token?.toList.map (c.chosen l.preferences, ·)) := by
  cases ended : l.state.isFinal with
  | true =>
      obtain ⟨r, settled⟩ := coherent_settled coherent ended
      rw [settled_keeps settled c, settled_returns settled c]
      exact (List.append_nil came).symm ▸ tally
  | false =>
      cases c with
      | token => exact read_tally ended tally
      | item =>
          rw [call, lexer_next ended, item_token ended]
          exact read_tally ended tally
      | prefer p => exact (List.append_nil came).symm ▸ tally

theorem after_tally (coherent : l.Coherent) (tally : l.metrics.Tally came) (calls : List Call) :
    (l.after calls).metrics.Tally (came ++ returned l.preferences (l.answers calls)) := by
  induction calls generalizing l came with
  | nil => exact (List.append_nil came).symm ▸ tally
  | cons c calls ih =>
      have chosen : (l.call c).2.1.preferences = c.chosen l.preferences := by
        rw [call_preferences]
        cases c <;> rfl
      have onward := ih (coherent_call coherent c) (call_tally coherent tally c)
      rwa [chosen, List.append_assoc] at onward

end Lexer

theorem token_unfinished {a : Answer} {k : Token} (new : a.token? = some k) : k.isFinish = false := by
  rcases a with - | (e | k')
  · cases new
  · cases new
  · cases k' with
    | finish => cases new
    | _ =>
        obtain rfl := Option.some.inj new
        rfl

theorem returned_unfinished (p : LexingPreferences) (history : List (Call × Answer)) :
    ∀ x ∈ returned p history, x.2.isFinish = false := by
  induction history generalizing p with
  | nil => exact fun x member => absurd member List.not_mem_nil
  | cons h history ih =>
      intro x member
      rcases List.mem_append.mp member with new | later
      · obtain ⟨k, found, rfl⟩ := List.mem_map.mp new
        exact token_unfinished (Option.mem_toList.mp found)
      · exact ih _ x later

theorem counts_returned {l : Lexer} (built : l.Built) (calls : List Call) :
    let came := returned l.preferences (l.answers calls)
    let m := (l.after calls).metrics
    m.tokens = came.length ∧ m.Tally came ∧
      m.characters ≤ m.plain ∧ m.negated ≤ m.escapes ∧ m.properties ≤ m.escapes ∧ m.plain + m.escapes ≤ m.tokens ∧
      ((∀ x ∈ came, x.1.detailedMetrics = true) → m.plain + m.escapes = m.tokens) := by
  intro came m
  obtain ⟨t, preferences, tape, rfl⟩ := Lexer.built_tape built
  have tally : m.Tally came :=
    Lexer.after_tally (Lexer.coherent_of_tape t preferences tape) Metrics.tally_nothing calls
  obtain ⟨characters, negated, properties⟩ := Metrics.tally_within tally
  obtain ⟨together, detailed⟩ := Metrics.tally_together tally
  refine ⟨?_, tally, characters, negated, properties, together, detailed⟩
  have tokens : m.tokens = _ := tally.forms .tokens
  rw [tokens, List.countP_eq_length]
  intro x member
  have more := returned_unfinished _ _ x member
  simp [Counter.counts, Counter.includes, Counter.isDetail, more]

theorem counts_returned_switched :
    let t := (({} : Table).insert ⟨.shorthand .digit, "d"⟩).insert ⟨.property .uppercaseLetter, "Lu"⟩
    let l := Lexer.ofTape t {} (.ofList "a1\\D\\p\x7bLu\x7d".toList)
    let calls : List Call :=
      [.token, .prefer ⟨false, true, true⟩, .item, .token, .prefer ⟨true, true, true⟩, .token, .item, .token, .token]
    let came := returned l.preferences (l.answers calls)
    let m := (l.after calls).metrics
    came.map (·.2.lexeme) = ["a", "1", "D", "D", "Lu"] ∧ m.tokens = 5 ∧ m.plain = 2 ∧ m.escapes = 1 ∧ m.negated = 0 ∧
      m.usage.count (.literal .char) = 1 ∧ .symbol .dot ∉ m.usage.map (·.1) := by
  intro t l calls came m
  have counted : m.tokens = came.length ∧ m.Tally came ∧ _ := counts_returned (.ofTape t {} _) calls
  have read : came.map (·.2.lexeme) = ["a", "1", "D", "D", "Lu"] := by decide +kernel
  have length : came.length = 5 := by decide +kernel
  have plain : came.countP (fun x => Counter.plain.counts x.1 x.2) = 2 := by decide +kernel
  have escapes : came.countP (fun x => Counter.escapes.counts x.1 x.2) = 1 := by decide +kernel
  have negated : came.countP (fun x => Counter.negated.counts x.1 x.2) = 0 := by decide +kernel
  have used : came.countP (fun x => Metrics.tracked x.1 x.2 = some (.literal .char)) = 1 := by decide +kernel
  have unused : came.countP (fun x => Metrics.tracked x.1 x.2 = some (.symbol .dot)) = 0 := by decide +kernel
  clear_value came m
  obtain ⟨tokens, ⟨forms, kinds⟩, -⟩ := counted
  refine ⟨read, tokens.trans length, (forms .plain).trans plain, (forms .escapes).trans escapes,
    (forms .negated).trans negated, (kinds.counts _).trans used, fun present => ?_⟩
  exact absurd unused (Nat.pos_iff_ne_zero.mp ((kinds.present _).mp present))

end PatternLexer
