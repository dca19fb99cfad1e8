import PatternLexer.Proofs.Lexer.Coherence
import PatternLexer.Proofs.Pattern.Shorthand
import PatternLexer.Proofs.Pattern.Unescaped

set_option autoImplicit false

namespace PatternLexer

open Scan Tape

variable {t : Table}

theorem letter_single {c : Char} (letter : c.isAlpha = true) : Single t c := .inr (.inr (.inl letter))

theorem letter_digit {c : Char} (letter : c.isAlpha = true) : c.isDigit = false := by
  have low : 65 ≤ c.toNat := by
    rcases Bool.or_eq_true_iff.mp letter with capital | small
    · exact UInt32.le_iff_toNat_le.mp (of_decide_eq_true capital).1
    · exact Nat.le_trans (by decide) (UInt32.le_iff_toNat_le.mp (of_decide_eq_true (Bool.and_eq_true_iff.mp small).1))
  rw [Bool.eq_false_iff]
  intro digit
  have high : c.toNat ≤ 57 := by
    simp only [Char.isDigit, Bool.and_eq_true, decide_eq_true_eq, UInt32.le_iff_toNat_le] at digit
    exact digit.2
  omega

theorem letter_kind {c : Char} (letter : c.isAlpha = true) :
    ownKind t c = ((t.kindOfChar? c).filter Kind.isDirect).getD (.literal .char) := by
  unfold ownKind
  rw [letter_digit letter]
  cases (t.kindOfChar? c).filter Kind.isDirect <;> rfl

theorem halts_selected (lawful : t.Lawful) {span ahead : List Char} {found : Finding} {state : State}
    (halts : Halts t span ahead found state) (one : span.length = 1) {p : Nat} {k : Kind} {x : String} {negated : Bool}
    (escape : found p = .ok (.escape k x negated)) :
    ∃ c rest, ahead = c :: rest ∧ x = String.singleton c ∧ c.isAlpha = true := by
  cases halts with
  | cluster rest =>
      cases escape
      exact ⟨'X', rest, rfl, rfl, rfl⟩
  | @shorthand c _ rest _ _ bound =>
      cases escape
      exact ⟨c, rest, rfl, rfl, Bool.or_eq_true_iff.mpr (.inr (lawful_letter lawful bound))⟩
  | @negated c _ rest _ _ _ bound =>
      cases escape
      refine ⟨c, rest, rfl, rfl, capital_letter fun small => ?_⟩
      rw [negatedKind?, if_pos small] at bound
      cases bound
  | letter => cases one
  | name => simp at one
  | _ => cases escape

-- A token is read only from a tape whose cursor is in front of one of its items.
theorem token_cut {tape : Tape Char} {k : Token} (came : (read t tape).result = .ok k) (more : k ≠ .finish) :
    ∃ behind ahead, tape = cut behind ahead := by
  cases first : tape.next.1 with
  | none =>
      simp only [Scan.read, Tape.next, show tape.advance.current? = none from first] at came
      exact absurd (Except.ok.inj came).symm more
  | some c =>
      obtain ⟨inside, moved⟩ := next_some first
      have low := (get?_isSome_lt (show tape.advance.get? tape.advance.cursor = some c from first)).1
      rcases stands_in_bounds tape (by omega) (Int.le_of_lt inside) with here | ⟨-, here⟩
      · exact ⟨_, _, here⟩
      · rw [here, read_spent] at came
        exact absurd (Except.ok.inj came).symm more

theorem escape_selected_letter (lawful : t.Lawful) {tape : Tape Char} {k : Kind} {x : String} {negated : Bool}
    (came : (read t tape).result = .ok (.escape k x negated)) (one : (read t tape).tape.cursor = tape.cursor + 1) :
    ∃ c behind ahead, (read t tape).tape = cut behind (c :: ahead) ∧ x = String.singleton c ∧ c.isAlpha = true := by
  obtain ⟨behind, text, rfl⟩ := token_cut came nofun
  rcases read_cases t text with ⟨span, ahead, found, state, rfl, halts⟩ | ⟨found, state, drains⟩
  · rw [read_halts halts] at came one ⊢
    have taken : span.length = 1 := by
      simp only [cut, List.length_append] at one
      omega
    obtain ⟨c, rest, rfl, name, letter⟩ := halts_selected lawful halts taken came
    exact ⟨c, behind ++ span, rest, rfl, name, letter⟩
  · rw [read_drains drains] at came
    have lone := first_of_drains lawful drains came nofun
    cases lone.writes

namespace Lexer

variable {l : Lexer}

theorem open_prefers (open' : l.Open) {between : List Call} (silent : ∀ d ∈ between, d.reads = false) :
    (l.after between).Open ∧ (l.after between).table = l.table ∧ (l.after between).tape = l.tape := by
  induction between generalizing l with
  | nil => exact ⟨open', rfl, rfl⟩
  | cons d between ih =>
      rw [List.forall_mem_cons] at silent
      cases d with
      | prefer p => exact ih (open_prefer open' (c := .prefer p) rfl).1 silent.2
      | _ => cases silent.1

theorem open_token {k : Token} {d : Call} (open' : l.Open) (reads : d.reads = true)
    (came : (Scan.read l.table l.tape).result = .ok k) (more : k ≠ .finish) :
    (l.call d).1 = some (.ok k) ∧ (l.call d).2.1.tape = (Scan.read l.table l.tape).tape := by
  have result := next_token_result open'.going
  refine ⟨?_, ?_⟩
  · cases d with
    | token => rw [call, result, came]
    | item => rw [call, next_item open'.going (by simp [result, came, more]), result, came]
    | prefer p => cases reads
  · rw [(open_call open' reads).2, next_token_ok open'.going came more]
    rfl

theorem built_open (built : l.Built) : l.Open := by
  obtain ⟨t, preferences, tape, rfl⟩ := built_tape built
  exact of_tape_open t preferences tape

theorem letter_next (open' : l.Open) {letter : Char} (alpha : letter.isAlpha = true) {behind ahead : List Char}
    (here : l.tape = cut behind (letter :: ahead)) {between : List Call} (silent : ∀ d ∈ between, d.reads = false)
    {d : Call} (reads : d.reads = true) :
    ((l.after between).call d).1 = some (.ok (ownToken l.table letter)) ∧
      ((l.after between).call d).2.1.tape.cursor = l.tape.cursor + 1 := by
  obtain ⟨still, table, tape⟩ := open_prefers open' silent
  -- The letter is a token by itself, whatever stands around it.
  have read := single_read (t := l.table) (letter_single alpha) behind ahead
  rw [← here, ← table, ← tape] at read
  obtain ⟨answer, after⟩ := open_token still reads (congrArg Scan.result read) nofun
  rw [answer, after, read, here, table]
  refine ⟨rfl, ?_⟩
  simp [cut]

end Lexer

theorem selector_read_again {bs : List Binding} {l : Lexer} (accepted : Table.ofBindings bs = .ok l.table)
    (built : l.Built) (calls : List Call) {c : Call} {k : Kind} {x : String} {negated : Bool}
    (escape : ((l.after calls).call c).1 = some (.ok (.escape k x negated)))
    (one : ((l.after calls).call c).2.1.tape.cursor = (l.after calls).tape.cursor + 1) :
    ∃ letter : Char, x = String.singleton letter ∧ letter.isAlpha = true ∧
      ((l.after calls).call c).2.1.tape.peek? 1 = some letter ∧
      ∀ between : List Call, (∀ d ∈ between, d.reads = false) → ∀ d : Call, d.reads = true →
        ((((l.after calls).call c).2.1.after between).call d).1 =
          some (.ok (.plain (((l.table.kindOfChar? letter).filter Kind.isDirect).getD (.literal .char)) x)) ∧
        ((((l.after calls).call c).2.1.after between).call d).2.1.tape.cursor =
          ((l.after calls).call c).2.1.tape.cursor + 1 := by
  have lawful := Table.lawful_of_bindings accepted
  obtain ⟨came, moved, still⟩ := Lexer.call_emits (Lexer.built_open built) calls escape nofun
  rw [moved] at one
  obtain ⟨letter, behind, ahead, onward, rfl, alpha⟩ := escape_selected_letter lawful came one
  have here := moved.trans onward
  have table := (Lexer.call_keeps (l.after calls) c).1.trans (Lexer.after_table l calls)
  refine ⟨letter, rfl, alpha, by rw [here, cut_peek]; rfl, fun between silent d reads => ?_⟩
  rw [← letter_kind alpha, ← table]
  exact Lexer.letter_next still alpha here silent reads

theorem selector_read_again_bound :
    let bs : List Binding := [⟨.shorthand .digit, "d"⟩, ⟨.symbol .star, "D"⟩]
    let t := (({} : Table).insert ⟨.shorthand .digit, "d"⟩).insert ⟨.symbol .star, "D"⟩
    let l := Lexer.ofTape t {} (.ofList "1\\D".toList)
    let after := ((l.after [.token]).call .token).2.1
    Table.ofBindings bs = .ok t ∧
      ((l.after [.token]).call .token).1 = some (.ok (.escape (.shorthand .digit) "D" true)) ∧
      after.tape.cursor = (l.after [.token]).tape.cursor + 1 ∧ after.tape.peek? 1 = some 'D' ∧
      ((after.after [.prefer { trackKinds := true }]).call .item).1 = some (.ok (.plain (.symbol .star) "D")) := by
  intro bs t l after
  have accepted : Table.ofBindings bs = .ok t := by decide +kernel
  have escape : ((l.after [.token]).call .token).1 = some (.ok (.escape (.shorthand .digit) "D" true)) := by
    decide +kernel
  have one : after.tape.cursor = (l.after [.token]).tape.cursor + 1 := by decide +kernel
  obtain ⟨letter, name, -, ahead, again⟩ := selector_read_again accepted (.ofTape t {} _) [.token] escape one
  obtain rfl : letter = 'D' := by simpa using congrArg String.toList name.symm
  have own : ((t.kindOfChar? 'D').filter Kind.isDirect).getD (.literal .char) = .symbol .star := by decide +kernel
  have next := (again [.prefer { trackKinds := true }] (by simp [Call.reads]) .item rfl).1
  exact ⟨accepted, escape, one, ahead, own ▸ next⟩

end PatternLexer
