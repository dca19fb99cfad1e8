import PatternLexer.Proofs.Lexer.Finality
import PatternLexer.Proofs.Pattern.Locality

set_option autoImplicit false

namespace PatternLexer

namespace Table

structure Extends (t u : Table) : Prop where
  keeps : ∀ lexeme k, t.kindOf? lexeme = some k → u.kindOf? lexeme = some k
  longer : ∀ lexeme k, t.kindOf? lexeme = none → u.kindOf? lexeme = some k → 2 ≤ lexeme.length

def Gains (t u : Table) (name : String) : Prop := t.kindOf? name = none ∧ ∃ k, u.kindOf? name = some k

variable {t u : Table}

theorem gains_of_differ (extends' : t.Extends u) {lexeme : String} (differ : t.kindOf? lexeme ≠ u.kindOf? lexeme) :
    t.Gains u lexeme := by
  cases bound : t.kindOf? lexeme with
  | some k => exact absurd (bound.trans (extends'.keeps lexeme k bound).symm) differ
  | none =>
      refine ⟨bound, Option.ne_none_iff_exists'.mp fun free => ?_⟩
      exact differ (bound.trans free.symm)

theorem extends_short (extends' : t.Extends u) {lexeme : String} (short : lexeme.length < 2) :
    t.kindOf? lexeme = u.kindOf? lexeme := by
  by_contra differ
  obtain ⟨free, k, bound⟩ := gains_of_differ extends' differ
  exact absurd (extends'.longer lexeme k free bound) (Nat.not_le_of_lt short)

theorem extends_characters (extends' : t.Extends u) (text : List Char) : t.CharactersAlike u text where
  characters c _ := extends_short extends' (by simp)
  small c _ := extends_short extends' (by simp)
  empty := extends_short extends' (by simp)

theorem extends_insert (t : Table) {b : Binding} (free : t.kindOf? b.lexeme = none) (long : 2 ≤ b.lexeme.length) :
    t.Extends (t.insert b) := by
  refine ⟨fun lexeme k bound => ?_, fun lexeme k missing bound => ?_⟩
  · have apart : b.lexeme ≠ lexeme := by
      rintro rfl
      cases free.symm.trans bound
    rw [kind_of_insert, if_neg apart, bound]
  · rw [kind_of_insert] at bound
    split at bound
    · rename_i same
      rwa [← same]
    · cases missing.symm.trans bound

end Table

def Awaits (t u : Table) (p : LexingPreferences) (pattern : String) : Prop :=
  ∃ name i, (tokenize t p pattern).1 = .error (.unknownProperty name i) ∧ t.Gains u name

theorem unknown_name_free {u : Table} {p : LexingPreferences} {pattern name : String} {i : Nat}
    (failed : (tokenize u p pattern).1 = .error (.unknownProperty name i)) : u.kindOf? name = none := by
  rcases (tokenize_error_iff u p pattern _).mp failed with ⟨-, other⟩ | ⟨-, ts, items⟩
  · cases other
  · have fresh : (Tape.ofList pattern.toList).Stands [] pattern.toList := .inl rfl
    obtain ⟨-, -, -, free, -⟩ := Scan.sequence_failed_placed fresh ts items
    exact free

-- Names of two characters or more are only looked up in braces.
theorem tokenize_extends {t u : Table} (extends' : t.Extends u) (p : LexingPreferences) (pattern : String) :
    (tokenize u p pattern = tokenize t p pattern ↔ ¬ Awaits t u p pattern) ∧
      (∀ stream, (tokenize t p pattern).1 = .ok stream → tokenize u p pattern = tokenize t p pattern) ∧
      ∀ e, (tokenize t p pattern).1 = .error e → (∀ name i, e ≠ .unknownProperty name i) →
        tokenize u p pattern = tokenize t p pattern := by
  have kept : ¬ Awaits t u p pattern → tokenize u p pattern = tokenize t p pattern := by
    intro ready
    by_cases long : patternLimit < pattern.length
    · exact tokenize_too_long long t u p
    · -- The larger table knows all that the smaller one does, so they part only at a name that it gains.
      have lacks : Scan.Lacks t u pattern.toList := fun name _ differ => (Table.gains_of_differ extends' differ).1
      rcases Scan.text_alike_unless_missed (Table.extends_characters extends' _) lacks with
        alike | ⟨ts, -, ⟨name, i, rfl, -, differ⟩, items⟩
      · exact tokenize_of_sequence p (Scan.alike_sequence alike)
      · refine absurd ⟨String.ofList name, i, ?_, Table.gains_of_differ extends' differ⟩ ready
        exact (tokenize_error_iff t p pattern _).mpr (.inr ⟨Nat.le_of_not_lt long, ts, items⟩)
  refine ⟨⟨fun same awaits => ?_, kept⟩, fun stream read => kept ?_, fun e failed other => kept ?_⟩
  · obtain ⟨name, i, failed, -, k, bound⟩ := awaits
    rw [← same] at failed
    cases (unknown_name_free failed).symm.trans bound
  · rintro ⟨name, i, failed, -⟩
    cases read.symm.trans failed
  · rintro ⟨name, i, unknown, -⟩
    exact other name i (Except.error.inj (failed.symm.trans unknown))

theorem tokenize_extends_greek :
    let t := ({} : Table).insert ⟨.shorthand .digit, "d"⟩
    let u := t.insert ⟨.property .greek, "Greek"⟩
    t.Extends u ∧
      (tokenize t {} "\\d\\p\x7bGreek\x7d").1 = .error (.unknownProperty "Greek" 10) ∧
      tokenize u {} "\\d\\p\x7bGreek\x7d" ≠ tokenize t {} "\\d\\p\x7bGreek\x7d" ∧
      (tokenize t {} "\\D\\p\x7bHan\x7d").1 = .error (.unknownProperty "Han" 8) ∧
      tokenize u {} "\\D\\p\x7bHan\x7d" = tokenize t {} "\\D\\p\x7bHan\x7d" := by
  intro t u
  have extends' : t.Extends u := Table.extends_insert t (by decide +kernel) (by decide)
  have greek : (tokenize t {} "\\d\\p\x7bGreek\x7d").1 = .error (.unknownProperty "Greek" 10) := by decide +kernel
  have han : (tokenize t {} "\\D\\p\x7bHan\x7d").1 = .error (.unknownProperty "Han" 8) := by decide +kernel
  refine ⟨extends', greek, fun same => ?_, han, (tokenize_extends extends' {} _).1.mpr ?_⟩
  · have gained : t.Gains u "Greek" := ⟨by decide +kernel, .property .greek, by decide +kernel⟩
    exact (tokenize_extends extends' {} _).1.mp same ⟨"Greek", 10, greek, gained⟩
  · rintro ⟨name, i, failed, -, k, bound⟩
    obtain ⟨rfl, -⟩ := LexError.unknownProperty.inj (Except.error.inj (han.symm.trans failed))
    have free : u.kindOf? "Han" = none := by decide +kernel
    cases free.symm.trans bound

end PatternLexer
