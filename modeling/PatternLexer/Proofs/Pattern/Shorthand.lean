import PatternLexer.Proofs.Lexer.Calls
import PatternLexer.Proofs.Pattern.Splitting

set_option autoImplicit false

namespace PatternLexer

open Scan Tape

def Lexer.firstToken (t : Table) (preferences : LexingPreferences) (pattern : String) : Except LexError Token :=
  (Lexer.create t preferences pattern).bind fun l => l.nextToken.result

variable {t : Table}

theorem small_letter_range {c : Char} (lower : c.isLower = true) : ∃ n < 123, 97 ≤ n ∧ Char.ofNat n = c := by
  have bounds : 97 ≤ c.toNat ∧ c.toNat ≤ 122 := by
    change (decide (c.val ≥ 'a'.val) && decide (c.val ≤ 'z'.val)) = true at lower
    simpa [UInt32.le_iff_toNat_le, ← Char.toNat_val] using lower
  exact ⟨c.toNat, Nat.lt_succ_of_le bounds.2, bounds.1, Char.ofNat_toNat c⟩

theorem small_selector {c : Char} (lower : c.isLower = true) (other : c ≠ 'p') : Selector c := by
  refine ⟨?_, ?_, ?_⟩
  · rintro rfl
    cases lower
  · rintro (rfl | rfl)
    · exact other rfl
    · cases lower
  · rintro rfl
    cases lower

theorem capital_small {c : Char} (lower : c.isLower = true) :
    c.toUpper.isLower = false ∧ c.toUpper.toLower = c := by
  have listed : ∀ n < 123, 97 ≤ n →
      (Char.ofNat n).toUpper.isLower = false ∧ (Char.ofNat n).toUpper.toLower = Char.ofNat n := by decide
  obtain ⟨n, below, above, rfl⟩ := small_letter_range lower
  exact listed n below above

theorem capital_letter {c : Char} (lowered : c.toLower ≠ c) : c.isAlpha = true := by
  unfold Char.toLower at lowered
  split at lowered
  · rename_i capital
    have upper : c.isUpper = true := decide_eq_true capital
    exact Bool.or_eq_true_iff.mpr (.inl upper)
  · exact absurd rfl lowered

theorem capital_selector {c : Char} (lower : c.isLower = true) (other : c ≠ 'p') (noCluster : c ≠ 'x') :
    Selector c.toUpper := by
  obtain ⟨-, small⟩ := capital_small lower
  refine ⟨?_, ?_, ?_⟩
  · intro same
    rw [← small, same] at lower
    cases lower
  · rintro (same | same) <;> exact other (small.symm.trans (congrArg Char.toLower same))
  · intro same
    exact noCluster (small.symm.trans (congrArg Char.toLower same))

theorem first_token_pair (t : Table) (preferences : LexingPreferences) (c : Char) :
    Lexer.firstToken t preferences ("\\" ++ String.singleton c) = (read t (cut [] ['\\', c])).result := by
  have short : ("\\" ++ String.singleton c).length ≤ patternLimit := by
    rw [String.length_append, String.length_singleton]
    decide
  have created := (Lexer.create_ok_iff t preferences _ _).mpr ⟨short, rfl⟩
  rw [Lexer.firstToken, created]
  change (Lexer.nextToken _).result = _
  rw [Lexer.next_token_result rfl]
  simp [Lexer.ofTape, list_tape_cut]

theorem lawful_letter (lawful : t.Lawful) {c : Char} {k : Kind} (bound : shorthandKind? t c = some k) :
    c.isLower = true := by
  obtain ⟨known, family⟩ := (shorthand_kind_iff c k).mp bound
  obtain ⟨d, single, lower⟩ := Table.lawful_shorthand lawful known family
  have same : c = d := by simpa using congrArg String.toList single
  rwa [same]

theorem small_read (lawful : t.Lawful) {c : Char} {k : Kind} (bound : shorthandKind? t c = some k)
    (selector : Selector c) :
    (read t (cut [] ['\\', c])).result = .ok (.escape k (String.singleton c) false) := by
  have kind := plain_kind_backslash (Table.lawful_backslash lawful)
  exact congrArg Scan.result (read_halts (.shorthand [] kind selector bound) [])

theorem capital_read (lawful : t.Lawful) {c : Char} {k : Kind} (bound : shorthandKind? t c = some k)
    (lower : c.isLower = true) (selector : Selector c.toUpper) :
    (read t (cut [] ['\\', c.toUpper])).result = .ok (.escape k (String.singleton c.toUpper) true) := by
  have kind := plain_kind_backslash (Table.lawful_backslash lawful)
  obtain ⟨large, small⟩ := capital_small lower
  -- Tables admit small letters only, so the capital is no shorthand of its own.
  have free : shorthandKind? t c.toUpper = none := by
    cases found : shorthandKind? t c.toUpper with
    | none => rfl
    | some k' =>
        rw [lawful_letter lawful found] at large
        cases large
  have negated : negatedKind? t c.toUpper = some k := by
    have different : c ≠ c.toUpper := by
      intro same
      rw [← same, lower] at large
      cases large
    rw [negatedKind?, small, if_neg different, bound]
  exact congrArg Scan.result (read_halts (.negated [] kind selector free negated) [])

theorem marker_read (lawful : t.Lawful) {m : Char} (marker : Marker m) :
    (read t (cut [] ['\\', m])).result = .error (.unknownProperty "" 2) := by
  have kind := plain_kind_backslash (Table.lawful_backslash lawful)
  rw [read_drains (.nameless kind marker)]
  simp [looked, Table.lawful_nonempty lawful]

theorem cluster_read (lawful : t.Lawful) :
    (read t (cut [] ['\\', 'X'])).result = .ok (.escape (.property .x) "X" false) := by
  have kind := plain_kind_backslash (Table.lawful_backslash lawful)
  exact congrArg Scan.result (read_halts (.cluster [] kind) [])

-- Both cases of p open a property and a capital x stands for a cluster, whatever the table binds them to.
theorem shorthand_first_token {bs : List Binding} {t : Table} (accepted : Table.ofBindings bs = .ok t)
    (preferences : LexingPreferences) {lexeme : String} {k : Kind} (bound : t.kindOf? lexeme = some k)
    (shorthand : k.isShorthand = true) :
    ∃ c : Char, lexeme = String.singleton c ∧ c.isLower = true ∧
      Lexer.firstToken t preferences ("\\" ++ String.singleton c) =
        (if c = 'p' then .error (.unknownProperty "" 2) else .ok (.escape k (String.singleton c) false)) ∧
      Lexer.firstToken t preferences ("\\" ++ String.singleton c.toUpper) =
        (if c = 'p' then .error (.unknownProperty "" 2)
        else if c = 'x' then .ok (.escape (.property .x) "X" false)
        else .ok (.escape k (String.singleton c.toUpper) true)) := by
  have lawful := Table.lawful_of_bindings accepted
  obtain ⟨c, rfl, lower⟩ := Table.lawful_shorthand lawful bound shorthand
  have known : shorthandKind? t c = some k := (shorthand_kind_iff c k).mpr ⟨bound, shorthand⟩
  refine ⟨c, rfl, lower, ?_, ?_⟩
  · rw [first_token_pair]
    by_cases property : c = 'p'
    · rw [if_pos property, property]
      exact marker_read lawful (.inl rfl)
    · rw [if_neg property]
      exact small_read lawful known (small_selector lower property)
  · rw [first_token_pair]
    by_cases property : c = 'p'
    · rw [if_pos property, property]
      exact marker_read lawful (.inr rfl)
    · rw [if_neg property]
      by_cases cluster : c = 'x'
      · rw [if_pos cluster, cluster]
        exact cluster_read lawful
      · rw [if_neg cluster]
        exact capital_read lawful known lower (capital_selector lower property cluster)

theorem shorthand_first_token_capital :
    let bs : List Binding := [⟨.shorthand .digit, "d"⟩, ⟨.property .han, "D"⟩]
    let t := (({} : Table).insert ⟨.shorthand .digit, "d"⟩).insert ⟨.property .han, "D"⟩
    Table.ofBindings bs = .ok t ∧ t.kindOf? "d" = some (.shorthand .digit) ∧
      ∃ c, "d" = String.singleton c ∧
        Lexer.firstToken t {} ("\\" ++ String.singleton c) = .ok (.escape (.shorthand .digit) "d" false) ∧
        Lexer.firstToken t {} ("\\" ++ String.singleton c.toUpper) = .ok (.escape (.shorthand .digit) "D" true) := by
  intro bs t
  have accepted : Table.ofBindings bs = .ok t := by decide +kernel
  have bound : t.kindOf? "d" = some (.shorthand .digit) := by decide +kernel
  obtain ⟨c, single, -, small, large⟩ := shorthand_first_token accepted {} bound rfl
  obtain rfl : c = 'd' := by simpa using congrArg String.toList single.symm
  exact ⟨accepted, bound, 'd', single, small, large⟩

theorem shorthand_letters_taken :
    let bs : List Binding := [⟨.shorthand .digit, "p"⟩, ⟨.shorthand .word, "x"⟩]
    let t := (({} : Table).insert ⟨.shorthand .digit, "p"⟩).insert ⟨.shorthand .word, "x"⟩
    Table.ofBindings bs = .ok t ∧ t.kindOf? "p" = some (.shorthand .digit) ∧
      t.kindOf? "x" = some (.shorthand .word) ∧
      Lexer.firstToken t {} "\\p" = .error (.unknownProperty "" 2) ∧
      Lexer.firstToken t {} "\\P" = .error (.unknownProperty "" 2) ∧
      Lexer.firstToken t {} "\\X" = .ok (.escape (.property .x) "X" false) ∧
      ¬ ∀ (c : Char) (k : Kind), t.kindOfChar? c = some k → k.isShorthand = true →
        Lexer.firstToken t {} ("\\" ++ String.singleton c) = .ok (.escape k (String.singleton c) false) ∧
        Lexer.firstToken t {} ("\\" ++ String.singleton c.toUpper) =
          .ok (.escape k (String.singleton c.toUpper) true) := by
  intro bs t
  have property : Lexer.firstToken t {} "\\p" = .error (.unknownProperty "" 2) := by decide +kernel
  refine ⟨by decide +kernel, by decide +kernel, by decide +kernel, property, by decide +kernel,
    by decide +kernel, fun escapes => ?_⟩
  obtain ⟨small, -⟩ := escapes 'p' (.shorthand .digit) (by decide +kernel) rfl
  cases property.symm.trans small

end PatternLexer
