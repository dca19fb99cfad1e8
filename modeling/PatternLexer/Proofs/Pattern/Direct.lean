import PatternLexer.Proofs.Pattern.Splitting

set_option autoImplicit false

namespace PatternLexer

open Scan

variable {t : Table}

theorem writes_plain {f : Form} {span ahead : List Char} {k : Kind} {lexeme : String}
    (writes : Writes t f span ahead (.plain k lexeme)) : lexeme.length = 1 := by
  cases writes with
  | pair => rfl
  | lone => rfl
  | _ => exact String.length_singleton

theorem split_plain {text : List Char} {k : Kind} {lexeme : String} {ks : List Token}
    (split : Split t text (.plain k lexeme :: ks)) : lexeme.length = 1 := by
  cases split with
  | span first _ => exact writes_plain first.writes

theorem direct_read {c : Char} {k : Kind} (bound : t.kindOf? (String.singleton c) = some k)
    (direct : k.isDirect = true) : sequence t (.ofList [c]) = [.ok (.plain k (String.singleton c))] :=
  sequence_single (.plain [] (plain_kind_bound c bound direct)) fun _ => rfl

theorem direct_lexeme_iff {bs : List Binding} {t : Table} (accepted : Table.ofBindings bs = .ok t)
    (preferences : LexingPreferences) {lexeme : String} {k : Kind} (bound : t.kindOf? lexeme = some k)
    (direct : k.isDirect = true) :
    (tokenize t preferences lexeme).1 = .ok (.ofList [.plain k lexeme, .finish]) ↔ lexeme.length = 1 := by
  rw [tokenize_single_iff]
  constructor
  · rintro ⟨-, single⟩
    have fresh : (Tape.ofList lexeme.toList).Stands [] lexeme.toList := .inl rfl
    have lawful := Table.lawful_of_bindings accepted
    have split := (sequence_iff_split lawful fresh [.plain k lexeme]).mp single
    exact split_plain split
  · intro one
    obtain ⟨c, text⟩ := List.length_eq_one_iff.mp ((String.length_toList).trans one)
    obtain rfl : lexeme = String.singleton c := String.toList_inj.mp (by simp [text])
    refine ⟨by rw [one]; decide, ?_⟩
    rw [text]
    exact direct_read bound direct

theorem direct_lexeme_iff_blank :
    let bs : List Binding := [⟨.symbol .star, " "⟩, ⟨.symbol .equal, "  "⟩]
    let t := (({} : Table).insert ⟨.symbol .star, " "⟩).insert ⟨.symbol .equal, "  "⟩
    Table.ofBindings bs = .ok t ∧ t.kindOf? " " = some (.symbol .star) ∧ t.kindOf? "  " = some (.symbol .equal) ∧
      (tokenize t {} " ").1 = .ok (.ofList [.plain (.symbol .star) " ", .finish]) ∧
      (tokenize t {} "  ").1 ≠ .ok (.ofList [.plain (.symbol .equal) "  ", .finish]) := by
  intro bs t
  have accepted : Table.ofBindings bs = .ok t := by decide +kernel
  have one : t.kindOf? " " = some (.symbol .star) := by decide +kernel
  have two : t.kindOf? "  " = some (.symbol .equal) := by decide +kernel
  refine ⟨accepted, one, two, (direct_lexeme_iff accepted {} one rfl).mpr (by decide), ?_⟩
  intro read
  have length := (direct_lexeme_iff accepted {} two rfl).mp read
  revert length
  decide

theorem direct_lexemes_split :
    let bs : List Binding := [⟨.symbol .equal, "=="⟩, ⟨.symbol .star, "ab"⟩]
    let t := (({} : Table).insert ⟨.symbol .equal, "=="⟩).insert ⟨.symbol .star, "ab"⟩
    Table.ofBindings bs = .ok t ∧ t.kindOf? "==" = some (.symbol .equal) ∧ t.kindOf? "ab" = some (.symbol .star) ∧
      (tokenize t {} "==").1 = .error (.unknownCharacter '=' 0) ∧
      (tokenize t {} "ab").1 =
        .ok (.ofList [.plain (.literal .char) "a", .plain (.literal .char) "b", .finish]) ∧
      ¬ ∀ (lexeme : String) (k : Kind), t.kindOf? lexeme = some k → k.isDirect = true →
        (tokenize t {} lexeme).1 = .ok (.ofList [.plain k lexeme, .finish]) := by
  intro bs t
  have bound : t.kindOf? "==" = some (.symbol .equal) := by decide +kernel
  have unknown : (tokenize t {} "==").1 = .error (.unknownCharacter '=' 0) := by decide +kernel
  refine ⟨by decide +kernel, bound, by decide +kernel, unknown, by decide +kernel, fun whole => ?_⟩
  cases unknown.symm.trans (whole "==" (.symbol .equal) bound rfl)

end PatternLexer
