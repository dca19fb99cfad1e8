import PatternLexer.Proofs.Lexer.Errors

set_option autoImplicit false

namespace PatternLexer

open Tape

variable {t : Table}

theorem located_end_iff {text : List Char} {start i : Nat} {e : LexError} (located : e.Located t text start)
    (shown : e.position? = some i) :
    i = text.length ↔ (∃ f j, e = .unterminatedProperty f j) ∨
      e = .unknownProperty "" text.length ∧ Marked start text [] := by
  cases e with
  | unknownCharacter c j =>
      obtain rfl := Option.some.inj shown
      obtain ⟨inside, -⟩ := List.getElem?_eq_some_iff.mp located.2
      simp only [reduceCtorEq, exists_false, false_and, or_self, iff_false]
      omega
  | unterminatedProperty f j =>
      obtain rfl := Option.some.inj shown
      exact ⟨fun _ => .inl ⟨f, _, rfl⟩, fun _ => located.1⟩
  | unknownProperty n j =>
      obtain rfl := Option.some.inj shown
      have unended {c : Char} (found : text[j]? = some c) : j ≠ text.length := by
        obtain ⟨inside, -⟩ := List.getElem?_eq_some_iff.mp found
        omega
      constructor
      · intro last
        rcases located.2 with ⟨closed, -⟩ | ⟨c, -, -, found, -⟩ | ⟨rfl, -, marked⟩
        · exact absurd last (unended closed)
        · exact absurd last (unended found)
        · exact .inr ⟨by rw [last], marked⟩
      · rintro (⟨f, k, other⟩ | ⟨same, -⟩)
        · cases other
        · exact (LexError.unknownProperty.inj same).2
  | patternTooLong length => cases shown

namespace Scan

theorem sequence_failed_placed {tape : Tape Char} {behind ahead : List Char} (stands : tape.Stands behind ahead)
    (ts : List Token) {e : LexError} (failed : sequence t tape = ts.map .ok ++ [.error e]) :
    ∃ i : Nat, e.position? = some i ∧ i ≤ (behind ++ ahead).length ∧
      e.Located t (behind ++ ahead) behind.length := by
  induction ts generalizing tape behind ahead with
  | nil =>
      obtain ⟨i, shown, -, inside, located⟩ := read_placed stands (sequence_failed failed)
      exact ⟨i, shown, inside, located⟩
  | cons k ts ih =>
      obtain ⟨-, -, rest⟩ := sequence_cons failed
      obtain ⟨span, ahead, rfl, onward⟩ := read_stands t stands
      obtain ⟨i, shown, inside, located⟩ := ih onward rest
      rw [List.append_assoc] at inside located
      have before : behind.length ≤ (behind ++ span).length := by simp
      exact ⟨i, shown, inside, located_earlier located before⟩

theorem sequence_failed_followed (behind ahead ys : List Char) (ts : List Token) {e : LexError} {i : Nat}
    (failed : sequence t (cut behind ahead) = ts.map .ok ++ [.error e]) (shown : e.position? = some i)
    (inside : i < (behind ++ ahead).length) :
    sequence t (cut behind (ahead ++ ys)) = ts.map .ok ++ [.error e] := by
  induction ts generalizing behind ahead with
  | nil =>
      have came := sequence_failed failed
      obtain ⟨i', shown', cursor, -, -⟩ := read_placed (.inl rfl) came
      obtain rfl : i = i' := Option.some.inj (shown.symm.trans shown')
      have short : (read t (cut behind ahead)).tape.cursor < (behind ++ ahead).length := by omega
      have grown := read_followed t behind ahead ys short
      exact sequence_error (by rw [grown, followed, came])
  | cons k ts ih =>
      obtain ⟨came, more, rest⟩ := sequence_cons failed
      obtain ⟨span, ahead, rfl, onward⟩ := read_stands t (.inl rfl : (cut behind ahead).Stands behind ahead)
      rcases onward with onward | ⟨rfl, onward⟩
      · rw [onward] at rest
        rw [← List.append_assoc] at inside
        rw [sequence_token_followed came more onward, ih (behind ++ span) ahead rest inside]
        rfl
      · -- A token that drains the text leaves no place for the error.
        rw [onward, sequence_spent] at rest
        simp at rest

end Scan

-- The errors that more text can mend stand at the end: a property whose name is not there yet or not closed yet.
theorem failure_final (t : Table) (preferences : LexingPreferences) {p : String} {e : LexError}
    (short : p.length ≤ patternLimit) (failed : (tokenize t preferences p).1 = .error e) :
    ∃ i ≤ p.length, e.position? = some i ∧
      (i < p.length → ∀ q : String, p.length + q.length ≤ patternLimit →
        (tokenize t preferences (p ++ q)).1 = .error e) ∧
      (i = p.length ↔ (∃ f j, e = .unterminatedProperty f j) ∨
        e = .unknownProperty "" p.length ∧ Marked 0 p.toList []) := by
  rcases (tokenize_error_iff _ _ _ _).mp failed with ⟨long, -⟩ | ⟨-, ts, items⟩
  · omega
  · have fresh : (Tape.ofList p.toList).Stands [] p.toList := .inl rfl
    obtain ⟨i, shown, inside, located⟩ := Scan.sequence_failed_placed fresh ts items
    rw [List.nil_append] at inside located
    have end' := located_end_iff located shown
    rw [String.length_toList] at inside end'
    refine ⟨i, inside, shown, fun before q both => ?_, end'⟩
    have within : i < ([] ++ p.toList).length := by rwa [List.nil_append, String.length_toList]
    refine (tokenize_error_iff _ _ _ _).mpr (.inr ⟨by rwa [String.length_append], ts, ?_⟩)
    rw [String.toList_append]
    exact Scan.sequence_failed_followed [] p.toList q.toList ts items shown within

theorem failure_final_unknown :
    let p := "1\\p\x7bQ\x7d\\P"
    let e := LexError.unknownProperty "Q" 5
    p.length ≤ patternLimit ∧ (tokenize {} {} p).1 = .error e ∧
      (tokenize {} {} (p ++ "\x7bL\x7d")).1 = .error e ∧ (tokenize {} {} (p ++ "€")).1 = .error e := by
  intro p e
  have short : p.length ≤ patternLimit := by decide
  have failed : (tokenize {} {} p).1 = .error e := by decide +kernel
  obtain ⟨i, -, shown, final, -⟩ := failure_final {} {} short failed
  obtain rfl : 5 = i := Option.some.inj shown
  exact ⟨short, failed, final (by decide) _ (by decide), final (by decide) _ (by decide)⟩

end PatternLexer
