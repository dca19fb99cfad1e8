import PatternLexer.Proofs.Lexer.Reading

set_option autoImplicit false

namespace PatternLexer

def LexError.later (n : Nat) : LexError → LexError
  | .unknownCharacter c p => .unknownCharacter c (p + n)
  | .unterminatedProperty f p => .unterminatedProperty f (p + n)
  | .unknownProperty name p => .unknownProperty name (p + n)
  | .patternTooLong length => .patternTooLong length

def later (n : Nat) : Except LexError Token → Except LexError Token := Except.mapError (LexError.later n)

@[simp] theorem later_ok (n : Nat) (k : Token) : later n (.ok k) = .ok k := rfl

@[simp] theorem later_error (n : Nat) (e : LexError) : later n (.error e) = .error (e.later n) := rfl

namespace Scan

open Tape

def preceded (xs : List Char) (s : Scan) : Scan := ⟨later xs.length s.result, s.tape.preceded xs, s.state⟩

def followed (s : Scan) (ys : List Char) : Scan := { s with tape := s.tape.followed ys }

theorem looked_later (t : Table) (name : String) (negated : Bool) (p n : Nat) :
    looked t name negated (p + n) = later n (looked t name negated p) := by
  unfold looked
  cases t.kindOf? name <;> rfl

theorem halts_later {t : Table} {span ahead : List Char} {found : Finding} {state : State}
    (halts : Halts t span ahead found state) (p n : Nat) : found (p + n) = later n (found p) := by
  cases halts with
  | letter => exact looked_later t _ _ p n
  | name => exact looked_later t _ _ p n
  | _ => rfl

theorem drains_later {t : Table} {text : List Char} {found : Finding} {state : State}
    (drains : Drains t text found state) (p n : Nat) : found (p + n) = later n (found p) := by
  cases drains with
  | nameless => exact looked_later t _ _ p n
  | _ => rfl

theorem halts_nonempty {t : Table} {span ahead : List Char} {found : Finding} {state : State}
    (halts : Halts t span ahead found state) : span ≠ [] := by
  cases halts <;> exact List.cons_ne_nil _ _

theorem halts_followed {t : Table} {span ahead : List Char} {found : Finding} {state : State}
    (halts : Halts t span ahead found state) (ys : List Char) : Halts t span (ahead ++ ys) found state := by
  cases halts with
  | plain _ kind => exact .plain _ kind
  | unknown _ kind other => exact .unknown _ kind other
  | pair _ kind => exact .pair _ kind
  | letter _ kind marker single => exact .letter _ kind marker single
  | name _ kind marker bare inner => exact .name _ kind marker bare inner
  | cluster _ kind => exact .cluster _ kind
  | shorthand _ kind selector bound => exact .shorthand _ kind selector bound
  | negated _ kind selector free bound => exact .negated _ kind selector free bound
  | escaped _ kind selector free positive => exact .escaped _ kind selector free positive

theorem cut_position_preceded (xs behind span ahead : List Char) (some : span ≠ []) :
    (cut (xs ++ behind ++ span) ahead).position = (cut (behind ++ span) ahead).position + xs.length := by
  have bound := List.length_pos_iff.mpr some
  simp only [cut, position, List.length_append]
  omega

theorem read_preceded (t : Table) {tape : Tape Char} {behind ahead : List Char}
    (stands : tape.Stands behind ahead) (xs : List Char) :
    read t (tape.preceded xs) = (read t tape).preceded xs := by
  rcases stands with rfl | ⟨rfl, rfl⟩
  · rw [cut_preceded]
    rcases read_cases t ahead with ⟨span, rest, found, state, rfl, halts⟩ | ⟨found, state, drains⟩
    · rw [read_halts halts, read_halts halts,
        cut_position_preceded xs behind span rest (halts_nonempty halts), halts_later halts]
      simp [preceded]
    · have moved : (xs ++ behind ++ ahead).length = (behind ++ ahead).length + xs.length := by
        simp only [List.length_append]
        omega
      rw [read_drains drains, read_drains drains, moved, drains_later drains]
      simp [preceded]
  · rw [spent_preceded, read_spent, read_spent]
    simp [preceded]

theorem read_followed (t : Table) (behind ahead ys : List Char)
    (inside : (read t (cut behind ahead)).tape.cursor < (behind ++ ahead).length) :
    read t (cut behind (ahead ++ ys)) = (read t (cut behind ahead)).followed ys := by
  rcases read_cases t ahead with ⟨span, rest, found, state, rfl, halts⟩ | ⟨found, state, drains⟩
  · rw [List.append_assoc, read_halts (halts_followed halts ys), read_halts halts, followed, cut_followed]
    rfl
  · rw [read_drains drains] at inside
    simp [spent] at inside

theorem read_stands (t : Table) {tape : Tape Char} {behind ahead : List Char}
    (stands : tape.Stands behind ahead) :
    ∃ span rest, ahead = span ++ rest ∧ (read t tape).tape.Stands (behind ++ span) rest := by
  rcases stands with rfl | ⟨rfl, rfl⟩
  · rcases read_cases t ahead with ⟨span, rest, found, state, rfl, halts⟩ | ⟨found, state, drains⟩
    · exact ⟨span, rest, rfl, .inl (by rw [read_halts halts])⟩
    · exact ⟨ahead, [], by simp, .inr ⟨rfl, by rw [read_drains drains]⟩⟩
  · exact ⟨[], [], rfl, .inr ⟨rfl, by simp [read_spent]⟩⟩

end Scan

end PatternLexer
