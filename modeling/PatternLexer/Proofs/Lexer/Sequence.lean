import PatternLexer.Proofs.Lexer.Splice

set_option autoImplicit false

namespace PatternLexer

namespace Scan

open Tape

def sequence (t : Table) (tape : Tape Char) : List (Except LexError Token) :=
  match _came : (read t tape).result with
  | .error e => [.error e]
  | .ok k => if _more : k = .finish then [] else .ok k :: sequence t (read t tape).tape
termination_by tape.distance
decreasing_by exact distance_read_lt _came _more

def tapeAfter (t : Table) (tape : Tape Char) : Nat → Tape Char
  | 0 => tape
  | n + 1 => tapeAfter t (read t tape).tape n

variable {t : Table} {tape : Tape Char}

theorem sequence_error {e : LexError} (came : (read t tape).result = .error e) :
    sequence t tape = [.error e] := by
  rw [sequence]
  split
  · rename_i e' came'
    rw [came] at came'
    rw [Except.error.inj came']
  · rename_i k came'
    rw [came] at came'
    cases came'

theorem sequence_finish (came : (read t tape).result = .ok .finish) : sequence t tape = [] := by
  rw [sequence]
  split
  · rename_i e came'
    rw [came] at came'
    cases came'
  · rename_i k came'
    rw [came] at came'
    rw [dif_pos (Except.ok.inj came').symm]

theorem sequence_token {k : Token} (came : (read t tape).result = .ok k) (more : k ≠ .finish) :
    sequence t tape = .ok k :: sequence t (read t tape).tape := by
  rw [sequence]
  split
  · rename_i e came'
    rw [came] at came'
    cases came'
  · rename_i k' came'
    rw [came] at came'
    obtain rfl := Except.ok.inj came'
    rw [dif_neg more]

theorem sequence_shape (t : Table) (tape : Tape Char) :
    ∃ ts : List Token,
      sequence t tape = ts.map .ok ∨ ∃ e, sequence t tape = ts.map .ok ++ [.error e] := by
  induction tape using sequence.induct t with
  | case1 tape e came => exact ⟨[], .inr ⟨e, sequence_error came⟩⟩
  | case2 tape came => exact ⟨[], .inl (sequence_finish came)⟩
  | case3 tape k came more ih =>
      obtain ⟨ts, shape⟩ := ih
      refine ⟨k :: ts, ?_⟩
      rw [sequence_token came more]
      rcases shape with shape | ⟨e, shape⟩
      · exact .inl (by rw [shape, List.map_cons])
      · exact .inr ⟨e, by rw [shape, List.map_cons, List.cons_append]⟩

theorem sequence_unfinished (t : Table) (tape : Tape Char) : .ok .finish ∉ sequence t tape := by
  induction tape using sequence.induct t with
  | case1 tape e came => simp [sequence_error came]
  | case2 tape came => simp [sequence_finish came]
  | case3 tape k came more ih => simp [sequence_token came more, ih, Ne.symm more]

theorem sequence_cases (t : Table) (tape : Tape Char) :
    (∃ e, (read t tape).result = .error e ∧ sequence t tape = [.error e]) ∨
      ((read t tape).result = .ok .finish ∧ sequence t tape = []) ∨
      ∃ k, (read t tape).result = .ok k ∧ k ≠ .finish ∧
        sequence t tape = .ok k :: sequence t (read t tape).tape := by
  cases came : (read t tape).result with
  | error e => exact .inl ⟨e, rfl, sequence_error came⟩
  | ok k =>
      by_cases more : k = .finish
      · subst more
        exact .inr (.inl ⟨rfl, sequence_finish came⟩)
      · exact .inr (.inr ⟨k, rfl, more, sequence_token came more⟩)

theorem sequence_nil (none : sequence t tape = []) : (read t tape).result = .ok .finish := by
  rcases sequence_cases t tape with ⟨e, -, items⟩ | ⟨came, -⟩ | ⟨k, -, -, items⟩
  · cases none.symm.trans items
  · exact came
  · cases none.symm.trans items

theorem sequence_cons {k : Token} {items : List (Except LexError Token)}
    (some : sequence t tape = .ok k :: items) :
    (read t tape).result = .ok k ∧ k ≠ .finish ∧ sequence t (read t tape).tape = items := by
  rcases sequence_cases t tape with ⟨e, -, items'⟩ | ⟨-, items'⟩ | ⟨k', came, more, items'⟩
  · cases some.symm.trans items'
  · cases some.symm.trans items'
  · have same := some.symm.trans items'
    rw [List.cons.injEq, Except.ok.injEq] at same
    obtain ⟨rfl, rest⟩ := same
    exact ⟨came, more, rest.symm⟩

theorem sequence_failed {e : LexError} {items : List (Except LexError Token)}
    (some : sequence t tape = .error e :: items) : (read t tape).result = .error e := by
  rcases sequence_cases t tape with ⟨e', came, items'⟩ | ⟨-, items'⟩ | ⟨k, -, -, items'⟩
  · have same := some.symm.trans items'
    rw [List.cons.injEq, Except.error.injEq] at same
    rw [came, same.1]
  · cases some.symm.trans items'
  · cases some.symm.trans items'

theorem sequence_preceded {behind ahead : List Char} (stands : tape.Stands behind ahead)
    (xs : List Char) : sequence t (tape.preceded xs) = (sequence t tape).map (later xs.length) := by
  induction tape using sequence.induct t generalizing behind ahead with
  | case1 tape e came =>
      have moved : (read t (tape.preceded xs)).result = .error (e.later xs.length) := by
        rw [read_preceded t stands, preceded, came]
        rfl
      rw [sequence_error came, sequence_error moved]
      rfl
  | case2 tape came =>
      have moved : (read t (tape.preceded xs)).result = .ok .finish := by
        rw [read_preceded t stands, preceded, came]
        rfl
      rw [sequence_finish came, sequence_finish moved]
      rfl
  | case3 tape k came more ih =>
      have moved : (read t (tape.preceded xs)).result = .ok k := by
        rw [read_preceded t stands, preceded, came]
        rfl
      obtain ⟨span, rest, -, onward⟩ := read_stands t stands
      rw [sequence_token came more, sequence_token moved more, read_preceded t stands, preceded, ih onward]
      rfl

theorem halts_more {span ahead : List Char} {found : Finding} {state : State}
    (halts : Halts t span ahead found state) (p : Nat) : found p ≠ .ok .finish := by
  cases halts with
  | letter => unfold looked; split <;> simp
  | name => unfold looked; split <;> simp
  | _ => simp

theorem read_finish (behind ahead : List Char) (came : (read t (cut behind ahead)).result = .ok .finish) :
    ahead = [] := by
  rcases read_cases t ahead with ⟨span, rest, found, state, rfl, halts⟩ | ⟨found, state, drains⟩
  · rw [read_halts halts] at came
    exact absurd came (halts_more halts _)
  · rw [read_drains drains] at came
    cases drains with
    | finish => rfl
    | lone => cases came
    | nameless =>
        simp only [looked] at came
        split at came <;> cases came
    | unclosed => cases came

theorem sequence_spent (t : Table) (behind : List Char) : sequence t (spent behind) = [] :=
  sequence_finish (by rw [read_spent])

theorem sequence_token_followed {behind span rest : List Char} {k : Token}
    (came : (read t (cut behind (span ++ rest))).result = .ok k) (more : k ≠ .finish)
    (onward : (read t (cut behind (span ++ rest))).tape = cut (behind ++ span) rest) (ys : List Char) :
    sequence t (cut behind (span ++ rest ++ ys)) = .ok k :: sequence t (cut (behind ++ span) (rest ++ ys)) := by
  have short : (read t (cut behind (span ++ rest))).tape.cursor < (behind ++ (span ++ rest)).length := by
    rw [onward]
    simp only [cut, List.length_append]
    omega
  have grown := read_followed t behind (span ++ rest) ys short
  have came' : (read t (cut behind (span ++ rest ++ ys))).result = .ok k := by
    rw [grown, followed, came]
  rw [sequence_token came' more, grown, followed, onward, cut_followed]

theorem sequence_followed (behind ahead ys : List Char) (ts : List Token)
    (tokens : sequence t (cut behind ahead) = ts.map .ok)
    (inside : (tapeAfter t (cut behind ahead) ts.length).cursor ≠ (behind ++ ahead).length) :
    sequence t (cut behind (ahead ++ ys)) = ts.map .ok ++ sequence t (cut (behind ++ ahead) ys) := by
  induction ts generalizing behind ahead with
  | nil =>
      rw [read_finish behind ahead (sequence_nil tokens)]
      simp
  | cons k ts ih =>
      obtain ⟨came, more, tokens⟩ := sequence_cons tokens
      obtain ⟨span, rest, rfl, onward⟩ := read_stands t (.inl rfl : (cut behind ahead).Stands behind ahead)
      rcases onward with onward | ⟨rfl, onward⟩
      · rw [onward] at tokens
        rw [List.length_cons, tapeAfter, onward] at inside
        rw [sequence_token_followed came more onward,
          ih (behind ++ span) rest tokens (by simpa using inside)]
        simp
      · -- The token has drained the text and gone to its end, where the cursor may not be.
        rw [onward, sequence_spent] at tokens
        have last : ts = [] := by simpa using tokens.symm
        rw [last, List.length_singleton, tapeAfter, tapeAfter, onward] at inside
        simp [spent] at inside

end Scan

-- The first error, or else all tokens and the closing one.
def close : List (Except LexError Token) → Except LexError (List Token)
  | [] => .ok [.finish]
  | .error e :: _ => .error e
  | .ok k :: items => (close items).map (k :: ·)

theorem close_tokens (ts : List Token) (items : List (Except LexError Token)) :
    close (ts.map .ok ++ items) = (close items).map (ts ++ ·) := by
  induction ts with
  | nil =>
      rw [List.map_nil, List.nil_append]
      cases close items <;> rfl
  | cons k ts ih =>
      rw [List.map_cons, List.cons_append, close, ih]
      cases close items <;> rfl

theorem close_ok_iff (items : List (Except LexError Token)) (ks : List Token) :
    close items = .ok ks ↔ ∃ ts, items = ts.map .ok ∧ ks = ts ++ [.finish] := by
  constructor
  · intro closed
    induction items generalizing ks with
    | nil => exact ⟨[], rfl, (Except.ok.inj closed).symm⟩
    | cons item items ih =>
        cases item with
        | error e => cases closed
        | ok k =>
            rw [close] at closed
            cases rest : close items with
            | error e => rw [rest] at closed; cases closed
            | ok ks' =>
                obtain ⟨ts, rfl, rfl⟩ := ih ks' rest
                rw [rest] at closed
                exact ⟨k :: ts, rfl, (Except.ok.inj closed).symm⟩
  · rintro ⟨ts, rfl, rfl⟩
    simpa [close, Except.map] using close_tokens ts []

theorem close_sequence_error_iff (t : Table) (tape : Tape Char) (e : LexError) :
    close (Scan.sequence t tape) = .error e ↔ ∃ ts : List Token, Scan.sequence t tape = ts.map .ok ++ [.error e] := by
  constructor
  · intro closed
    obtain ⟨ts, shape | ⟨e', shape⟩⟩ := Scan.sequence_shape t tape
    · rw [(close_ok_iff _ _).mpr ⟨ts, shape, rfl⟩] at closed
      cases closed
    · rw [shape, close_tokens] at closed
      obtain rfl : e' = e := Except.error.inj closed
      exact ⟨ts, shape⟩
  · rintro ⟨ts, shape⟩
    rw [shape, close_tokens]
    rfl

end PatternLexer
