import PatternLexer.Proofs.Lexer.Coherence

set_option autoImplicit false

namespace PatternLexer

open Scan (Marker Bare hatted)

-- The text ends in a marked escape, whose backslash stands at `start` or after it, and in `inner`.
def Marked (start : Nat) (text inner : List Char) : Prop :=
  ∃ (front : List Char) (m : Char), start ≤ front.length ∧ Marker m ∧ text = front ++ '\\' :: m :: inner

def LexError.Located (t : Table) (text : List Char) (start : Nat) : LexError → Prop
  | .unknownCharacter c i => start ≤ i ∧ text[i]? = some c
  | .unterminatedProperty f i =>
      i = text.length ∧ '\x7d' ∉ f.toList ∧
        ∃ hat, Bare hat f.toList ∧ Marked start text ('\x7b' :: hatted hat f.toList)
  | .unknownProperty n i =>
      t.kindOf? n = none ∧
        ((text[i]? = some '\x7d' ∧ '\x7d' ∉ n.toList ∧
            ∃ hat, Bare hat n.toList ∧ Marked start (text.take i) ('\x7b' :: hatted hat n.toList)) ∨
          (∃ c, n = String.singleton c ∧ c ≠ '\x7b' ∧ text[i]? = some c ∧ Marked start (text.take i) []) ∨
          n = "" ∧ i = text.length ∧ Marked start text [])
  | .patternTooLong _ => False

def LexError.Placed (t : Table) (text : List Char) (start : Nat) (cursor : Int) (e : LexError) : Prop :=
  ∃ i : Nat, e.position? = some i ∧ cursor = i ∧ i ≤ text.length ∧ e.Located t text start

theorem marked_earlier {start start' : Nat} {text inner : List Char} (marked : Marked start text inner)
    (earlier : start' ≤ start) : Marked start' text inner := by
  obtain ⟨front, m, after, marker, ends⟩ := marked
  exact ⟨front, m, Nat.le_trans earlier after, marker, ends⟩

theorem located_earlier {t : Table} {text : List Char} {start start' : Nat} {e : LexError}
    (located : e.Located t text start) (earlier : start' ≤ start) : e.Located t text start' := by
  cases e with
  | unknownCharacter c i => exact ⟨Nat.le_trans earlier located.1, located.2⟩
  | unterminatedProperty f i =>
      obtain ⟨last, inner, hat, bare, marked⟩ := located
      exact ⟨last, inner, hat, bare, marked_earlier marked earlier⟩
  | unknownProperty n i =>
      obtain ⟨free, named⟩ := located
      refine ⟨free, ?_⟩
      rcases named with ⟨closed, inner, hat, bare, marked⟩ | ⟨c, single, other, found, marked⟩ | ⟨empty, last, marked⟩
      · exact .inl ⟨closed, inner, hat, bare, marked_earlier marked earlier⟩
      · exact .inr (.inl ⟨c, single, other, found, marked_earlier marked earlier⟩)
      · exact .inr (.inr ⟨empty, last, marked_earlier marked earlier⟩)
  | patternTooLong length => exact located

namespace Scan

open Tape

variable {t : Table}

theorem looked_missing {name : String} {negated : Bool} {p : Nat} {e : LexError}
    (failed : looked t name negated p = .error e) : t.kindOf? name = none ∧ e = .unknownProperty name p := by
  unfold looked at failed
  split at failed
  · cases failed
  · rename_i free
    exact ⟨free, (Except.error.inj failed).symm⟩

theorem halts_located {span ahead : List Char} {found : Finding} {state : State}
    (halts : Halts t span ahead found state) (behind : List Char) {e : LexError}
    (failed : found (cut (behind ++ span) ahead).position = .error e) :
    e.position? = some (cut (behind ++ span) ahead).position ∧
      e.Located t (behind ++ (span ++ ahead)) behind.length := by
  cases halts with
  | @unknown c _ kind other =>
      obtain rfl := Except.error.inj failed
      refine ⟨rfl, ?_⟩
      simp [LexError.Located]
  | @letter m c _ kind marker single =>
      obtain ⟨free, rfl⟩ := looked_missing failed
      have place : (cut (behind ++ ['\\', m, c]) ahead).position = (behind ++ ['\\', m]).length := by
        simpa using cut_position (behind ++ ['\\', m]) ahead c
      have text : behind ++ (['\\', m, c] ++ ahead) = (behind ++ ['\\', m]) ++ c :: ahead := by simp
      refine ⟨rfl, free, .inr (.inl ⟨c, rfl, single, ?_, behind, m, Nat.le_refl _, marker, ?_⟩)⟩
      · rw [place, text]
        simp
      · rw [place, text, List.take_left]
  | @name m hat name _ kind marker bare inner =>
      obtain ⟨free, rfl⟩ := looked_missing failed
      -- The last character that the scan has passed is the closing brace, and the error stands there.
      have span : behind ++ '\\' :: m :: '\x7b' :: hatted hat (name ++ ['\x7d']) =
          (behind ++ '\\' :: m :: '\x7b' :: hatted hat name) ++ ['\x7d'] := by
        simp [hatted_append]
      have place : (cut (behind ++ '\\' :: m :: '\x7b' :: hatted hat (name ++ ['\x7d'])) ahead).position =
          (behind ++ '\\' :: m :: '\x7b' :: hatted hat name).length := by
        rw [span, cut_position]
      have text : behind ++ ('\\' :: m :: '\x7b' :: hatted hat (name ++ ['\x7d']) ++ ahead) =
          (behind ++ '\\' :: m :: '\x7b' :: hatted hat name) ++ '\x7d' :: ahead := by
        rw [← List.append_assoc, span, List.append_assoc, List.singleton_append]
      rw [← String.toList_ofList (l := name)] at bare inner
      refine ⟨rfl, free, .inl ⟨?_, inner, hat, bare, behind, m, Nat.le_refl _, marker, ?_⟩⟩
      · rw [place, text]
        simp
      · rw [place, text, List.take_left, String.toList_ofList]
  | _ => cases failed

theorem drains_located {text : List Char} {found : Finding} {state : State}
    (drains : Drains t text found state) (behind : List Char) {e : LexError}
    (failed : found (behind ++ text).length = .error e) :
    e.position? = some (behind ++ text).length ∧ e.Located t (behind ++ text) behind.length := by
  cases drains with
  | @nameless m kind marker =>
      obtain ⟨free, rfl⟩ := looked_missing failed
      exact ⟨rfl, free, .inr (.inr ⟨rfl, rfl, behind, m, Nat.le_refl _, marker, rfl⟩)⟩
  | @unclosed m hat name kind marker bare inner =>
      obtain rfl := Except.error.inj failed
      rw [← String.toList_ofList (l := name)] at bare inner
      refine ⟨rfl, rfl, inner, hat, bare, behind, m, Nat.le_refl _, marker, ?_⟩
      rw [String.toList_ofList]
  | _ => cases failed

theorem read_placed {tape : Tape Char} {behind ahead : List Char} (stands : tape.Stands behind ahead)
    {e : LexError} (failed : (read t tape).result = .error e) :
    e.Placed t (behind ++ ahead) behind.length (read t tape).tape.cursor := by
  rcases stands with rfl | ⟨rfl, rfl⟩
  · rcases read_cases t ahead with ⟨span, rest, found, state, rfl, halts⟩ | ⟨found, state, drains⟩
    · rw [read_halts halts] at failed ⊢
      obtain ⟨shown, located⟩ := halts_located halts behind failed
      obtain ⟨cursor, inside⟩ := cut_cursor behind span rest (halts_nonempty halts)
      exact ⟨_, shown, cursor, inside, located⟩
    · rw [read_drains drains] at failed ⊢
      obtain ⟨shown, located⟩ := drains_located drains behind failed
      exact ⟨_, shown, rfl, Nat.le_refl _, located⟩
  · rw [read_spent] at failed
    cases failed

end Scan

namespace Lexer

structure Accountable (text : List Char) (start : Nat) (l : Lexer) : Prop where
  coherent : l.Coherent
  inside : ∃ behind ahead, text = behind ++ ahead ∧ start ≤ behind.length ∧ l.tape.Stands behind ahead
  placed : ∀ e, l.failure = some e → e.Placed l.table text start l.tape.cursor

variable {text : List Char} {start : Nat} {l : Lexer}

theorem call_failed (coherent : l.Coherent) {c : Call} {e : LexError} (failed : (l.call c).1 = some (.error e)) :
    (l.call c).2.1.failure = some e := by
  cases ended : l.state.isFinal with
  | true =>
      obtain ⟨r, settled⟩ := coherent_settled coherent ended
      obtain ⟨answer, still, -⟩ := settled_call settled c
      rw [answer] at failed
      split at failed
      · obtain rfl := Option.some.inj failed
        rcases still with ⟨-, -, ended⟩ | ⟨e', -, recorded, same⟩
        · cases ended
        · rw [recorded, Except.error.inj same]
      · cases failed
  | false =>
      have after : l.nextToken.result = .error e → l.nextToken.lexer.failure = some e := by
        intro came
        rw [next_token_error ended ((next_token_result ended).symm.trans came)]
        rfl
      cases c with
      | token => exact after (Option.some.inj failed)
      | item =>
          rw [call, lexer_next ended]
          exact after (result_of_next failed).2.1
      | prefer p => cases failed

theorem read_records (coherent : l.Coherent) (going : l.state.isFinal = false) {e : LexError}
    (recorded : l.nextToken.lexer.failure = some e) :
    (Scan.read l.table l.tape).result = .error e ∧ l.nextToken.lexer.tape = (Scan.read l.table l.tape).tape := by
  obtain ⟨-, unfailed⟩ := coherent_unfailed coherent going
  cases came : (Scan.read l.table l.tape).result with
  | error e' =>
      rw [next_token_error going came] at recorded ⊢
      exact ⟨congrArg _ (Option.some.inj recorded), rfl⟩
  | ok k =>
      by_cases more : k = .finish
      · subst more
        rw [next_token_finish going came] at recorded
        cases unfailed.symm.trans recorded
      · rw [next_token_ok going came more] at recorded
        cases unfailed.symm.trans recorded

theorem call_records (coherent : l.Coherent) (c : Call) {e : LexError}
    (recorded : (l.call c).2.1.failure = some e) :
    l.failure = some e ∧ (l.call c).2.1.tape = l.tape ∨
      (Scan.read l.table l.tape).result = .error e ∧ (l.call c).2.1.tape = (Scan.read l.table l.tape).tape := by
  cases ended : l.state.isFinal with
  | true =>
      obtain ⟨r, settled⟩ := coherent_settled coherent ended
      rw [settled_keeps settled c] at recorded ⊢
      exact .inl ⟨recorded, rfl⟩
  | false =>
      cases c with
      | token => exact .inr (read_records coherent ended recorded)
      | item =>
          rw [call, lexer_next ended] at recorded ⊢
          exact .inr (read_records coherent ended recorded)
      | prefer p => exact .inl ⟨recorded, rfl⟩

theorem accountable_call (accountable : l.Accountable text start) (c : Call) :
    (l.call c).2.1.Accountable text start := by
  obtain ⟨coherent, ⟨behind, ahead, whole, after, stands⟩, placed⟩ := accountable
  obtain ⟨span, rest, split, onward⟩ := after_stands stands [c]
  refine ⟨coherent_call coherent c, ⟨behind ++ span, rest, ?_, ?_, onward⟩, fun e recorded => ?_⟩
  · rw [whole, split, List.append_assoc]
  · rw [List.length_append]
    omega
  · rw [(call_keeps l c).1]
    rcases call_records coherent c recorded with ⟨before, same⟩ | ⟨failed, moved⟩
    · rw [same]
      exact placed e before
    · obtain ⟨i, shown, cursor, inside, located⟩ := Scan.read_placed stands failed
      rw [moved, whole]
      exact ⟨i, shown, cursor, inside, located_earlier located after⟩

theorem accountable_after (accountable : l.Accountable text start) (calls : List Call) :
    (l.after calls).Accountable text start := by
  induction calls generalizing l with
  | nil => exact accountable
  | cons c calls ih => exact ih (accountable_call accountable c)

theorem accountable_of_tape (t : Table) (preferences : LexingPreferences) {tape : Tape Char}
    (low : -1 ≤ tape.cursor) (high : tape.cursor ≤ tape.length) :
    (ofTape t preferences tape).Accountable tape.toList (tape.length - tape.remaining) := by
  refine ⟨coherent_of_tape t preferences tape, ⟨_, _, ?_, ?_, tape.stands_in_bounds low high⟩, nofun⟩
  · rw [Tape.rest, List.take_append_drop]
  · simp only [Tape.remaining, Tape.length, List.length_take, Tape.toList, Array.length_toList]
    omega

end Lexer

theorem call_error_located (t : Table) (preferences : LexingPreferences) {tape : Tape Char}
    (low : -1 ≤ tape.cursor) (high : tape.cursor ≤ tape.length) (calls : List Call) {c : Call} {e : LexError}
    (failed : (((Lexer.ofTape t preferences tape).after calls).call c).1 = some (.error e)) :
    ∃ i : Nat, e.position? = some i ∧
      (((Lexer.ofTape t preferences tape).after calls).call c).2.1.tape.cursor = i ∧ i ≤ tape.length ∧
      e.Located t tape.toList (tape.length - tape.remaining) := by
  have start := Lexer.accountable_of_tape t preferences low high
  have before := Lexer.accountable_after start calls
  have after := Lexer.accountable_call before c
  have placed := after.placed e (Lexer.call_failed before.coherent failed)
  have table : (((Lexer.ofTape t preferences tape).after calls).call c).2.1.table = t :=
    (Lexer.call_keeps _ c).1.trans (Lexer.after_table _ calls)
  rw [table] at placed
  simpa [LexError.Placed, Tape.toList, Tape.length] using placed

theorem call_error_located_hatted :
    let tape : Tape Char := ⟨#['€', '1', '\\', 'p', '\x7b', '^', 'Q', '\x7d'], 0⟩
    let e := LexError.unknownProperty "Q" 7
    tape.cursor ≥ -1 ∧ tape.cursor ≤ tape.length ∧
      (((Lexer.ofTape {} {} tape).after [.item]).call .token).1 = some (.error e) ∧
      (((Lexer.ofTape {} {} tape).after [.item]).call .token).2.1.tape.cursor = (7 : Nat) ∧
      e.Located {} tape.toList 1 := by
  intro tape e
  have low : -1 ≤ tape.cursor := by decide
  have high : tape.cursor ≤ tape.length := by decide
  have failed : (((Lexer.ofTape {} {} tape).after [.item]).call .token).1 = some (.error e) := by decide +kernel
  have passed : tape.length - tape.remaining = 1 := by decide
  obtain ⟨i, shown, cursor, -, located⟩ := call_error_located {} {} low high [.item] failed
  obtain rfl : 7 = i := Option.some.inj shown
  rw [passed] at located
  exact ⟨low, high, failed, cursor, located⟩

end PatternLexer
