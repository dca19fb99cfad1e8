import Mathlib.Data.List.Infix
import PatternLexer.Proofs.Session.Trace
import PatternLexer.Proofs.Table.Lawful

set_option autoImplicit false

namespace PatternLexer

namespace Table

structure CharactersAlike (t u : Table) (text : List Char) : Prop where
  characters : ∀ c ∈ text, t.kindOfChar? c = u.kindOfChar? c
  small : ∀ c ∈ text, t.kindOfChar? c.toLower = u.kindOfChar? c.toLower
  empty : t.kindOf? "" = u.kindOf? ""

structure AgreeOn (t u : Table) (text : List Char) : Prop where
  parts : ∀ part, part <:+: text → t.kindOf? (String.ofList part) = u.kindOf? (String.ofList part)
  small : ∀ c ∈ text, t.kindOfChar? c.toLower = u.kindOfChar? c.toLower

variable {t u : Table} {text : List Char}

theorem agree_characters (agree : t.AgreeOn u text) : t.CharactersAlike u text := by
  refine ⟨fun c inside => ?_, agree.small, agree.parts [] (List.nil_infix)⟩
  obtain ⟨front, back, rfl⟩ := List.append_of_mem inside
  exact agree.parts [c] ⟨front, back, by simp⟩

theorem agree_insert (t : Table) {b : Binding} (absent : ¬ b.lexeme.toList <:+: text)
    (other : ∀ c ∈ text, b.lexeme ≠ String.singleton c.toLower) : t.AgreeOn (t.insert b) text := by
  refine ⟨fun part inside => ?_, fun c member => ?_⟩
  · have apart : b.lexeme ≠ String.ofList part := by
      intro same
      rw [same, String.toList_ofList] at absent
      exact absent inside
    rw [kind_of_insert, if_neg apart]
  · rw [kindOfChar?, kindOfChar?, kind_of_insert, if_neg (other c member)]

theorem characters_alike_part {part : List Char} (alike : t.CharactersAlike u text) (inside : part ⊆ text) :
    t.CharactersAlike u part :=
  ⟨fun c member => alike.characters c (inside member), fun c member => alike.small c (inside member), alike.empty⟩

end Table

namespace Scan

open Tape

variable {t u : Table} {text : List Char}

theorem plain_kind_alike {c : Char} (same : t.kindOfChar? c = u.kindOfChar? c) : plainKind? u c = plainKind? t c := by
  rw [plainKind?, plainKind?, same]

theorem shorthand_kind_alike {c : Char} (same : t.kindOfChar? c = u.kindOfChar? c) :
    shorthandKind? u c = shorthandKind? t c := by
  rw [shorthandKind?, shorthandKind?, same]

theorem negated_kind_alike {c : Char} (same : t.kindOfChar? c.toLower = u.kindOfChar? c.toLower) :
    negatedKind? u c = negatedKind? t c := by
  rw [negatedKind?, negatedKind?, shorthand_kind_alike same]

theorem looked_alike {name : String} (same : t.kindOf? name = u.kindOf? name) (negated : Bool) :
    looked u name negated = looked t name negated := by
  funext p
  rw [looked, looked, same]

theorem halts_alike {span ahead : List Char} {found : Finding} {state : State}
    (alike : t.CharactersAlike u (span ++ ahead)) (halts : Halts t span ahead found state) :
    Halts u span ahead found state ∨
      ∃ name negated, name <:+: span ∧ found = looked t (String.ofList name) negated ∧
        Halts u span ahead (looked u (String.ofList name) negated) state := by
  obtain ⟨characters, small, -⟩ := alike
  have plain {c : Char} {kind : Option Kind} (member : c ∈ span ++ ahead) (known : plainKind? t c = kind) :
      plainKind? u c = kind := (plain_kind_alike (characters c member)).trans known
  cases halts with
  | plain _ kind => exact .inl (.plain _ (plain (by simp) kind))
  | unknown _ kind other => exact .inl (.unknown _ (plain (by simp) kind) other)
  | pair _ kind => exact .inl (.pair _ (plain (by simp) kind))
  | @letter m c _ kind marker single =>
      rw [← looked_alike (characters c (by simp))]
      exact .inl (.letter _ (plain (by simp) kind) marker single)
  | @name m hat name _ kind marker bare inner =>
      refine .inr ⟨name, _, ?_, rfl, .name _ (plain (by simp) kind) marker bare inner⟩
      exact ⟨'\\' :: m :: '\x7b' :: hatted hat [], ['\x7d'], by simp [hatted_append]⟩
  | cluster _ kind => exact .inl (.cluster _ (plain (by simp) kind))
  | @shorthand c _ _ kind selector bound =>
      rw [← shorthand_kind_alike (characters c (by simp))] at bound
      exact .inl (.shorthand _ (plain (by simp) kind) selector bound)
  | @negated c _ _ kind selector free bound =>
      rw [← shorthand_kind_alike (characters c (by simp))] at free
      rw [← negated_kind_alike (small c (by simp))] at bound
      exact .inl (.negated _ (plain (by simp) kind) selector free bound)
  | @escaped c _ kind selector free positive =>
      rw [← shorthand_kind_alike (characters c (by simp))] at free
      rw [← negated_kind_alike (small c (by simp))] at positive
      exact .inl (.escaped _ (plain (by simp) kind) selector free positive)

theorem drains_alike {found : Finding} {state : State} (alike : t.CharactersAlike u text)
    (drains : Drains t text found state) : Drains u text found state := by
  obtain ⟨characters, -, empty⟩ := alike
  have plain {kind : Option Kind} (member : '\\' ∈ text) (known : plainKind? t '\\' = kind) :
      plainKind? u '\\' = kind := (plain_kind_alike (characters '\\' member)).trans known
  cases drains with
  | finish => exact .finish
  | lone kind => exact .lone (plain (by simp) kind)
  | nameless kind marker =>
      rw [← looked_alike empty]
      exact .nameless (plain (by simp) kind) marker
  | unclosed kind marker bare inner => exact .unclosed (plain (by simp) kind) marker bare inner

theorem read_alike {tape : Tape Char} {behind ahead : List Char} (alike : t.CharactersAlike u ahead)
    (stands : tape.Stands behind ahead) :
    read u tape = read t tape ∨
      ∃ name negated p, name <:+: ahead ∧ t.kindOf? (String.ofList name) ≠ u.kindOf? (String.ofList name) ∧
        (read t tape).result = looked t (String.ofList name) negated p := by
  rcases stands with rfl | ⟨rfl, rfl⟩
  · rcases read_cases t ahead with ⟨span, rest, found, state, rfl, halts⟩ | ⟨found, state, drains⟩
    · rcases halts_alike alike halts with same | ⟨name, negated, inside, rfl, other⟩
      · exact .inl (by rw [read_halts same, read_halts halts])
      · by_cases agree : t.kindOf? (String.ofList name) = u.kindOf? (String.ofList name)
        · rw [looked_alike agree] at other
          exact .inl (by rw [read_halts other, read_halts halts])
        · refine .inr ⟨name, negated, (cut (behind ++ span) rest).position, ?_, agree, ?_⟩
          · exact inside.trans (List.infix_append' [] span rest)
          · rw [read_halts halts]
    · exact .inl (by rw [read_drains (drains_alike alike drains), read_drains drains])
  · exact .inl (by rw [read_spent, read_spent])

def Missed (t u : Table) (text : List Char) (e : LexError) : Prop :=
  ∃ name p, e = .unknownProperty (String.ofList name) p ∧ name <:+: text ∧
    t.kindOf? (String.ofList name) ≠ u.kindOf? (String.ofList name)

def Lacks (t u : Table) (text : List Char) : Prop :=
  ∀ name, name <:+: text → t.kindOf? (String.ofList name) ≠ u.kindOf? (String.ofList name) →
    t.kindOf? (String.ofList name) = none

theorem read_alike_unless_missed {tape : Tape Char} {behind ahead : List Char} (alike : t.CharactersAlike u text)
    (lacks : Lacks t u text) (inside : ahead <:+ text) (stands : tape.Stands behind ahead) :
    read u tape = read t tape ∨ ∃ e, Missed t u text e ∧ (read t tape).result = .error e := by
  rcases read_alike (Table.characters_alike_part alike inside.subset) stands with
    same | ⟨name, negated, p, part, differ, found⟩
  · exact .inl same
  · have within := part.trans inside.isInfix
    refine .inr ⟨.unknownProperty (String.ofList name) p, ⟨name, p, rfl, within, differ⟩, ?_⟩
    rw [found, looked, lacks name within differ]

-- From the tape on, both tables are read alike to the end of its tokens.
inductive Alike (t u : Table) : Tape Char → Prop where
  | intro {tape : Tape Char} (same : read u tape = read t tape)
      (onward : ∀ k, (read t tape).result = .ok k → k ≠ .finish → Alike t u (read t tape).tape) : Alike t u tape

theorem alike_sequence {tape : Tape Char} (alike : Alike t u tape) : sequence u tape = sequence t tape := by
  induction alike with
  | @intro tape same onward ih =>
      rcases sequence_cases t tape with ⟨e, came, items⟩ | ⟨came, items⟩ | ⟨k, came, more, items⟩
      · rw [items, sequence_error (same ▸ came)]
      · rw [items, sequence_finish (same ▸ came)]
      · rw [items, sequence_token (same ▸ came) more, same, ih k came more]

theorem alike_unless_missed {tape : Tape Char} {behind ahead : List Char} (alike : t.CharactersAlike u text)
    (lacks : Lacks t u text) (inside : ahead <:+ text) (stands : tape.Stands behind ahead) :
    Alike t u tape ∨ ∃ (ts : List Token) (e : LexError), Missed t u text e ∧
      sequence t tape = ts.map .ok ++ [.error e] := by
  -- Reading goes on only behind a token, so the induction is on the reads of `t`, and `u` is compared at each of them.
  induction tape using sequence.induct t generalizing behind ahead with
  | case1 tape e came =>
      rcases read_alike_unless_missed alike lacks inside stands with same | ⟨e', missed, came'⟩
      · refine .inl (.intro same fun k other => ?_)
        cases came.symm.trans other
      · exact .inr ⟨[], e', missed, sequence_error came'⟩
  | case2 tape came =>
      rcases read_alike_unless_missed alike lacks inside stands with same | ⟨e', -, came'⟩
      · refine .inl (.intro same fun k other more => ?_)
        exact absurd (Except.ok.inj (other.symm.trans came)) more
      · cases came.symm.trans came'
  | case3 tape k came more ih =>
      rcases read_alike_unless_missed alike lacks inside stands with same | ⟨e', -, came'⟩
      · obtain ⟨span, rest, rfl, onward⟩ := read_stands t stands
        rcases ih ((List.suffix_append span rest).trans inside) onward with further | ⟨ts, e, missed, items⟩
        · exact .inl (.intro same fun _ _ _ => further)
        · refine .inr ⟨k :: ts, e, missed, ?_⟩
          rw [sequence_token came more, items, List.map_cons, List.cons_append]
      · cases came.symm.trans came'

theorem text_alike_unless_missed (alike : t.CharactersAlike u text) (lacks : Lacks t u text) :
    Alike t u (.ofList text) ∨ ∃ (ts : List Token) (e : LexError), Missed t u text e ∧
      sequence t (.ofList text) = ts.map .ok ++ [.error e] := by
  have fresh : (Tape.ofList text).Stands [] text := .inl rfl
  exact alike_unless_missed alike lacks List.suffix_rfl fresh

end Scan

namespace Lexer

def rebound (l : Lexer) (u : Table) : Lexer := { l with table := u }

inductive ReadsAlike (u : Table) (l : Lexer) : Prop where
  | settled {r : Except LexError Token} (settled : l.Settled r) : ReadsAlike u l
  | going (open' : l.Open) (alike : Scan.Alike l.table u l.tape) : ReadsAlike u l

variable {l : Lexer} {u : Table}

theorem rebound_settle (l : Lexer) (u : Table) (r : Except LexError Token) :
    (l.rebound u).settle r = { l.settle r with lexer := (l.settle r).lexer.rebound u } := by
  unfold settle
  split <;> rfl

theorem rebound_token (alike : l.ReadsAlike u) :
    (l.rebound u).nextToken = { l.nextToken with lexer := l.nextToken.lexer.rebound u } := by
  cases alike with
  | @settled r settled =>
      have settled' : (l.rebound u).Settled r := settled
      rw [settled_token settled', settled_token settled]
  | going open' alike =>
      obtain ⟨same, -⟩ := alike
      have going' : (l.rebound u).state.isFinal = false := open'.going
      rw [nextToken_eq_read going', nextToken_eq_read open'.going]
      change ((l.rebound u).moveTo (Scan.read u l.tape)).settle (Scan.read u l.tape).result = _
      rw [same]
      exact rebound_settle (l.moveTo (Scan.read l.table l.tape)) u _

theorem rebound_call (alike : l.ReadsAlike u) (c : Call) :
    (l.rebound u).call c = ((l.call c).1, (l.call c).2.1.rebound u, (l.call c).2.2) := by
  cases c with
  | token => rw [call, rebound_token alike, call]
  | item =>
      have final : (l.rebound u).state.isFinal = l.state.isFinal := rfl
      rw [call, call, next, next, rebound_token alike, final]
      split
      · rfl
      · dsimp only
        split <;> rfl
  | prefer p => rfl

theorem alike_call (alike : l.ReadsAlike u) (c : Call) : (l.call c).2.1.ReadsAlike u := by
  cases alike with
  | settled settled => exact .settled (settled_call settled c).2.1
  | going open' alike =>
      cases reads : c.reads with
      | true =>
          rcases open_step open' reads with ⟨settled, -⟩ | ⟨k, still, -, head⟩
          · exact .settled settled
          · obtain ⟨came, more, -⟩ := Scan.sequence_cons head
            obtain ⟨-, -, -, table, tape⟩ := token_cons open' head
            obtain ⟨-, onward⟩ := alike
            refine .going still ?_
            rw [(open_call open' reads).2, table, tape]
            exact onward k came more
      | false =>
          cases c with
          | prefer p => exact .going (open_prefer open' reads).1 alike
          | _ => cases reads

theorem rebound_calls (alike : l.ReadsAlike u) (calls : List Call) :
    (l.rebound u).answers calls = l.answers calls ∧ (l.rebound u).after calls = (l.after calls).rebound u ∧
      (l.rebound u).logged calls = l.logged calls := by
  induction calls generalizing l with
  | nil => exact ⟨rfl, rfl, rfl⟩
  | cons c calls ih =>
      obtain ⟨answers', after', logged'⟩ := ih (alike_call alike c)
      have first := rebound_call alike c
      refine ⟨?_, ?_, ?_⟩
      · rw [answers, first, answers, answers']
      · change ((l.rebound u).call c).2.1.after calls = ((l.call c).2.1.after calls).rebound u
        rw [first, after']
      · rw [logged, first, logged, logged']

end Lexer

theorem tokenize_too_long {pattern : String} (long : patternLimit < pattern.length) (t u : Table)
    (p : LexingPreferences) : tokenize u p pattern = tokenize t p pattern := by
  rw [tokenize, tokenize, Lexer.create, Lexer.create, if_pos long, if_pos long]

theorem tokenize_of_sequence {t u : Table} {pattern : String} (p : LexingPreferences)
    (same : Scan.sequence u (.ofList pattern.toList) = Scan.sequence t (.ofList pattern.toList)) :
    tokenize u p pattern = tokenize t p pattern := by
  by_cases long : patternLimit < pattern.length
  · exact tokenize_too_long long t u p
  · have short := Nat.le_of_not_lt long
    obtain ⟨ts, tokens | ⟨e, failed⟩⟩ := Scan.sequence_shape t (.ofList pattern.toList)
    · rw [tokenize_completes p short tokens, tokenize_completes p short (same.trans tokens)]
    · obtain ⟨i, shown, fails⟩ := tokenize_fails p short failed
      obtain ⟨j, shown', fails'⟩ := tokenize_fails p short (same.trans failed)
      obtain rfl := Option.some.inj (shown.symm.trans shown')
      rw [fails, fails']

-- Lexers cannot be told apart whose tables agree on the parts of the pattern and on the small letters in it.
theorem reading_local {t u : Table} (p : LexingPreferences) {pattern : String}
    (agree : t.AgreeOn u pattern.toList) :
    tokenize u p pattern = tokenize t p pattern ∧
      Lexer.create u p pattern = (Lexer.create t p pattern).map (·.rebound u) ∧
      ∀ l, Lexer.create t p pattern = .ok l → ∀ calls : List Call,
        (l.rebound u).answers calls = l.answers calls ∧
        (l.rebound u).after calls = (l.after calls).rebound u ∧
        (l.rebound u).logged calls = l.logged calls := by
  have alike : Scan.Alike t u (.ofList pattern.toList) := by
    have lacks : Scan.Lacks t u pattern.toList := fun name part differ => absurd (agree.parts name part) differ
    rcases Scan.text_alike_unless_missed (Table.agree_characters agree) lacks with
      alike | ⟨-, e, ⟨name, -, -, part, differ⟩, -⟩
    · exact alike
    · exact absurd (agree.parts name part) differ
  refine ⟨tokenize_of_sequence p (Scan.alike_sequence alike), ?_, fun l created calls => ?_⟩
  · unfold Lexer.create
    split <;> rfl
  · obtain ⟨-, rfl⟩ := (Lexer.create_ok_iff t p pattern l).mp created
    exact Lexer.rebound_calls (.going (Lexer.of_tape_open t p _) alike) calls

theorem reading_local_capitals :
    let t := (({} : Table).insert ⟨.shorthand .digit, "d"⟩).insert ⟨.property .uppercaseLetter, "Lu"⟩
    let u := t.insert ⟨.property .lowercaseLetter, "lu"⟩
    let pattern := "\\D\\p\x7bLu\x7d1"
    let l := Lexer.ofTape t {} (.ofList pattern.toList)
    t.AgreeOn u pattern.toList ∧ Lexer.create t {} pattern = .ok l ∧
      (tokenize u {} pattern).1 = .ok (.ofList [.escape (.shorthand .digit) "D" true, .plain (.literal .char) "D",
        .escape (.property .uppercaseLetter) "Lu" false, .plain (.literal .integer) "1", .finish]) ∧
      (l.rebound u).answers [.item, .token, .token] = l.answers [.item, .token, .token] := by
  intro t u pattern l
  have agree : t.AgreeOn u pattern.toList := by
    refine Table.agree_insert t (by decide) fun c _ same => ?_
    have length : "lu".length = 1 := by simpa using congrArg String.length same
    cases length
  have created : Lexer.create t {} pattern = .ok l := by decide +kernel
  obtain ⟨same, -, onward⟩ := reading_local {} agree
  refine ⟨agree, created, ?_, (onward l created _).1⟩
  rw [same]
  decide +kernel

end PatternLexer
