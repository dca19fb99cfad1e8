import PatternLexer.Proofs.Lexer.Loops
import PatternLexer.Proofs.Pattern.Grammar
import PatternLexer.Proofs.Table.Lawful

set_option autoImplicit false

namespace PatternLexer

open Scan Tape

variable {t : Table}

theorem is_blank_iff (c : Char) : isBlank c = true ↔ c ∈ blanks := by
  simp [isBlank, blanks, or_assoc]

theorem plain_kind_bound (c : Char) {k : Kind} (kind : t.kindOfChar? c = some k) (direct : k.isDirect = true) :
    plainKind? t c = some k := by
  simp [plainKind?, kind, Option.filter, direct]

theorem unbound_filter {c : Char} (free : ∀ k, t.kindOfChar? c = some k → k.isDirect ≠ true) :
    (t.kindOfChar? c).filter Kind.isDirect = none := by
  cases kind : t.kindOfChar? c with
  | none => rfl
  | some k => simp [Option.filter, free k kind]

theorem unwritten_unbound {rank : Nat} {c : Char} {text : List Char} (unwritten : Unwritten t rank (c :: text))
    (later : 0 < rank) : (t.kindOfChar? c).filter Kind.isDirect = none :=
  unbound_filter fun _ kind direct => unwritten .bound [c] text _ later rfl (.bound text kind direct)

theorem plain_kind_backslash (free : (t.kindOfChar? '\\').filter Kind.isDirect = none) :
    plainKind? t '\\' = none := by
  rw [plainKind?, free]
  decide

theorem unwritten_backslash {rank : Nat} {text : List Char} (unwritten : Unwritten t rank ('\\' :: text))
    (later : 0 < rank) : plainKind? t '\\' = none :=
  plain_kind_backslash (unwritten_unbound unwritten later)

theorem unwritten_selector {rank : Nat} {c : Char} {text : List Char}
    (unwritten : Unwritten t rank ('\\' :: c :: text)) (other : ¬ Marker c) (later : 5 < rank) : Selector c := by
  refine ⟨?_, other, ?_⟩
  · rintro rfl
    exact unwritten .backslash ['\\', '\\'] text _ (Nat.lt_trans (by decide) later) rfl (.pair text)
  · rintro rfl
    exact unwritten .cluster ['\\'] ('X' :: text) _ later rfl (.cluster text)

theorem shorthand_kind_iff (c : Char) (k : Kind) :
    shorthandKind? t c = some k ↔ t.kindOfChar? c = some k ∧ k.isShorthand = true := by
  simp [shorthandKind?, Option.filter_eq_some_iff]

theorem unwritten_shorthand {rank : Nat} {c : Char} {text : List Char}
    (unwritten : Unwritten t rank ('\\' :: c :: text)) (other : ¬ Marker c) (later : 6 < rank) :
    shorthandKind? t c = none := by
  cases kind : shorthandKind? t c with
  | none => rfl
  | some k =>
      obtain ⟨bound, family⟩ := (shorthand_kind_iff c k).mp kind
      exact absurd (.shorthand text other bound family)
        (unwritten .shorthand ['\\'] (c :: text) _ later rfl)

theorem unwritten_negated {rank : Nat} {c : Char} {text : List Char}
    (unwritten : Unwritten t rank ('\\' :: c :: text)) (other : ¬ Marker c) (later : 7 < rank) :
    negatedKind? t c = none := by
  unfold negatedKind?
  split
  · rfl
  · cases kind : shorthandKind? t c.toLower with
    | none => rfl
    | some k =>
        obtain ⟨bound, family⟩ := (shorthand_kind_iff c.toLower k).mp kind
        exact absurd (.negated text other bound family)
          (unwritten .negated ['\\'] (c :: text) _ later rfl)

def Finds (found : Finding) (k : Token) : Prop := ∀ p, found p = .ok k

theorem looked_finds {name : String} {k : Kind} (negated : Bool) (kind : t.kindOf? name = some k) :
    Finds (looked t name negated) (.escape k name negated) := by
  intro p
  simp [looked, kind]

theorem halts_of_first {f : Form} {span ahead : List Char} {k : Token} (first : First t f span ahead k) :
    (∃ found state, Halts t span ahead found state ∧ Finds found k) ∨
      ahead = [] ∧ ∃ found state, Drains t span found state ∧ Finds found k := by
  obtain ⟨writes, unwritten⟩ := first
  cases writes with
  | bound _ kind direct =>
      exact .inl ⟨_, _, .plain ahead (plain_kind_bound _ kind direct), fun _ => rfl⟩
  | @digit c _ digit =>
      have kind : plainKind? t c = some (.literal .integer) := by
        rw [plainKind?, unwritten_unbound unwritten (by decide)]
        simp [digit]
      exact .inl ⟨_, _, .plain ahead kind, fun _ => rfl⟩
  | @letter c _ letter =>
      have notDigit : ¬ c.isDigit = true := fun digit =>
        unwritten .digit [c] ahead _ (by decide) rfl (.digit ahead digit)
      have kind : plainKind? t c = some (.literal .char) := by
        rw [← is_blank_iff] at letter
        rw [plainKind?, unwritten_unbound unwritten (by decide)]
        simp [notDigit, letter]
      exact .inl ⟨_, _, .plain ahead kind, fun _ => rfl⟩
  | pair => exact .inl ⟨_, _, .pair ahead (unwritten_backslash unwritten (by decide)), fun _ => rfl⟩
  | lone => exact .inr ⟨rfl, _, _, .lone (unwritten_backslash unwritten (by decide)), fun _ => rfl⟩
  | short _ marker single kind =>
      exact .inl ⟨_, _, .letter ahead (unwritten_backslash unwritten (by decide)) marker single,
        looked_finds _ kind⟩
  | braced _ marker bare inner kind =>
      exact .inl ⟨_, _, .name ahead (unwritten_backslash unwritten (by decide)) marker bare inner,
        looked_finds _ kind⟩
  | cluster rest =>
      exact .inl ⟨_, _, .cluster rest (unwritten_backslash unwritten (by decide)), fun _ => rfl⟩
  | @shorthand c _ rest other kind family =>
      exact .inl ⟨_, _, .shorthand rest (unwritten_backslash unwritten (by decide))
        (unwritten_selector unwritten other (by decide)) ((shorthand_kind_iff c _).mpr ⟨kind, family⟩),
        fun _ => rfl⟩
  | @negated c k rest other kind family =>
      have free := unwritten_shorthand unwritten other (by decide)
      have lowered := (shorthand_kind_iff c.toLower k).mpr ⟨kind, family⟩
      have bound : negatedKind? t c = some k := by
        -- A letter that is its own small letter would have been a shorthand itself.
        unfold negatedKind?
        split
        · rename_i small
          rw [small, free] at lowered
          cases lowered
        · exact lowered
      exact .inl ⟨_, _, .negated rest (unwritten_backslash unwritten (by decide))
        (unwritten_selector unwritten other (by decide)) free bound, fun _ => rfl⟩
  | escaped _ other =>
      exact .inl ⟨_, _, .escaped ahead (unwritten_backslash unwritten (by decide))
        (unwritten_selector unwritten other (by decide)) (unwritten_shorthand unwritten other (by decide))
        (unwritten_negated unwritten other (by decide)), fun _ => rfl⟩

theorem rank_injective {f g : Form} (same : g.rank = f.rank) : g = f := by
  cases f <;> cases g <;> first | rfl | cases same

theorem unwritten_next {f : Form} {text : List Char} (front : Unwritten t f.rank text)
    (absent : ∀ span ahead k, span ++ ahead = text → ¬ Writes t f span ahead k) :
    Unwritten t (f.rank + 1) text := by
  intro g span ahead k less same writes
  by_cases earlier : g.rank < f.rank
  · exact front g span ahead k earlier same writes
  · obtain rfl : g = f := rank_injective (by omega)
    exact absent span ahead k same writes

theorem unwritten_zero (text : List Char) : Unwritten t 0 text :=
  fun _ _ _ _ less => absurd less (Nat.not_lt_zero _)

theorem bound_absent {c : Char} {text : List Char} (free : (t.kindOfChar? c).filter Kind.isDirect = none) :
    Unwritten t 1 (c :: text) := by
  refine unwritten_next (f := .bound) (unwritten_zero _) fun span ahead k same writes => ?_
  cases writes with
  | bound _ kind direct =>
      obtain ⟨rfl, -⟩ := List.cons.inj same
      simp [kind, Option.filter, direct] at free

theorem digit_absent {c : Char} {text : List Char} (free : (t.kindOfChar? c).filter Kind.isDirect = none)
    (notDigit : ¬ c.isDigit = true) : Unwritten t 2 (c :: text) := by
  refine unwritten_next (f := .digit) (bound_absent free) fun span ahead k same writes => ?_
  cases writes with
  | digit _ digit =>
      obtain ⟨rfl, -⟩ := List.cons.inj same
      exact notDigit digit

theorem letter_absent {text : List Char} (kind : plainKind? t '\\' = none) : Unwritten t 3 ('\\' :: text) := by
  have free : (t.kindOfChar? '\\').filter Kind.isDirect = none := by
    unfold plainKind? at kind
    split at kind
    · cases kind
    · assumption
  refine unwritten_next (f := .letter) (digit_absent free (by decide)) fun span ahead k same writes => ?_
  cases writes with
  | letter _ letter =>
      obtain ⟨rfl, -⟩ := List.cons.inj same
      revert letter
      decide

theorem backslash_absent {c : Char} {text : List Char} (kind : plainKind? t '\\' = none) (other : c ≠ '\\') :
    Unwritten t 4 ('\\' :: c :: text) := by
  refine unwritten_next (f := .backslash) (letter_absent kind) fun span ahead k same writes => ?_
  cases writes with
  | pair => exact other (by simpa using (List.cons.inj (List.cons.inj same).2).1.symm)
  | lone => cases same

theorem property_absent {c : Char} {text : List Char} (kind : plainKind? t '\\' = none) (single : c ≠ '\\')
    (other : ¬ Marker c) : Unwritten t 5 ('\\' :: c :: text) := by
  refine unwritten_next (f := .property) (backslash_absent kind single) fun span ahead k same writes => ?_
  cases writes with
  | short _ marker =>
      obtain ⟨rfl, -⟩ := List.cons.inj (List.cons.inj same).2
      exact other marker
  | braced _ marker =>
      obtain ⟨rfl, -⟩ := List.cons.inj (List.cons.inj same).2
      exact other marker

theorem cluster_absent {c : Char} {text : List Char} (kind : plainKind? t '\\' = none)
    (selector : Selector c) : Unwritten t 6 ('\\' :: c :: text) := by
  obtain ⟨single, other, notCluster⟩ := selector
  refine unwritten_next (f := .cluster) (property_absent kind single other) fun span ahead k same writes => ?_
  cases writes with
  | cluster _ => exact notCluster (List.cons.inj (List.cons.inj same).2).1.symm

theorem shorthand_absent {c : Char} {text : List Char} (kind : plainKind? t '\\' = none)
    (selector : Selector c) (free : shorthandKind? t c = none) : Unwritten t 7 ('\\' :: c :: text) := by
  refine unwritten_next (f := .shorthand) (cluster_absent kind selector) fun span ahead k same writes => ?_
  cases writes with
  | shorthand _ _ bound family =>
      obtain ⟨rfl, -⟩ := List.cons.inj (List.cons.inj same).2
      rw [(shorthand_kind_iff _ _).mpr ⟨bound, family⟩] at free
      cases free

theorem negated_absent {c : Char} {text : List Char} (kind : plainKind? t '\\' = none)
    (selector : Selector c) (free : shorthandKind? t c = none) (positive : negatedKind? t c = none) :
    Unwritten t 8 ('\\' :: c :: text) := by
  refine unwritten_next (f := .negated) (shorthand_absent kind selector free) fun span ahead k same writes => ?_
  cases writes with
  | negated _ _ bound family =>
      obtain ⟨rfl, -⟩ := List.cons.inj (List.cons.inj same).2
      have lowered := (shorthand_kind_iff _ _).mpr ⟨bound, family⟩
      unfold negatedKind? at positive
      split at positive
      · rename_i small
        rw [small, free] at lowered
        cases lowered
      · rw [lowered] at positive
        cases positive

theorem looked_bound {name : String} {negated : Bool} {p : Nat} {k : Token}
    (found : looked t name negated p = .ok k) :
    ∃ kind, t.kindOf? name = some kind ∧ k = .escape kind name negated := by
  unfold looked at found
  split at found
  · rename_i kind bound
    exact ⟨kind, bound, (Except.ok.inj found).symm⟩
  · cases found

theorem plain_first {c : Char} {k : Kind} (ahead : List Char) (kind : plainKind? t c = some k) :
    ∃ f, First t f [c] ahead (.plain k (String.singleton c)) := by
  unfold plainKind? at kind
  split at kind
  · rename_i k' bound
    obtain rfl := Option.some.inj kind
    obtain ⟨bound, direct⟩ := Option.filter_eq_some_iff.mp bound
    exact ⟨.bound, .bound ahead bound direct, unwritten_zero _⟩
  · rename_i free
    split at kind
    · rename_i digit
      obtain rfl := Option.some.inj kind
      exact ⟨.digit, .digit ahead digit, bound_absent free⟩
    · rename_i notDigit
      split at kind
      · rename_i letter
        obtain rfl := Option.some.inj kind
        rw [Bool.or_eq_true, is_blank_iff] at letter
        exact ⟨.letter, .letter ahead letter, digit_absent free notDigit⟩
      · cases kind

theorem marker_single {m : Char} (marker : Marker m) : m ≠ '\\' := by
  rcases marker with rfl | rfl <;> decide

theorem first_of_halts {span ahead : List Char} {found : Finding} {state : State} {p : Nat} {k : Token}
    (halts : Halts t span ahead found state) (came : found p = .ok k) : ∃ f, First t f span ahead k := by
  cases halts with
  | plain _ kind =>
      obtain rfl := Except.ok.inj came
      exact plain_first ahead kind
  | unknown => cases came
  | pair _ kind =>
      obtain rfl := Except.ok.inj came
      exact ⟨.backslash, .pair ahead, letter_absent kind⟩
  | letter _ kind marker single =>
      obtain ⟨bound, known, rfl⟩ := looked_bound came
      exact ⟨.property, .short ahead marker single known, backslash_absent kind (marker_single marker)⟩
  | name _ kind marker bare inner =>
      obtain ⟨bound, known, rfl⟩ := looked_bound came
      exact ⟨.property, .braced ahead marker bare inner known, backslash_absent kind (marker_single marker)⟩
  | cluster rest kind =>
      obtain rfl := Except.ok.inj came
      exact ⟨.cluster, .cluster rest, property_absent kind (by decide) (by simp [Marker])⟩
  | shorthand rest kind selector bound =>
      obtain rfl := Except.ok.inj came
      obtain ⟨known, family⟩ := (shorthand_kind_iff _ _).mp bound
      exact ⟨.shorthand, .shorthand rest selector.2.1 known family, cluster_absent kind selector⟩
  | negated rest kind selector free bound =>
      obtain rfl := Except.ok.inj came
      unfold negatedKind? at bound
      split at bound
      · cases bound
      · obtain ⟨known, family⟩ := (shorthand_kind_iff _ _).mp bound
        exact ⟨.negated, .negated rest selector.2.1 known family, shorthand_absent kind selector free⟩
  | escaped _ kind selector free positive =>
      obtain rfl := Except.ok.inj came
      exact ⟨.escaped, .escaped ahead selector.2.1, negated_absent kind selector free positive⟩

-- In a lawful table no property has an empty name, so a text that is drained leaves a lone backslash.
theorem first_of_drains (lawful : t.Lawful) {text : List Char} {found : Finding} {state : State} {p : Nat}
    {k : Token} (drains : Drains t text found state) (came : found p = .ok k) (more : k ≠ .finish) :
    First t .backslash text [] k := by
  cases drains with
  | finish => exact absurd (Except.ok.inj came).symm more
  | lone kind =>
      obtain rfl := Except.ok.inj came
      exact ⟨.lone, letter_absent kind⟩
  | nameless =>
      obtain ⟨bound, known, -⟩ := looked_bound came
      rw [Table.lawful_nonempty lawful] at known
      cases known
  | unclosed => cases came

theorem writes_more {f : Form} {span ahead : List Char} {k : Token} (writes : Writes t f span ahead k) :
    span ≠ [] ∧ k ≠ .finish := by
  cases writes <;> exact ⟨List.cons_ne_nil _ _, nofun⟩

theorem read_of_first {f : Form} {span ahead : List Char} {k : Token} (first : First t f span ahead k)
    (behind : List Char) :
    (read t (cut behind (span ++ ahead))).result = .ok k ∧
      (read t (cut behind (span ++ ahead))).tape.Stands (behind ++ span) ahead := by
  rcases halts_of_first first with ⟨found, state, halts, finds⟩ | ⟨rfl, found, state, drains, finds⟩
  · rw [read_halts halts]
    exact ⟨finds _, .inl rfl⟩
  · rw [List.append_nil, read_drains drains]
    exact ⟨finds _, .inr ⟨rfl, rfl⟩⟩

theorem first_of_read (lawful : t.Lawful) {tape : Tape Char} {behind text : List Char} {k : Token}
    (stands : tape.Stands behind text) (came : (read t tape).result = .ok k) (more : k ≠ .finish) :
    ∃ f span ahead, text = span ++ ahead ∧ First t f span ahead k ∧
      (read t tape).tape.Stands (behind ++ span) ahead := by
  rcases stands with rfl | ⟨rfl, rfl⟩
  · rcases read_cases t text with ⟨span, ahead, found, state, rfl, halts⟩ | ⟨found, state, drains⟩
    · rw [read_halts halts] at came ⊢
      obtain ⟨f, first⟩ := first_of_halts halts came
      exact ⟨f, span, ahead, rfl, first, .inl rfl⟩
    · rw [read_drains drains] at came ⊢
      exact ⟨.backslash, text, [], (List.append_nil text).symm, first_of_drains lawful drains came more,
        .inr ⟨rfl, rfl⟩⟩
  · rw [read_spent] at came
    exact absurd (Except.ok.inj came).symm more

theorem read_nothing {tape : Tape Char} {behind : List Char} (stands : tape.Stands behind []) :
    (read t tape).result = .ok .finish := by
  rcases stands with rfl | ⟨-, rfl⟩
  · have drained := read_drains (t := t) .finish behind
    rw [drained]
  · rw [read_spent]

theorem sequence_single {text : List Char} {found : Finding} {state : State} {k : Token}
    (halts : Halts t text [] found state) (finds : Finds found k) : sequence t (.ofList text) = [.ok k] := by
  have read := read_halts halts []
  rw [List.append_nil, List.nil_append, ← list_tape_cut] at read
  have came : (Scan.read t (.ofList text)).result = .ok k := by
    rw [read]
    exact finds _
  have more : k ≠ .finish := by
    intro last
    exact halts_more halts 0 (last ▸ finds 0)
  rw [sequence_token came more, read, sequence_finish (read_nothing (.inl rfl))]

theorem sequence_iff_split (lawful : t.Lawful) {tape : Tape Char} {behind text : List Char}
    (stands : tape.Stands behind text) (ts : List Token) : sequence t tape = ts.map .ok ↔ Split t text ts := by
  constructor
  · intro tokens
    induction ts generalizing tape behind text with
    | nil =>
        rcases stands with rfl | ⟨rfl, -⟩
        · rw [read_finish behind text (sequence_nil tokens)]
          exact .done
        · exact .done
    | cons k ts ih =>
        obtain ⟨came, more, rest⟩ := sequence_cons tokens
        obtain ⟨f, span, ahead, rfl, first, onward⟩ := first_of_read lawful stands came more
        exact .span first (ih onward rest)
  · intro split
    induction split generalizing tape behind with
    | done => exact sequence_finish (read_nothing stands)
    | @span f span ahead k ks first _ ih =>
        -- A span is never empty, so there is text for it in front of the cursor.
        obtain ⟨taken, more⟩ := writes_more first.writes
        rcases stands with rfl | ⟨empty, -⟩
        · obtain ⟨came, onward⟩ := read_of_first first behind
          rw [sequence_token came more, ih onward, List.map_cons]
        · exact absurd (List.append_eq_nil_iff.mp empty).1 taken

theorem split_unique (lawful : t.Lawful) {text : List Char} {ts ts' : List Token} (split : Split t text ts)
    (split' : Split t text ts') : ts = ts' := by
  have fresh : (Tape.cut [] text).Stands [] text := .inl rfl
  have tokens := (sequence_iff_split lawful fresh ts).mpr split
  have tokens' := (sequence_iff_split lawful fresh ts').mpr split'
  have same : ts.map (Except.ok (ε := LexError)) = ts'.map .ok := tokens.symm.trans tokens'
  exact (List.map_inj_right fun _ _ => Except.ok.inj).mp same

theorem tokenize_iff_split {bs : List Binding} {t : Table} (accepted : Table.ofBindings bs = .ok t)
    (preferences : LexingPreferences) (pattern : String) (stream : TokenStream) :
    (tokenize t preferences pattern).1 = .ok stream ↔
      pattern.length ≤ patternLimit ∧
        ∃ ts, Split t pattern.toList ts ∧ stream = .ofList (ts ++ [.finish]) := by
  have fresh : (Tape.ofList pattern.toList).Stands [] pattern.toList := .inl rfl
  simp only [tokenize_ok_iff, sequence_iff_split (Table.lawful_of_bindings accepted) fresh]

theorem tokenize_iff_split_negated :
    let bs : List Binding := [⟨.shorthand .digit, "d"⟩]
    let t := ({} : Table).insert ⟨.shorthand .digit, "d"⟩
    let ts : List Token := [.escape (.shorthand .digit) "D" true, .plain (.literal .char) "D"]
    Table.ofBindings bs = .ok t ∧ (tokenize t {} "\\D").1 = .ok (.ofList (ts ++ [.finish])) ∧
      Split t "\\D".toList ts := by
  intro bs t ts
  have accepted : Table.ofBindings bs = .ok t := by decide +kernel
  have read : (tokenize t {} "\\D").1 = .ok (.ofList (ts ++ [.finish])) := by decide +kernel
  obtain ⟨-, ts', split, same⟩ := (tokenize_iff_split accepted {} "\\D" _).mp read
  obtain rfl : ts = ts' := by simpa [Tape.ofList] using same
  exact ⟨accepted, read, split⟩

end PatternLexer
