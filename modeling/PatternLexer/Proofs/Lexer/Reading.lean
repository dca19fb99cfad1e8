import PatternLexer.Lexer.Scan
import PatternLexer.Proofs.Tape.Halves

set_option autoImplicit false

namespace PatternLexer.Scan

open Tape

-- A circumflex is taken for a negation whenever it comes first.
def hatted (hat : Bool) (name : List Char) : List Char := if hat then '^' :: name else name

def Bare (hat : Bool) (name : List Char) : Prop := hat = false → name.head? ≠ some '^'

def Marker (m : Char) : Prop := m = 'p' ∨ m = 'P'

def Selector (c : Char) : Prop := c ≠ '\\' ∧ ¬ Marker c ∧ c ≠ 'X'

-- An error shows the position of the cursor, which a finding leaves open.
abbrev Finding := Nat → Except LexError Token

def looked (t : Table) (name : String) (negated : Bool) : Finding := fun position =>
  match t.kindOf? name with
  | some k => .ok (.escape k name negated)
  | none => .error (.unknownProperty name position)

inductive Halts (t : Table) : List Char → List Char → Finding → State → Prop where
  | plain {c : Char} {k : Kind} (ahead : List Char) (kind : plainKind? t c = some k) :
      Halts t [c] ahead (fun _ => .ok (.plain k (String.singleton c))) .start
  | unknown {c : Char} (ahead : List Char) (kind : plainKind? t c = none) (other : c ≠ '\\') :
      Halts t [c] ahead (fun p => .error (.unknownCharacter c p)) .start
  | pair (ahead : List Char) (kind : plainKind? t '\\' = none) :
      Halts t ['\\', '\\'] ahead (fun _ => .ok (.plain (.literal .backslash) "\\")) .escaped
  | letter {m c : Char} (ahead : List Char) (kind : plainKind? t '\\' = none) (marker : Marker m)
      (single : c ≠ '\x7b') :
      Halts t ['\\', m, c] ahead (looked t (String.singleton c) (m == 'P')) .inShortProperty
  | name {m : Char} {hat : Bool} {name : List Char} (ahead : List Char)
      (kind : plainKind? t '\\' = none) (marker : Marker m) (bare : Bare hat name)
      (inner : '\x7d' ∉ name) :
      Halts t ('\\' :: m :: '\x7b' :: hatted hat (name ++ ['\x7d'])) ahead
        (looked t (String.ofList name) (m == 'P' || hat)) .inBracedProperty
  | cluster (ahead : List Char) (kind : plainKind? t '\\' = none) :
      Halts t ['\\'] ('X' :: ahead) (fun _ => .ok (.escape (.property .x) "X" false)) .escaped
  | shorthand {c : Char} {k : Kind} (ahead : List Char) (kind : plainKind? t '\\' = none)
      (selector : Selector c) (bound : shorthandKind? t c = some k) :
      Halts t ['\\'] (c :: ahead) (fun _ => .ok (.escape k (String.singleton c) false)) .escaped
  | negated {c : Char} {k : Kind} (ahead : List Char) (kind : plainKind? t '\\' = none)
      (selector : Selector c) (free : shorthandKind? t c = none) (bound : negatedKind? t c = some k) :
      Halts t ['\\'] (c :: ahead) (fun _ => .ok (.escape k (String.singleton c) true)) .escaped
  | escaped {c : Char} (ahead : List Char) (kind : plainKind? t '\\' = none)
      (selector : Selector c) (free : shorthandKind? t c = none) (positive : negatedKind? t c = none) :
      Halts t ['\\', c] ahead (fun _ => .ok (.plain (.literal .char) (String.singleton c))) .escaped

inductive Drains (t : Table) : List Char → Finding → State → Prop where
  | finish : Drains t [] (fun _ => .ok .finish) .start
  | lone (kind : plainKind? t '\\' = none) :
      Drains t ['\\'] (fun _ => .ok (.plain (.literal .backslash) "\\")) .escaped
  | nameless {m : Char} (kind : plainKind? t '\\' = none) (marker : Marker m) :
      Drains t ['\\', m] (looked t "" (m == 'P')) .inShortProperty
  | unclosed {m : Char} {hat : Bool} {name : List Char} (kind : plainKind? t '\\' = none)
      (marker : Marker m) (bare : Bare hat name) (inner : '\x7d' ∉ name) :
      Drains t ('\\' :: m :: '\x7b' :: hatted hat name)
        (fun p => .error (.unterminatedProperty (String.ofList name) p)) .inBracedProperty

theorem braced_name_cons (behind ahead taken : List Char) (c : Char) :
    bracedName (cut behind (c :: ahead)) taken =
      if c = '\x7d' then (.ok (String.ofList taken.reverse), cut (behind ++ [c]) ahead)
      else bracedName (cut (behind ++ [c]) ahead) (c :: taken) := by
  rw [bracedName]
  split
  · rename_i d found
    rw [cut_next_cons, Option.some.injEq] at found
    rw [cut_advance_cons, found]
  · rename_i found
    simp at found

theorem braced_name_nil (behind taken : List Char) :
    bracedName (cut behind []) taken = (.error (String.ofList taken.reverse), spent behind) := by
  rw [bracedName]
  split
  · rename_i d found
    simp at found
  · rw [cut_advance_nil]

theorem braced_name_closed (behind name ahead taken : List Char) (inner : '\x7d' ∉ name) :
    bracedName (cut behind (name ++ '\x7d' :: ahead)) taken =
      (.ok (String.ofList (taken.reverse ++ name)), cut (behind ++ (name ++ ['\x7d'])) ahead) := by
  induction name generalizing behind taken with
  | nil => simp [braced_name_cons]
  | cons c name ih =>
      rw [List.mem_cons, not_or] at inner
      rw [List.cons_append, braced_name_cons, if_neg (Ne.symm inner.1), ih _ _ inner.2]
      simp

theorem braced_name_unclosed (behind name taken : List Char) (inner : '\x7d' ∉ name) :
    bracedName (cut behind name) taken =
      (.error (String.ofList (taken.reverse ++ name)), spent (behind ++ name)) := by
  induction name generalizing behind taken with
  | nil => simp [braced_name_nil]
  | cons c name ih =>
      rw [List.mem_cons, not_or] at inner
      rw [braced_name_cons, if_neg (Ne.symm inner.1), ih _ _ inner.2]
      simp

theorem named_looked (t : Table) (name : String) (negated : Bool) (tape : Tape Char) (state : State) :
    named t name negated tape state = ⟨looked t name negated tape.position, tape, state⟩ := by
  unfold named looked
  cases t.kindOf? name <;> rfl

theorem braced_hatted (t : Table) (negated : Bool) (behind ahead : List Char) (hat : Bool)
    (bare : Bare hat ahead) :
    braced t negated (cut behind (hatted hat ahead)) =
      inBraces t (negated || hat) (cut (behind ++ hatted hat []) ahead) := by
  cases hat with
  | false =>
      have other : ahead.head? ≠ some '^' := bare rfl
      simp [hatted, braced, other]
  | true => simp [hatted, braced, cut_advance_cons]

theorem bare_append (hat : Bool) (name ahead : List Char) (bare : Bare hat name) :
    Bare hat (name ++ '\x7d' :: ahead) := by
  intro plain
  cases name with
  | nil => simp
  | cons c name => exact bare plain

theorem hatted_append (hat : Bool) (name ahead : List Char) :
    hatted hat name ++ ahead = hatted hat (name ++ ahead) := by
  cases hat <;> rfl

theorem hatted_cases (text : List Char) : ∃ hat name, text = hatted hat name ∧ Bare hat name := by
  cases text with
  | nil => exact ⟨false, [], rfl, fun _ => by simp⟩
  | cons c text =>
      by_cases circumflex : c = '^'
      · exact ⟨true, text, by simp [hatted, circumflex], nofun⟩
      · exact ⟨false, c :: text, rfl, fun _ => by simpa using circumflex⟩

theorem plain_escape (t : Table) (kind : plainKind? t '\\' = none) (behind ahead : List Char) :
    read t (cut behind ('\\' :: ahead)) = escape t (cut (behind ++ ['\\']) ahead) := by
  simp [read, token, kind]

theorem escape_selected (t : Table) (behind ahead : List Char) (c : Char) :
    escape t (cut behind (c :: ahead)) = selected t c (cut behind (c :: ahead)) := by
  simp [escape]

theorem selected_marker (t : Table) (behind ahead : List Char) (m : Char) (marker : Marker m) :
    selected t m (cut behind (m :: ahead)) = property t (m == 'P') (cut (behind ++ [m]) ahead) := by
  rcases marker with rfl | rfl <;> simp [selected, cut_advance_cons]

theorem selected_selector (t : Table) (behind ahead : List Char) (c : Char) (selector : Selector c) :
    selected t c (cut behind (c :: ahead)) =
      match shorthandKind? t c with
      | some k => ⟨.ok (.escape k (String.singleton c) false), cut behind (c :: ahead), .escaped⟩
      | none =>
        match negatedKind? t c with
        | some k => ⟨.ok (.escape k (String.singleton c) true), cut behind (c :: ahead), .escaped⟩
        | none => ⟨.ok (.plain (.literal .char) (String.singleton c)), cut (behind ++ [c]) ahead, .escaped⟩ := by
  obtain ⟨notBackslash, notMarker, notCluster⟩ := selector
  have notProperty : ¬ (c = 'p' ∨ c = 'P') := notMarker
  cases positive : shorthandKind? t c with
  | some k => simp [selected, notBackslash, notProperty, notCluster, positive]
  | none =>
      cases negative : negatedKind? t c with
      | some k => simp [selected, notBackslash, notProperty, notCluster, positive, negative]
      | none =>
          simp [selected, notBackslash, notProperty, notCluster, positive, negative, cut_advance_cons]

theorem read_halts {t : Table} {span ahead : List Char} {found : Finding} {state : State}
    (halts : Halts t span ahead found state) (behind : List Char) :
    read t (cut behind (span ++ ahead)) =
      ⟨found (cut (behind ++ span) ahead).position, cut (behind ++ span) ahead, state⟩ := by
  cases halts with
  | plain _ kind => simp [read, token, kind]
  | unknown _ kind other => simp [read, token, kind, other]
  | pair _ kind => simp [plain_escape t kind, escape, selected, cut_advance_cons]
  | letter _ kind marker single =>
      simp only [List.cons_append, List.nil_append]
      rw [plain_escape t kind, escape_selected, selected_marker t _ _ _ marker, property]
      simp [single, named_looked]
  | @name m hat name _ kind marker bare inner =>
      have passed : hatted hat (name ++ ['\x7d']) ++ ahead = hatted hat (name ++ '\x7d' :: ahead) := by
        simp [hatted_append]
      simp only [List.cons_append, passed]
      rw [plain_escape t kind, escape_selected, selected_marker t _ _ _ marker, property]
      simp only [cut_next_cons, if_true]
      rw [braced_hatted t _ _ _ hat (bare_append hat name ahead bare), inBraces,
        braced_name_closed _ name ahead [] inner]
      simp [named_looked, hatted_append]
  | cluster _ kind => simp [plain_escape t kind, escape, selected]
  | shorthand _ kind selector bound =>
      simp only [List.cons_append, List.nil_append]
      rw [plain_escape t kind, escape_selected, selected_selector t _ _ _ selector, bound]
  | negated _ kind selector free bound =>
      simp only [List.cons_append, List.nil_append]
      rw [plain_escape t kind, escape_selected, selected_selector t _ _ _ selector, free, bound]
  | escaped _ kind selector free positive =>
      simp only [List.cons_append, List.nil_append]
      rw [plain_escape t kind, escape_selected, selected_selector t _ _ _ selector, free, positive]
      simp

theorem read_drains {t : Table} {text : List Char} {found : Finding} {state : State}
    (drains : Drains t text found state) (behind : List Char) :
    read t (cut behind text) = ⟨found (behind ++ text).length, spent (behind ++ text), state⟩ := by
  cases drains with
  | finish => simp [read]
  | lone kind => simp [plain_escape t kind, escape, cut_advance_nil]
  | nameless kind marker =>
      rw [plain_escape t kind, escape_selected, selected_marker t _ _ _ marker, property]
      simp [named_looked]
  | @unclosed m hat name kind marker bare inner =>
      rw [plain_escape t kind, escape_selected, selected_marker t _ _ _ marker, property]
      simp only [cut_next_cons, if_true]
      rw [braced_hatted t _ _ _ hat bare, inBraces, braced_name_unclosed _ name [] inner]
      simp [hatted_append]

theorem read_spent (t : Table) (behind : List Char) :
    read t (spent behind) = ⟨.ok .finish, spent behind, .start⟩ := by
  simp [read]

def Reads (t : Table) (text : List Char) : Prop :=
  (∃ span ahead found state, text = span ++ ahead ∧ Halts t span ahead found state) ∨
    ∃ found state, Drains t text found state

theorem closed_cases {hat : Bool} {text : List Char} (bare : Bare hat text) (closed : '\x7d' ∈ text) :
    ∃ name ahead, text = name ++ '\x7d' :: ahead ∧ '\x7d' ∉ name ∧ Bare hat name := by
  obtain ⟨name, ahead, rfl, inner⟩ := List.eq_append_cons_of_mem closed
  refine ⟨name, ahead, rfl, inner, ?_⟩
  intro plain
  have first := bare plain
  cases name with
  | nil => simp
  | cons c name => exact first

theorem property_reads (t : Table) (kind : plainKind? t '\\' = none) (m : Char) (marker : Marker m)
    (text : List Char) : Reads t ('\\' :: m :: text) := by
  cases text with
  | nil => exact .inr ⟨_, _, .nameless kind marker⟩
  | cons c text =>
      by_cases single : c = '\x7b'
      · subst c
        obtain ⟨hat, rest, rfl, bare⟩ := hatted_cases text
        by_cases closed : '\x7d' ∈ rest
        · obtain ⟨name, ahead, rfl, inner, front⟩ := closed_cases bare closed
          refine .inl ⟨_, ahead, _, _, ?_, .name ahead kind marker front inner⟩
          simp [hatted_append]
        · exact .inr ⟨_, _, .unclosed kind marker bare closed⟩
      · exact .inl ⟨_, text, _, _, rfl, .letter text kind marker single⟩

theorem selector_reads (t : Table) (kind : plainKind? t '\\' = none) (c : Char) (selector : Selector c)
    (text : List Char) : Reads t ('\\' :: c :: text) := by
  cases positive : shorthandKind? t c with
  | some k => exact .inl ⟨_, _, _, _, rfl, .shorthand text kind selector positive⟩
  | none =>
      cases negative : negatedKind? t c with
      | some k => exact .inl ⟨_, _, _, _, rfl, .negated text kind selector positive negative⟩
      | none => exact .inl ⟨_, _, _, _, rfl, .escaped text kind selector positive negative⟩

theorem read_cases (t : Table) (text : List Char) : Reads t text := by
  cases text with
  | nil => exact .inr ⟨_, _, .finish⟩
  | cons c text =>
      cases kind : plainKind? t c with
      | some k => exact .inl ⟨_, text, _, _, rfl, .plain text kind⟩
      | none =>
          by_cases escapes : c = '\\'
          · subst c
            cases text with
            | nil => exact .inr ⟨_, _, .lone kind⟩
            | cons c text =>
                by_cases pair : c = '\\'
                · subst c
                  exact .inl ⟨_, text, _, _, rfl, .pair text kind⟩
                · by_cases marker : Marker c
                  · exact property_reads t kind c marker text
                  · by_cases cluster : c = 'X'
                    · subst c
                      exact .inl ⟨_, _, _, _, rfl, .cluster text kind⟩
                    · exact selector_reads t kind c ⟨pair, marker, cluster⟩ text
          · exact .inl ⟨_, text, _, _, rfl, .unknown text kind escapes⟩

end PatternLexer.Scan
