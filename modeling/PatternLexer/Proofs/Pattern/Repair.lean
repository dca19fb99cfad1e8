import PatternLexer.Proofs.Lexer.Finality
import PatternLexer.Proofs.Lexer.Shift
import PatternLexer.Proofs.Pattern.Shorthand

set_option autoImplicit false

namespace PatternLexer

namespace Scan

open Tape

variable {t : Table}

structure Unknown (t : Table) (c : Char) : Prop where
  kind : plainKind? t c = none
  other : c ≠ '\\'

inductive Passes (t : Table) : Tape Char → List Token → Tape Char → Prop where
  | none (tape : Tape Char) : Passes t tape [] tape
  | token {tape after : Tape Char} {k : Token} {ks : List Token} (came : (read t tape).result = .ok k)
      (more : k ≠ .finish) (onward : Passes t (read t tape).tape ks after) : Passes t tape (k :: ks) after

theorem passes_append {tape between after : Tape Char} {ks ks' : List Token} (first : Passes t tape ks between)
    (second : Passes t between ks' after) : Passes t tape (ks ++ ks') after := by
  induction first with
  | none => exact second
  | token came more _ ih => exact .token came more (ih second)

theorem passes_sequence {tape after : Tape Char} {ks : List Token} (passes : Passes t tape ks after) :
    sequence t tape = ks.map .ok ++ sequence t after := by
  induction passes with
  | none => rfl
  | token came more _ ih => rw [sequence_token came more, ih, List.map_cons, List.cons_append]

theorem unknown_letter {c : Char} (kind : plainKind? t c = none) : c.isAlpha = false := by
  unfold plainKind? at kind
  split at kind
  · cases kind
  · cases letter : c.isAlpha with
    | false => rfl
    | true =>
        rw [letter] at kind
        split at kind <;> cases kind

theorem unknown_selector {c : Char} (unknown : Unknown t c) : Selector c := by
  have letter := unknown_letter unknown.kind
  refine ⟨unknown.other, ?_, ?_⟩
  · rintro (rfl | rfl) <;> cases letter
  · rintro rfl
    cases letter

theorem unknown_shorthand (lawful : t.Lawful) {c : Char} (unknown : Unknown t c) :
    shorthandKind? t c = none := by
  cases bound : shorthandKind? t c with
  | none => rfl
  | some k =>
      have letter : c.isAlpha = true := Bool.or_eq_true_iff.mpr (.inr (lawful_letter lawful bound))
      cases letter.symm.trans (unknown_letter unknown.kind)

theorem unknown_negated {c : Char} (unknown : Unknown t c) : negatedKind? t c = none := by
  unfold negatedKind?
  split
  · rfl
  · rename_i lowered
    have letter := unknown_letter unknown.kind
    rw [capital_letter lowered] at letter
    cases letter

theorem unknown_read {behind text : List Char} {c : Char} {i : Nat}
    (failed : (read t (cut behind text)).result = .error (.unknownCharacter c i)) :
    i = behind.length ∧ Unknown t c ∧ ∃ ahead, text = c :: ahead := by
  rcases read_cases t text with ⟨span, ahead, found, state, rfl, halts⟩ | ⟨found, state, drains⟩
  · rw [read_halts halts] at failed
    cases halts with
    | unknown _ kind other =>
        obtain ⟨rfl, rfl⟩ := LexError.unknownCharacter.inj (Except.error.inj failed)
        exact ⟨cut_position behind ahead _, ⟨kind, other⟩, ahead, rfl⟩
    | letter => cases (looked_missing failed).2
    | name => cases (looked_missing failed).2
    | _ => cases failed
  · rw [read_drains drains] at failed
    cases drains with
    | nameless => cases (looked_missing failed).2
    | _ => cases failed

-- An unknown character is no letter, so no token in front of it has looked at it.
theorem halts_before (lawful : t.Lawful) {span rest after : List Char} {c : Char} {found : Finding} {state : State}
    (unknown : Unknown t c) (halts : Halts t span (rest ++ c :: after) found state) (ys : List Char) :
    Halts t span (rest ++ ys) found state := by
  generalize same : rest ++ c :: after = ahead at halts
  cases halts with
  | plain _ kind => exact .plain _ kind
  | unknown _ kind other => exact .unknown _ kind other
  | pair _ kind => exact .pair _ kind
  | letter _ kind marker single => exact .letter _ kind marker single
  | name _ kind marker bare inner => exact .name _ kind marker bare inner
  | cluster _ kind =>
      cases rest with
      | nil => cases (unknown_selector unknown).2.2 (List.cons.inj same).1
      | cons x rest =>
          obtain ⟨rfl, -⟩ := List.cons.inj same
          exact .cluster _ kind
  | shorthand _ kind selector bound =>
      cases rest with
      | nil =>
          obtain ⟨rfl, -⟩ := List.cons.inj same
          cases (unknown_shorthand lawful unknown).symm.trans bound
      | cons x rest =>
          obtain ⟨rfl, -⟩ := List.cons.inj same
          exact .shorthand _ kind selector bound
  | negated _ kind selector free bound =>
      cases rest with
      | nil =>
          obtain ⟨rfl, -⟩ := List.cons.inj same
          cases (unknown_negated unknown).symm.trans bound
      | cons x rest =>
          obtain ⟨rfl, -⟩ := List.cons.inj same
          exact .negated _ kind selector free bound
  | escaped _ kind selector free positive => exact .escaped _ kind selector free positive

theorem passes_before (lawful : t.Lawful) (behind rest after : List Char) (ts : List Token) {c : Char}
    (failed : sequence t (cut behind (rest ++ c :: after)) =
      ts.map .ok ++ [.error (.unknownCharacter c (behind ++ rest).length)]) :
    Unknown t c ∧ ∀ ys, Passes t (cut behind (rest ++ ys)) ts (cut (behind ++ rest) ys) := by
  induction ts generalizing behind rest with
  | nil =>
      obtain ⟨place, unknown, -⟩ := unknown_read (sequence_failed failed)
      obtain rfl : rest = [] := List.eq_nil_of_length_eq_zero (by simpa using place)
      refine ⟨unknown, fun ys => ?_⟩
      rw [List.append_nil]
      exact .none _
  | cons k ts ih =>
      obtain ⟨came, more, tail⟩ := sequence_cons failed
      rcases read_cases t (rest ++ c :: after) with ⟨span, ahead, found, state, text, halts⟩ | ⟨found, state, drains⟩
      · rw [text, read_halts halts] at came tail
        -- The error stands behind all that the token has passed, so the token ends in front of the character.
        obtain ⟨-, -, -, before, -⟩ := sequence_failed_placed (.inl rfl) ts tail
        obtain ⟨rest', rfl⟩ : span <+: rest := by
          refine List.prefix_of_prefix_length_le (text ▸ List.prefix_append span ahead) (List.prefix_append rest _) ?_
          simpa using before
        obtain rfl : rest' ++ c :: after = ahead := by simpa using text
        rw [← List.append_assoc] at tail
        obtain ⟨unknown, onward⟩ := ih _ rest' tail
        refine ⟨unknown, fun ys => ?_⟩
        have moved := read_halts (halts_before lawful unknown halts ys) behind
        rw [← List.append_assoc] at moved
        refine .token (by rw [moved]; exact came) more ?_
        rw [moved, ← List.append_assoc]
        exact onward ys
      · rw [read_drains drains, sequence_spent] at tail
        simp at tail

theorem escaped_passes (lawful : t.Lawful) {c : Char} (unknown : Unknown t c) (behind ahead : List Char) :
    Passes t (cut behind ('\\' :: c :: ahead)) [.plain (.literal .char) (String.singleton c)]
      (cut (behind ++ ['\\', c]) ahead) := by
  have kind := plain_kind_backslash (Table.lawful_backslash lawful)
  have taken : read t (cut behind ('\\' :: c :: ahead)) =
      ⟨.ok (.plain (.literal .char) (String.singleton c)), cut (behind ++ ['\\', c]) ahead, .escaped⟩ :=
    read_halts (.escaped ahead kind (unknown_selector unknown) (unknown_shorthand lawful unknown)
      (unknown_negated unknown)) behind
  refine .token (by rw [taken]) nofun ?_
  rw [taken]
  exact .none _

theorem repaired_passes (lawful : t.Lawful) (u v : List Char) (ts : List Token) {c : Char}
    (failed : sequence t (.ofList (u ++ c :: v)) = ts.map .ok ++ [.error (.unknownCharacter c u.length)]) :
    Passes t (.ofList (u ++ '\\' :: c :: v)) (ts ++ [.plain (.literal .char) (String.singleton c)])
      (cut (u ++ ['\\', c]) v) := by
  obtain ⟨unknown, before⟩ := passes_before lawful [] u v ts failed
  exact passes_append (before ('\\' :: c :: v)) (escaped_passes lawful unknown u v)

end Scan

namespace Lexer

theorem open_passes {l : Lexer} (open' : l.Open) {ks : List Token} {tape : Tape Char}
    (passes : Scan.Passes l.table l.tape ks tape) :
    l.answers (List.replicate ks.length .token) = ks.map (fun k => (.token, some (.ok k))) ∧
      (l.after (List.replicate ks.length .token)).Open ∧
      (l.after (List.replicate ks.length .token)).tape = tape := by
  induction ks generalizing l with
  | nil =>
      cases passes with
      | none => exact ⟨rfl, open', rfl⟩
  | cons k ks ih =>
      cases passes with
      | token came more onward =>
          have next := next_token_ok open'.going came more
          have still : l.nextToken.lexer.Open := by
            rw [next]
            exact ⟨rfl, open'.unfailed⟩
          have rest : Scan.Passes l.nextToken.lexer.table l.nextToken.lexer.tape ks tape := by rwa [next]
          obtain ⟨answers, after⟩ := ih still rest
          refine ⟨?_, after⟩
          rw [List.length_cons, List.replicate_succ, Lexer.answers, List.map_cons]
          exact congrArg₂ List.cons (by rw [call, next]) answers

theorem shifted_of_open {l : Lexer} (open' : l.Open) (coherent : l.Coherent) (p : LexingPreferences)
    {behind ahead : List Char} (tape : l.tape = .cut behind ahead) :
    Shifted behind False l (ofTape l.table p (.ofList ahead)) := by
  have start : l.state = .start := by
    have going := open'.going
    rcases coherent.resting with start | done | failed
    · exact start
    · rw [done] at going
      cases going
    · rw [failed] at going
      cases going
  refine ⟨rfl, ?_, start, open'.unfailed, ⟨[], ahead, .inl rfl⟩, nofun⟩
  rw [tape]
  simp [ofTape, Tape.list_tape_cut]

end Lexer

theorem escape_repairs_unknown {bs : List Binding} {t : Table} (accepted : Table.ofBindings bs = .ok t)
    (p p' p'' : LexingPreferences) (u v : List Char) (c : Char) (ts : List Token)
    (failed : (Lexer.ofTape t p (.ofList (u ++ c :: v))).collect.1 =
      ts.map .ok ++ [.error (.unknownCharacter c u.length)]) :
    let repaired := Lexer.ofTape t p' (.ofList (u ++ '\\' :: c :: v))
    let alone := Lexer.ofTape t p'' (.ofList v)
    let emitted := ts ++ [.plain (.literal .char) (String.singleton c)]
    repaired.collect.1 = emitted.map .ok ++ alone.collect.1.map (later (u.length + 2)) ∧
      repaired.answers (List.replicate emitted.length .token) = emitted.map (fun k => (.token, some (.ok k))) ∧
      ∀ calls, (repaired.after (List.replicate emitted.length .token)).answers calls =
        (alone.answers calls).map (fun (c, a) => (c, a.later (u.length + 2))) := by
  intro repaired alone emitted
  rw [Lexer.collect_sequence rfl] at failed
  have passes := Scan.repaired_passes (Table.lawful_of_bindings accepted) u v ts failed
  have open' := Lexer.of_tape_open t p' (.ofList (u ++ '\\' :: c :: v))
  obtain ⟨answers, still, tape⟩ := Lexer.open_passes open' passes
  have places : (u ++ ['\\', c]).length = u.length + 2 := List.length_append
  refine ⟨?_, answers, fun calls => ?_⟩
  · have fresh : (Tape.cut [] v).Stands [] v := .inl rfl
    have back := Scan.sequence_preceded (t := t) fresh (u ++ ['\\', c])
    rw [Tape.cut_preceded, List.append_nil, places] at back
    rw [Lexer.collect_sequence rfl, Lexer.collect_sequence rfl]
    exact (Scan.passes_sequence passes).trans (congrArg _ back)
  · have coherent := Lexer.coherent_after (Lexer.coherent_of_tape t p' (.ofList (u ++ '\\' :: c :: v)))
      (List.replicate emitted.length .token)
    have shifted := Lexer.shifted_of_open still coherent p'' tape
    rw [Lexer.after_table] at shifted
    rw [← places]
    exact (Lexer.shifted_after shifted (Lexer.coherent_of_tape t p'' _) calls).1

theorem escape_repairs_unknown_currency :
    let bs : List Binding := [⟨.property .currencySymbol, "€"⟩]
    let t := ({} : Table).insert ⟨.property .currencySymbol, "€"⟩
    let ts : List Token := [.escape (.property .x) "X" false, .plain (.literal .char) "X"]
    Table.ofBindings bs = .ok t ∧
      (Lexer.ofTape t {} (.ofList "\\X€1€".toList)).collect.1 =
        ts.map .ok ++ [.error (.unknownCharacter '€' 2)] ∧
      (Lexer.ofTape t {} (.ofList "\\X\\€1€".toList)).collect.1 =
        ts.map .ok ++ [.ok (.plain (.literal .char) "€"), .ok (.plain (.literal .integer) "1"),
          .error (.unknownCharacter '€' 5)] := by
  intro bs t ts
  have accepted : Table.ofBindings bs = .ok t := by decide +kernel
  have failed : (Lexer.ofTape t {} (.ofList "\\X€1€".toList)).collect.1 =
      ts.map .ok ++ [.error (.unknownCharacter '€' 2)] := by decide +kernel
  have alone : (Lexer.ofTape t {} (.ofList "1€".toList)).collect.1 =
      [.ok (.plain (.literal .integer) "1"), .error (.unknownCharacter '€' 1)] := by decide +kernel
  obtain ⟨repaired, -⟩ := escape_repairs_unknown accepted {} {} {} "\\X".toList "1€".toList '€' ts failed
  exact ⟨accepted, failed, repaired.trans (by rw [alone]; rfl)⟩

end PatternLexer
