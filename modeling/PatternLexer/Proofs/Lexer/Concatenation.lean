import PatternLexer.Proofs.Lexer.Calls

set_option autoImplicit false

namespace PatternLexer

theorem later_tokens (n : Nat) (ts : List Token) :
    (ts.map (Except.ok (ε := LexError))).map (later n) = ts.map .ok := by
  simp

theorem tape_after_tokens {l : Lexer} (open' : l.Open) (ts : List Token)
    (tokens : l.sequence = ts.map .ok) :
    (l.after (List.replicate ts.length .token)).tape = Scan.tapeAfter l.table l.tape ts.length := by
  induction ts generalizing l with
  | nil => rfl
  | cons k ts ih =>
      obtain ⟨-, still, rest, table, tape⟩ := Lexer.token_cons open' tokens
      have tail := ih still rest
      rw [table, tape] at tail
      exact tail

theorem sequence_append (t : Table) (preferences : LexingPreferences) (p q : List Char) (ts : List Token)
    (tokens : Scan.sequence t (.ofList p) = ts.map .ok)
    (inside : ((Lexer.ofTape t preferences (.ofList p)).after (List.replicate ts.length .token)).tape.cursor ≠
      p.length) :
    Scan.sequence t (.ofList (p ++ q)) = ts.map .ok ++ (Scan.sequence t (.ofList q)).map (later p.length) := by
  have reached := tape_after_tokens (Lexer.of_tape_open t preferences (.ofList p)) ts tokens
  rw [reached] at inside
  have front : Scan.sequence t (.cut [] (p ++ q)) = ts.map .ok ++ Scan.sequence t (.cut p q) :=
    Scan.sequence_followed [] p q ts tokens inside
  have fresh : (Tape.cut [] q).Stands [] q := .inl rfl
  have back := Scan.sequence_preceded (t := t) fresh p
  rw [Tape.cut_preceded, List.append_nil] at back
  rw [Tape.list_tape_cut, Tape.list_tape_cut, front, back]

theorem tokenize_append (t : Table) (preferences : LexingPreferences) (p q : String) (ts : List Token)
    (short : p.length + q.length ≤ patternLimit)
    (read : (tokenize t preferences p).1 = .ok (.ofList (ts ++ [.finish])))
    (inside : ((Lexer.ofTape t preferences (.ofList p.toList)).after
      (List.replicate ts.length .token)).tape.cursor ≠ p.length) :
    (∀ us, (tokenize t preferences q).1 = .ok (.ofList us) →
      (tokenize t preferences (p ++ q)).1 = .ok (.ofList (ts ++ us))) ∧
    ∀ e, (tokenize t preferences q).1 = .error e →
      (tokenize t preferences (p ++ q)).1 = .error (e.later p.length) := by
  have both : (p ++ q).length ≤ patternLimit := by rwa [String.length_append]
  obtain ⟨-, ts', tokens, same⟩ := (tokenize_ok_iff _ _ _ _).mp read
  obtain rfl : ts = ts' := by simpa [Tape.ofList] using same
  rw [← String.length_toList] at inside ⊢
  have joined := sequence_append t preferences p.toList q.toList ts tokens inside
  rw [← String.toList_append] at joined
  refine ⟨fun us readNext => ?_, fun e failNext => ?_⟩
  · obtain ⟨-, us', tokensNext, sameNext⟩ := (tokenize_ok_iff _ _ _ _).mp readNext
    obtain rfl : us = us' ++ [.finish] := by simpa [Tape.ofList] using sameNext
    refine (tokenize_ok_iff _ _ _ _).mpr ⟨both, ts ++ us', ?_, ?_⟩
    · rw [joined, tokensNext, later_tokens, List.map_append]
    · rw [List.append_assoc]
  · rcases (tokenize_error_iff _ _ _ _).mp failNext with ⟨long, -⟩ | ⟨-, us, tokensNext⟩
    · omega
    · refine (tokenize_error_iff _ _ _ _).mpr (.inr ⟨both, ts ++ us, ?_⟩)
      rw [joined, tokensNext, List.map_append, later_tokens, List.map_append, List.append_assoc]
      simp

theorem tokenize_append_cluster :
    (tokenize {} {} "\\X").1 =
        .ok (.ofList ([.escape (.property .x) "X" false, .plain (.literal .char) "X"] ++ [.finish])) ∧
      (tokenize {} {} "1").1 = .ok (.ofList [.plain (.literal .integer) "1", .finish]) ∧
      (tokenize {} {} "€").1 = .error (.unknownCharacter '€' 0) ∧
      (tokenize {} {} ("\\X" ++ "1")).1 =
        .ok (.ofList ([.escape (.property .x) "X" false, .plain (.literal .char) "X"] ++
          [.plain (.literal .integer) "1", .finish])) ∧
      (tokenize {} {} ("\\X" ++ "€")).1 = .error (.unknownCharacter '€' 2) := by
  have read : (tokenize {} {} "\\X").1 =
      .ok (.ofList ([.escape (.property .x) "X" false, .plain (.literal .char) "X"] ++ [.finish])) := by
    decide +kernel
  have digit : (tokenize {} {} "1").1 = .ok (.ofList [.plain (.literal .integer) "1", .finish]) := by
    decide +kernel
  have unknown : (tokenize {} {} "€").1 = .error (.unknownCharacter '€' 0) := by decide +kernel
  have joined := fun q short => tokenize_append {} {} "\\X" q _ short read (by decide +kernel)
  exact ⟨read, digit, unknown, (joined "1" (by decide)).1 _ digit, (joined "€" (by decide)).2 _ unknown⟩

end PatternLexer
