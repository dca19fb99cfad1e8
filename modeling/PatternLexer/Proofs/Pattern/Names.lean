import PatternLexer.Proofs.Pattern.Splitting

set_option autoImplicit false

namespace PatternLexer

open Scan Tape

def spelled (m : Char) (hat : Bool) (name : String) : String :=
  String.ofList ('\\' :: m :: '\x7b' :: hatted hat (name.toList ++ ['\x7d']))

variable {t : Table}

theorem braces_read (kind : plainKind? t '\\' = none) {m : Char} (marker : Marker m) {text : List Char}
    (closed : '\x7d' ∈ text) {k : Token}
    (came : (read t (.ofList ('\\' :: m :: '\x7b' :: text))).result = .ok k) :
    ∃ hat name ahead, text = hatted hat (name ++ '\x7d' :: ahead) ∧ '\x7d' ∉ name ∧ Bare hat name ∧
      k.lexeme = String.ofList name := by
  obtain ⟨hat, rest, rfl, bare⟩ := hatted_cases text
  have inside : '\x7d' ∈ rest := by
    cases hat with
    | false => exact closed
    | true => simpa [hatted] using closed
  obtain ⟨name, ahead, rfl, inner, front⟩ := closed_cases bare inside
  have halted := read_halts (t := t) (.name ahead kind marker front inner) []
  rw [← list_tape_cut] at halted
  have passed : '\\' :: m :: '\x7b' :: hatted hat (name ++ ['\x7d']) ++ ahead =
      '\\' :: m :: '\x7b' :: hatted hat (name ++ '\x7d' :: ahead) := by
    simp [hatted_append]
  rw [passed] at halted
  rw [halted] at came
  obtain ⟨found, -, rfl⟩ := looked_bound came
  exact ⟨hat, name, ahead, rfl, inner, front, rfl⟩

theorem spelled_readable (kind : plainKind? t '\\' = none) {m : Char} (marker : Marker m) {hat : Bool}
    {name : String} {k : Token} (came : (read t (.ofList (spelled m hat name).toList)).result = .ok k)
    (same : k.lexeme = name) : '\x7d' ∉ name.toList ∧ Bare hat name.toList := by
  have closed : '\x7d' ∈ hatted hat (name.toList ++ ['\x7d']) := by
    cases hat <;> simp [hatted]
  rw [spelled, String.toList_ofList] at came
  obtain ⟨hat', name', ahead, text, inner, bare, read⟩ := braces_read kind marker closed came
  obtain rfl : name.toList = name' := by rw [← same, read, String.toList_ofList]
  refine ⟨inner, ?_⟩
  intro plain
  cases hat' with
  | false => exact bare rfl
  | true =>
      have lengths := congrArg List.length text
      simp only [plain, hatted, Bool.false_eq_true, if_false, if_true, List.length_append, List.length_cons,
        List.length_nil] at lengths
      omega

-- A table admits any text as a name, but the first closing brace ends it and a circumflex in front negates.
theorem spelled_property_iff {bs : List Binding} {t : Table} (accepted : Table.ofBindings bs = .ok t)
    (preferences : LexingPreferences) {name : String} {p : Property} (bound : t.kindOf? name = some (.property p))
    {m : Char} (marker : Marker m) (hat : Bool) :
    (tokenize t preferences (spelled m hat name)).1 =
        .ok (.ofList [.escape (.property p) name (m == 'P' || hat), .finish]) ↔
      (spelled m hat name).length ≤ patternLimit ∧ '\x7d' ∉ name.toList ∧
        (hat = false → name.toList.head? ≠ some '^') := by
  have kind := plain_kind_backslash (Table.lawful_backslash (Table.lawful_of_bindings accepted))
  rw [tokenize_single_iff]
  refine and_congr_right fun _ => ⟨fun single => ?_, fun ⟨inner, bare⟩ => ?_⟩
  · obtain ⟨came, -, -⟩ := sequence_cons single
    exact spelled_readable kind marker came rfl
  · have finds := looked_finds (m == 'P' || hat) bound
    rw [← String.ofList_toList (s := name)] at finds
    rw [spelled, String.toList_ofList, sequence_single (.name [] kind marker bare inner) finds,
      String.ofList_toList]

theorem spelled_property_iff_circumflex :
    let bs : List Binding := [⟨.property .greek, "^c"⟩]
    let t := ({} : Table).insert ⟨.property .greek, "^c"⟩
    Table.ofBindings bs = .ok t ∧ t.kindOf? "^c" = some (.property .greek) ∧
      spelled 'p' true "^c" = "\\p\x7b^^c\x7d" ∧ spelled 'p' false "^c" = "\\p\x7b^c\x7d" ∧
      (tokenize t {} "\\p\x7b^^c\x7d").1 = .ok (.ofList [.escape (.property .greek) "^c" true, .finish]) ∧
      (tokenize t {} "\\p\x7b^c\x7d").1 ≠ .ok (.ofList [.escape (.property .greek) "^c" false, .finish]) := by
  intro bs t
  have accepted : Table.ofBindings bs = .ok t := by decide +kernel
  have bound : t.kindOf? "^c" = some (.property .greek) := by decide +kernel
  have marker : Marker 'p' := .inl rfl
  refine ⟨accepted, bound, rfl, rfl, ?_, ?_⟩
  · exact (spelled_property_iff accepted {} bound marker true).mpr ⟨by decide, by decide, nofun⟩
  · intro read
    obtain ⟨-, -, bare⟩ := (spelled_property_iff accepted {} bound marker false).mp read
    exact bare rfl rfl

theorem property_names_cut :
    let bs : List Binding := [⟨.property .greek, "a\x7db"⟩, ⟨.property .han, "^c"⟩]
    let t := (({} : Table).insert ⟨.property .greek, "a\x7db"⟩).insert ⟨.property .han, "^c"⟩
    Table.ofBindings bs = .ok t ∧ t.kindOf? "a\x7db" = some (.property .greek) ∧
      t.kindOf? "^c" = some (.property .han) ∧
      (tokenize t {} "\\p\x7ba\x7db\x7d").1 = .error (.unknownProperty "a" 4) ∧
      (tokenize t {} "\\p\x7b^a\x7db\x7d").1 = .error (.unknownProperty "a" 5) ∧
      (tokenize t {} "\\P\x7b^c\x7d").1 = .error (.unknownProperty "c" 5) ∧
      (∀ m hat name, patternLimit < (spelled m hat name).length →
        (tokenize t {} (spelled m hat name)).1 = .error (.patternTooLong (spelled m hat name).length)) ∧
      ¬ ∀ (name : String) (p : Property), t.kindOf? name = some (.property p) →
        (tokenize t {} (spelled 'p' false name)).1 = .ok (.ofList [.escape (.property p) name false, .finish]) ∧
        (tokenize t {} (spelled 'P' false name)).1 = .ok (.ofList [.escape (.property p) name true, .finish]) ∧
        (tokenize t {} (spelled 'p' true name)).1 = .ok (.ofList [.escape (.property p) name true, .finish]) ∧
        (tokenize t {} (spelled 'P' true name)).1 = .ok (.ofList [.escape (.property p) name true, .finish]) := by
  intro bs t
  have bound : t.kindOf? "a\x7db" = some (.property .greek) := by decide +kernel
  have cut : (tokenize t {} "\\p\x7ba\x7db\x7d").1 = .error (.unknownProperty "a" 4) := by decide +kernel
  refine ⟨by decide +kernel, bound, by decide +kernel, cut, by decide +kernel, by decide +kernel, ?_, ?_⟩
  · intro m hat name long
    exact (tokenize_error_iff _ _ _ _).mpr (.inl ⟨long, rfl⟩)
  intro readable
  obtain ⟨read, -⟩ := readable "a\x7db" .greek bound
  cases cut.symm.trans read

end PatternLexer
