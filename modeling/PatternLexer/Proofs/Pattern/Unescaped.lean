import PatternLexer.Proofs.Pattern.Splitting

set_option autoImplicit false

namespace PatternLexer

open Scan Tape

-- A character that is a token by itself, whatever stands around it.
def Single (t : Table) (c : Char) : Prop :=
  (∃ k, t.kindOfChar? c = some k ∧ k.isDirect = true) ∨ c.isDigit = true ∨ c.isAlpha = true ∨ c ∈ blanks

def ownKind (t : Table) (c : Char) : Kind :=
  match (t.kindOfChar? c).filter Kind.isDirect with
  | some k => k
  | none => if c.isDigit then .literal .integer else .literal .char

def ownToken (t : Table) (c : Char) : Token := .plain (ownKind t c) (String.singleton c)

variable {t : Table} {c : Char}

theorem single_unbound (single : Single t c) (free : (t.kindOfChar? c).filter Kind.isDirect = none) :
    c.isDigit = true ∨ c.isAlpha = true ∨ c ∈ blanks := by
  rcases single with ⟨k, bound, direct⟩ | literal
  · simp [bound, Option.filter, direct] at free
  · exact literal

theorem single_kind (single : Single t c) : plainKind? t c = some (ownKind t c) := by
  unfold plainKind? ownKind
  cases direct : (t.kindOfChar? c).filter Kind.isDirect with
  | some k => rfl
  | none =>
      rcases single_unbound single direct with digit | letter | blank
      · simp [digit]
      · by_cases digit : c.isDigit = true <;> simp [digit, letter]
      · by_cases digit : c.isDigit = true <;> simp [digit, (is_blank_iff c).mpr blank]

theorem kind_single {k : Kind} (kind : plainKind? t c = some k) : Single t c := by
  unfold plainKind? at kind
  split at kind
  · rename_i k direct
    exact .inl ⟨k, Option.filter_eq_some_iff.mp direct⟩
  · split at kind
    · rename_i digit
      exact .inr (.inl digit)
    · split at kind
      · rename_i literal
        rw [Bool.or_eq_true, is_blank_iff] at literal
        exact .inr (.inr literal)
      · cases kind

theorem single_read (single : Single t c) (behind ahead : List Char) :
    read t (cut behind (c :: ahead)) = ⟨.ok (ownToken t c), cut (behind ++ [c]) ahead, .start⟩ :=
  read_halts (.plain ahead (single_kind single)) behind

theorem stranger_read (stranger : ¬ Single t c) (other : c ≠ '\\') (behind ahead : List Char) :
    (read t (cut behind (c :: ahead))).result = .error (.unknownCharacter c behind.length) := by
  have kind : plainKind? t c = none := by
    cases kind : plainKind? t c with
    | none => rfl
    | some k => exact absurd (kind_single kind) stranger
  have halted := congrArg Scan.result (read_halts (.unknown ahead kind other) behind)
  rwa [cut_position] at halted

theorem singles_sequence {text : List Char} (singles : ∀ c ∈ text, Single t c) (behind ahead : List Char) :
    sequence t (cut behind (text ++ ahead)) =
      (text.map (ownToken t)).map .ok ++ sequence t (cut (behind ++ text) ahead) := by
  induction text generalizing behind with
  | nil => simp
  | cons c text ih =>
      rw [List.forall_mem_cons] at singles
      have read := single_read singles.1 behind (text ++ ahead)
      rw [List.cons_append, sequence_token (congrArg Scan.result read) nofun, read, ih singles.2]
      simp

theorem stranger_sequence (stranger : ¬ Single t c) (other : c ≠ '\\') {text : List Char}
    (singles : ∀ b ∈ text, Single t b) (ahead : List Char) :
    sequence t (.ofList (text ++ c :: ahead)) =
      (text.map (ownToken t)).map .ok ++ [.error (.unknownCharacter c text.length)] := by
  rw [list_tape_cut, singles_sequence singles, List.nil_append,
    sequence_error (stranger_read stranger other text ahead)]

theorem first_stranger {text : List Char} (mixed : ¬ ∀ c ∈ text, Single t c) :
    ∃ behind c ahead, text = behind ++ c :: ahead ∧ (∀ b ∈ behind, Single t b) ∧ ¬ Single t c := by
  induction text with
  | nil => exact absurd nofun mixed
  | cons c text ih =>
      by_cases single : Single t c
      · have later : ¬ ∀ c ∈ text, Single t c := fun all => mixed (List.forall_mem_cons.mpr ⟨single, all⟩)
        obtain ⟨behind, d, ahead, rfl, singles, stranger⟩ := ih later
        exact ⟨c :: behind, d, ahead, rfl, List.forall_mem_cons.mpr ⟨single, singles⟩, stranger⟩
      · exact ⟨[], c, text, rfl, nofun, single⟩

def ownStream (t : Table) (text : List Char) : TokenStream := .ofList (text.map (ownToken t) ++ [.finish])

theorem own_lexemes (t : Table) (text : List Char) : (ownStream t text).lexemes = String.ofList text := by
  refine String.toList_inj.mp ?_
  rw [TokenStream.lexemes, String.toList_join, String.toList_ofList]
  simp [ownStream, toList, Tape.ofList, Token.lexeme, ownToken, List.flatMap_map]

theorem own_kinds (t : Table) (text : List Char) : (ownStream t text).kinds = text.map (ownKind t) := by
  simp [TokenStream.kinds, ownStream, toList, Tape.ofList, Token.kind?, ownToken, List.filterMap_map, Function.comp_def]

theorem own_terminated (t : Table) (text : List Char) : (ownStream t text).isTerminated = true := by
  simp [TokenStream.isTerminated, ownStream, toList, Tape.ofList, Token.isFinish]

theorem unescaped_tokens (t : Table) (p : LexingPreferences) {pattern : String} (short : pattern.length ≤ patternLimit)
    (unescaped : '\\' ∉ pattern.toList) :
    ((∀ c ∈ pattern.toList, Single t c) → ∃ stream : TokenStream, (tokenize t p pattern).1 = .ok stream ∧
      stream.toList = (pattern.toList.map fun c => .plain (ownKind t c) (String.singleton c)) ++ [.finish] ∧
      stream.isTerminated = true ∧ stream.lexemes = pattern ∧
      stream.kinds = pattern.toList.map (ownKind t) ∧ stream.kinds.length = pattern.length) ∧
    ((¬ ∀ c ∈ pattern.toList, Single t c) → ∃ behind c ahead, pattern.toList = behind ++ c :: ahead ∧
      (∀ b ∈ behind, Single t b) ∧ ¬ Single t c ∧
      (tokenize t p pattern).1 = .error (.unknownCharacter c behind.length)) := by
  constructor
  · intro singles
    have tokens := singles_sequence singles [] []
    rw [List.append_nil, sequence_finish (read_nothing (.inl rfl)), List.append_nil] at tokens
    refine ⟨ownStream t pattern.toList, (tokenize_ok_iff t p pattern _).mpr ⟨short, _, tokens, rfl⟩, rfl,
      own_terminated t _, ?_, own_kinds t _, ?_⟩
    · rw [own_lexemes, String.ofList_toList]
    · rw [own_kinds, List.length_map, String.length_toList]
  · intro mixed
    obtain ⟨behind, c, ahead, text, singles, stranger⟩ := first_stranger mixed
    have other : c ≠ '\\' := by
      rintro rfl
      exact unescaped (by simp [text])
    have failed := stranger_sequence stranger other singles ahead
    rw [← text] at failed
    exact ⟨behind, c, ahead, text, singles, stranger,
      (tokenize_error_iff t p pattern _).mpr (.inr ⟨short, _, failed⟩)⟩

theorem unescaped_tokens_signs :
    let t := ((({} : Table).insert ⟨.symbol .star, " "⟩).insert ⟨.shorthand .digit, "d"⟩).insert ⟨.property .latin, "€"⟩
    '\\' ∉ "7 d".toList ∧ "7 d".length ≤ patternLimit ∧ (∀ c ∈ "7 d".toList, Single t c) ∧
      (∃ stream : TokenStream, (tokenize t {} "7 d").1 = .ok stream ∧ stream.isTerminated = true ∧
        stream.lexemes = "7 d" ∧ stream.kinds = [.literal .integer, .symbol .star, .literal .char]) ∧
      '\\' ∉ "d€d".toList ∧ (¬ ∀ c ∈ "d€d".toList, Single t c) ∧
      (tokenize t {} "d€d").1 = .error (.unknownCharacter '€' 1) ∧
      ∃ behind c ahead, "d€d".toList = behind ++ c :: ahead ∧ (∀ b ∈ behind, Single t b) ∧ ¬ Single t c ∧
        (tokenize t {} "d€d").1 = .error (.unknownCharacter c behind.length) := by
  intro t
  have singles : ∀ c ∈ "7 d".toList, Single t c := by simp [Single, blanks]
  have kinds : "7 d".toList.map (ownKind t) = [.literal .integer, .symbol .star, .literal .char] := by decide +kernel
  have stranger : ¬ ∀ c ∈ "d€d".toList, Single t c := by
    intro all
    have kind := single_kind (all '€' (by decide))
    have none : plainKind? t '€' = none := by decide +kernel
    cases none.symm.trans kind
  obtain ⟨stream, read, -, terminated, lexemes, own, -⟩ := (unescaped_tokens t {} (by decide) (by decide)).1 singles
  exact ⟨by decide, by decide, singles, ⟨stream, read, terminated, lexemes, own.trans kinds⟩, by decide, stranger,
    by decide +kernel, (unescaped_tokens t {} (by decide) (by decide)).2 stranger⟩

end PatternLexer
