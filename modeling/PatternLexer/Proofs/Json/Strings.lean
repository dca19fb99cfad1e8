import PatternLexer.Json.Parser
import PatternLexer.Proofs.Json.Spelling

set_option autoImplicit false

namespace PatternLexer.Json

open Reader

-- The ways to write a character of a string: as it is, as a letter, by its number, or by the halves of a pair.
inductive Written (c : Char) : List Char → Prop where
  | plain (quote : c ≠ '"') (back : c ≠ '\\') (shown : 0x20 ≤ c.toNat) : Written c [c]
  | letter {x : Char} (short : unescape? x = some c) : Written c ['\\', x]
  | number {u₁ u₂ u₃ u₄ : Char} (unit : hex4? u₁ u₂ u₃ u₄ = some c.toNat) : Written c ['\\', 'u', u₁, u₂, u₃, u₄]
  | halves {u₁ u₂ u₃ u₄ v₁ v₂ v₃ v₄ : Char} {high low : Nat} (first : hex4? u₁ u₂ u₃ u₄ = some high)
      (second : hex4? v₁ v₂ v₃ v₄ = some low) (isHigh : 0xd800 ≤ high ∧ high < 0xdc00)
      (isLow : 0xdc00 ≤ low ∧ low < 0xe000) (pair : c.toNat = 0x10000 + (high - 0xd800) * 0x400 + (low - 0xdc00)) :
      Written c ['\\', 'u', u₁, u₂, u₃, u₄, '\\', 'u', v₁, v₂, v₃, v₄]

inductive WrittenAll : List Char → List Char → Prop where
  | nil : WrittenAll [] []
  | cons {c : Char} {cs part rest : List Char} (first : Written c part) (others : WrittenAll cs rest) :
      WrittenAll (c :: cs) (part ++ rest)

inductive Quoted (s : String) : List Char → Prop where
  | quotes {inner : List Char} (written : WrittenAll s.toList inner) : Quoted s ('"' :: (inner ++ ['"']))

variable {s : String} {c : Char} {cs r : List Char} {d : Draft}

theorem hex_value_bound {c : Char} {n : Nat} (value : hexValue? c = some n) : n < 16 := by
  have nine : ('9' : Char).toNat = 57 := rfl
  have small : ('f' : Char).toNat = 102 := rfl
  have capital : ('F' : Char).toNat = 70 := rfl
  have digit : ('0' : Char).toNat = 48 := rfl
  have small' : ('a' : Char).toNat = 97 := rfl
  have capital' : ('A' : Char).toNat = 65 := rfl
  unfold hexValue? at value
  simp only [Char.le_def, UInt32.le_iff_toNat_le, Char.toNat_val] at value
  split at value
  · obtain rfl := Option.some.inj value
    omega
  · split at value
    · obtain rfl := Option.some.inj value
      omega
    · split at value
      · obtain rfl := Option.some.inj value
        omega
      · cases value

theorem hex_bound {u₁ u₂ u₃ u₄ : Char} {n : Nat} (unit : hex4? u₁ u₂ u₃ u₄ = some n) : n < 0x10000 := by
  unfold hex4? at unit
  split at unit
  · rename_i a b c d first second third fourth
    have bound₁ := hex_value_bound first
    have bound₂ := hex_value_bound second
    have bound₃ := hex_value_bound third
    have bound₄ := hex_value_bound fourth
    simp only [Option.some.injEq] at unit
    omega
  · cases unit

theorem high_half_iff (n : Nat) : isHighHalf n = true ↔ 0xd800 ≤ n ∧ n < 0xdc00 := by simp [isHighHalf]

theorem low_half_iff (n : Nat) : isLowHalf n = true ↔ 0xdc00 ≤ n ∧ n < 0xe000 := by simp [isLowHalf]

theorem char_number {n : Nat} (valid : n.isValidChar) : (Char.ofNat n).toNat = n := by
  rw [Char.ofNat, dif_pos valid]
  rfl

theorem char_whole (c : Char) : isHighHalf c.toNat = false ∧ isLowHalf c.toNat = false := by
  have valid : c.toNat < 0xd800 ∨ 0xdfff < c.toNat ∧ c.toNat < 0x110000 := c.valid
  simp only [isHighHalf, isLowHalf, Bool.and_eq_false_iff, decide_eq_false_iff_not]
  omega

theorem join_halves {high low : Nat} (isHigh : isHighHalf high = true) (isLow : isLowHalf low = true) :
    (joinHalves high low).toNat = 0x10000 + (high - 0xd800) * 0x400 + (low - 0xdc00) := by
  rw [high_half_iff] at isHigh
  rw [low_half_iff] at isLow
  refine char_number ?_
  unfold Nat.isValidChar
  omega

theorem tail_short (d : Draft) {x : Char} (r : List Char) (short : unescape? x = some c) :
    stringTail? d ('\\' :: x :: r) = stringTail? (d.char c) r := by
  have other : x ≠ 'u' := by
    rintro rfl
    cases short
  rw [stringTail?.eq_4 d x r (fun _ _ _ _ _ same => absurd same other), short]

theorem tail_raw (d : Draft) (r : List Char) (quote : c ≠ '"') (back : c ≠ '\\') (shown : 0x20 ≤ c.toNat) :
    stringTail? d (c :: r) = stringTail? (d.char c) r := by
  rw [stringTail?.eq_5 d c r quote (fun _ _ _ _ _ same => absurd same back) (fun _ _ same => absurd same back),
    if_neg (Nat.not_lt.mpr shown)]

theorem tail_unit (d : Draft) {u₁ u₂ u₃ u₄ : Char} {n : Nat} (unit : hex4? u₁ u₂ u₃ u₄ = some n) (r : List Char) :
    stringTail? d ('\\' :: 'u' :: u₁ :: u₂ :: u₃ :: u₄ :: r) = stringTail? (d.unit n) r := by
  rw [stringTail?, unit]

theorem unit_char {d : Draft} (waiting : d.high = none) (c : Char) : d.unit c.toNat = d.char c := by
  obtain ⟨high, low⟩ := char_whole c
  rw [Draft.unit, waiting]
  simp only [high, low, Bool.false_eq_true, if_false, Char.ofNat_toNat]

theorem unit_halves {d : Draft} (waiting : d.high = none) {high low : Nat} (isHigh : 0xd800 ≤ high ∧ high < 0xdc00)
    (isLow : 0xdc00 ≤ low ∧ low < 0xe000) (pair : c.toNat = 0x10000 + (high - 0xd800) * 0x400 + (low - 0xdc00)) :
    (d.unit high).unit low = d.char c := by
  have first : isHighHalf high = true := (high_half_iff high).mpr isHigh
  have second : isLowHalf low = true := (low_half_iff low).mpr isLow
  have joined : joinHalves high low = c := by rw [joinHalves, ← pair, Char.ofNat_toNat]
  have opened : d.unit high = { d with high := some high } := by
    rw [Draft.unit, waiting]
    simp only [first, if_true]
  rw [opened, Draft.unit]
  simp only [second, if_true, joined, Draft.char, waiting, Option.isNone_none, Bool.and_true]

theorem written_tail {d : Draft} (waiting : d.high = none) (written : Written c cs) (r : List Char) :
    stringTail? d (cs ++ r) = stringTail? (d.char c) r := by
  cases written with
  | plain quote back shown => exact tail_raw d r quote back shown
  | letter short => exact tail_short d r short
  | number unit =>
      rw [← unit_char waiting c]
      exact tail_unit d unit r
  | halves first second isHigh isLow pair =>
      rw [← unit_halves waiting isHigh isLow pair]
      exact (tail_unit d first _).trans (tail_unit _ second r)

theorem written_all_tail (written : WrittenAll cs r) (taken rest : List Char) :
    stringTail? ⟨taken, none, true⟩ (r ++ '"' :: rest) = some (some (String.ofList (taken.reverse ++ cs)), rest) := by
  induction written generalizing taken with
  | nil =>
      rw [List.nil_append, List.append_nil, stringTail?]
      rfl
  | @cons c cs part others first _ ih =>
      have onward : Draft.char ⟨taken, none, true⟩ c = ⟨c :: taken, none, true⟩ := rfl
      rw [List.append_assoc, written_tail rfl first, onward, ih, List.reverse_cons, List.append_assoc,
        List.singleton_append]

theorem quoted_tail (quoted : Quoted s cs) :
    ∃ inner, cs = '"' :: inner ∧ ∀ rest, stringTail? {} (inner ++ rest) = some (some s, rest) := by
  obtain ⟨written⟩ := quoted
  refine ⟨_, rfl, fun rest => ?_⟩
  have read := written_all_tail written [] rest
  rw [List.reverse_nil, List.nil_append, String.ofList_toList] at read
  rw [List.append_assoc]
  exact read

theorem hex_control : ∀ n < 0x20, hex4? '0' '0' (hexDigit (n / 16)) (hexDigit n) = some n := by
  decide +kernel

theorem escape_cases (c : Char) :
    (∃ x, unescape? x = some c ∧ (escape c).toList = ['\\', x]) ∨
      (c.toNat < 0x20 ∧
        (escape c).toList = ['\\', 'u', '0', '0', hexDigit (c.toNat / 16), hexDigit c.toNat]) ∨
      (c ≠ '"' ∧ c ≠ '\\' ∧ ¬ c.toNat < 0x20 ∧ (escape c).toList = [c]) := by
  by_cases quote : c = '"'
  · exact .inl ⟨'"', by rw [quote]; rfl, by simp [escape, quote]⟩
  by_cases back : c = '\\'
  · exact .inl ⟨'\\', by rw [back]; rfl, by simp [escape, back]⟩
  by_cases backspace : c = '\x08'
  · exact .inl ⟨'b', by rw [backspace]; rfl, by simp [escape, backspace]⟩
  by_cases feed : c = '\x0c'
  · exact .inl ⟨'f', by rw [feed]; rfl, by simp [escape, feed]⟩
  by_cases line : c = '\n'
  · exact .inl ⟨'n', by rw [line]; rfl, by simp [escape, line]⟩
  by_cases carriage : c = '\r'
  · exact .inl ⟨'r', by rw [carriage]; rfl, by simp [escape, carriage]⟩
  by_cases tab : c = '\t'
  · exact .inl ⟨'t', by rw [tab]; rfl, by simp [escape, tab]⟩
  by_cases control : c.toNat < 0x20
  · refine .inr (.inl ⟨control, ?_⟩)
    simp [escape, quote, back, backspace, feed, line, carriage, tab, control]
  · refine .inr (.inr ⟨quote, back, control, ?_⟩)
    simp [escape, quote, back, backspace, feed, line, carriage, tab, control]

theorem escape_written (c : Char) : Written c (escape c).toList := by
  rcases escape_cases c with ⟨x, short, spelled⟩ | ⟨control, spelled⟩ | ⟨quote, back, shown, spelled⟩
  · exact spelled ▸ .letter short
  · exact spelled ▸ .number (hex_control _ control)
  · exact spelled ▸ .plain quote back (Nat.not_lt.mp shown)

theorem string_written (s : String) : Quoted s (spellString (some s)) := by
  have all (cs : List Char) : WrittenAll cs (cs.flatMap fun c => (escape c).toList) := by
    induction cs with
    | nil => exact .nil
    | cons c cs ih => exact .cons (escape_written c) ih
  exact .quotes (all s.toList)

theorem string_spell (s : String) (rest : List Char) :
    stringTail? {} ((s.toList.flatMap fun c => (escape c).toList) ++ '"' :: rest) = some (some s, rest) := by
  obtain ⟨inner, spelled, read⟩ := quoted_tail (string_written s)
  rw [spellString, List.cons_append, List.cons.injEq] at spelled
  obtain ⟨-, rfl⟩ := spelled
  rw [← read rest, List.append_assoc, List.singleton_append]

theorem unit_cases (d : Draft) {n : Nat} (bound : n < 0x10000) :
    (d.unit n).paired = false ∨
      (∃ high, d.high = some high ∧ isLowHalf n = true ∧
        d.unit n = { taken := joinHalves high n :: d.taken, paired := d.paired }) ∨
      (d.high = none ∧ isHighHalf n = true ∧ d.unit n = { d with high := some n }) ∨
      (d.high = none ∧ ∃ c : Char, c.toNat = n ∧ d.unit n = d.char c) := by
  cases waits : d.high with
  | some high =>
      by_cases low : isLowHalf n = true
      · exact .inr (.inl ⟨high, rfl, low, by simp only [Draft.unit, waits, low, if_true]⟩)
      · refine .inl ?_
        simp only [Draft.unit, waits, if_neg low]
        -- The half that waits is not met by a low one, and the draft keeps a mark of that.
        split <;> simp [Draft.char, waits]
  | none =>
      by_cases high : isHighHalf n = true
      · exact .inr (.inr (.inl ⟨rfl, high, by simp only [Draft.unit, waits, high, if_true]⟩))
      · by_cases low : isLowHalf n = true
        · exact .inl (by simp [Draft.unit, waits, high, low])
        · have whole : n.isValidChar := by
            rw [high_half_iff] at high
            rw [low_half_iff] at low
            unfold Nat.isValidChar
            omega
          refine .inr (.inr (.inr ⟨rfl, _, char_number whole, ?_⟩))
          simp [Draft.unit, waits, high, low]

theorem unit_unpaired (unpaired : d.paired = false) (n : Nat) : (d.unit n).paired = false := by
  unfold Draft.unit
  split <;> repeat' split
  all_goals simp [Draft.char, unpaired]

theorem unpaired_tail (d : Draft) (unpaired : d.paired = false) (cs : List Char) :
    stringTail? d cs ≠ some (some s, r) := by
  fun_induction stringTail? d cs with
  | case1 d => nofun
  | case2 d cs => simp [Draft.text, unpaired]
  | case3 d u₁ u₂ u₃ u₄ cs n unit ih => exact ih (unit_unpaired unpaired n)
  | case5 d c cs other x short ih => exact ih (by simp [Draft.char, unpaired])
  | case8 d c cs quote unit back shown ih => exact ih (by simp [Draft.char, unpaired])
  | _ => nofun

inductive Completes (d : Draft) : List Char → List Char → Prop where
  | whole {chars inner : List Char} (closed : d.high = none) (written : WrittenAll chars inner) :
      Completes d chars inner
  | half {high low : Nat} {v₁ v₂ v₃ v₄ : Char} {chars inner : List Char} (waits : d.high = some high)
      (second : hex4? v₁ v₂ v₃ v₄ = some low) (isLow : isLowHalf low = true) (written : WrittenAll chars inner) :
      Completes d (joinHalves high low :: chars) ('\\' :: 'u' :: v₁ :: v₂ :: v₃ :: v₄ :: inner)

-- The text goes on with what makes the draft the string, and with the quote that ends it.
def Ended (s : String) (r : List Char) (d : Draft) (cs : List Char) : Prop :=
  ∃ chars inner, Completes d chars inner ∧ s = String.ofList (d.taken.reverse ++ chars) ∧ cs = inner ++ '"' :: r

theorem ended_closed (closed : d.high = none) (ended : Ended s r d cs) :
    ∃ chars inner, WrittenAll chars inner ∧ s = String.ofList (d.taken.reverse ++ chars) ∧ cs = inner ++ '"' :: r := by
  obtain ⟨chars, inner, completes, text, rest⟩ := ended
  cases completes with
  | whole _ written => exact ⟨chars, inner, written, text, rest⟩
  | half waits => cases closed.symm.trans waits

theorem ended_char {c : Char} {part : List Char} (closed : d.high = none) (written : Written c part)
    (ended : Ended s r (d.char c) cs) : Ended s r d (part ++ cs) := by
  obtain ⟨chars, inner, others, text, rfl⟩ := ended_closed rfl ended
  refine ⟨c :: chars, part ++ inner, .whole closed (.cons written others), ?_, by rw [List.append_assoc]⟩
  rw [text, Draft.char, List.reverse_cons, List.append_assoc, List.singleton_append]

theorem ended_joined {high low : Nat} {v₁ v₂ v₃ v₄ : Char} (waits : d.high = some high)
    (second : hex4? v₁ v₂ v₃ v₄ = some low) (isLow : isLowHalf low = true)
    (ended : Ended s r { taken := joinHalves high low :: d.taken, paired := d.paired } cs) :
    Ended s r d ('\\' :: 'u' :: v₁ :: v₂ :: v₃ :: v₄ :: cs) := by
  obtain ⟨chars, inner, others, text, rfl⟩ := ended_closed rfl ended
  refine ⟨_, _, .half waits second isLow others, ?_, rfl⟩
  rw [text, List.reverse_cons, List.append_assoc, List.singleton_append]

theorem ended_opened {high : Nat} {u₁ u₂ u₃ u₄ : Char} (closed : d.high = none)
    (first : hex4? u₁ u₂ u₃ u₄ = some high) (isHigh : isHighHalf high = true)
    (ended : Ended s r { d with high := some high } cs) : Ended s r d ('\\' :: 'u' :: u₁ :: u₂ :: u₃ :: u₄ :: cs) := by
  obtain ⟨-, -, ⟨⟨⟩, -⟩ | ⟨⟨rfl⟩, second, isLow, others⟩, text, rfl⟩ := ended
  have pair := Written.halves first second ((high_half_iff _).mp isHigh) ((low_half_iff _).mp isLow)
    (join_halves isHigh isLow)
  exact ⟨_, _, .whole closed (.cons pair others), text, rfl⟩

theorem char_closed {c : Char} (read : stringTail? (d.char c) cs = some (some s, r)) : d.high = none := by
  cases waits : d.high with
  | none => rfl
  | some high => exact absurd read (unpaired_tail _ (by simp [Draft.char, waits]) cs)

theorem tail_ended (d : Draft) (cs : List Char) (read : stringTail? d cs = some (some s, r)) : Ended s r d cs := by
  -- The draft changes with every step, so the induction is on the steps of the reader.
  fun_induction stringTail? d cs with
  | case2 d cs =>
      obtain ⟨text, rfl⟩ := Prod.mk.inj (Option.some.inj read)
      unfold Draft.text at text
      split at text
      · rename_i closed
        obtain rfl := Option.some.inj text
        simp only [Bool.and_eq_true, Option.isNone_iff_eq_none] at closed
        exact ⟨[], [], .whole closed.2 .nil, by rw [List.append_nil], rfl⟩
      · cases text
  | case3 d u₁ u₂ u₃ u₄ cs n unit ih =>
      have onward := ih read
      rcases unit_cases d (hex_bound unit) with
        unpaired | ⟨high, waits, low, joined⟩ | ⟨closed, high, opened⟩ | ⟨closed, c, rfl, whole⟩
      · exact absurd read (unpaired_tail _ unpaired cs)
      · exact ended_joined waits unit low (joined ▸ onward)
      · exact ended_opened closed unit high (opened ▸ onward)
      · exact ended_char closed (.number unit) (whole ▸ onward)
  | case5 d c cs other x short ih => exact ended_char (char_closed read) (.letter short) (ih read)
  | case8 d c cs quote unit back shown ih =>
      -- A backslash at the end of the text would stand for itself, but then the string does not end.
      have plain : c ≠ '\\' := by
        rintro rfl
        cases cs with
        | nil => cases read
        | cons x cs => exact back x cs rfl rfl
      exact ended_char (char_closed read) (.plain quote plain (by omega)) (ih read)
  | _ => cases read

theorem tail_quoted (read : stringTail? {} cs = some (some s, r)) : ∃ q, Quoted s ('"' :: q) ∧ cs = q ++ r := by
  obtain ⟨chars, inner, written, rfl, rfl⟩ := ended_closed rfl (tail_ended {} cs read)
  refine ⟨inner ++ ['"'], .quotes ?_, by simp⟩
  rw [String.toList_ofList]
  exact written

end PatternLexer.Json
