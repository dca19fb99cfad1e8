import PatternLexer.Proofs.Json.Strings

set_option autoImplicit false

namespace PatternLexer.Json

open Reader

-- No number goes on with this text.
def Ends (rest : List Char) : Prop :=
  ∀ c, rest.head? = some c → c.isDigit = false ∧ c ≠ '.' ∧ c ≠ 'e' ∧ c ≠ 'E'

theorem ends_nil : Ends [] := nofun

theorem ends_cons {c : Char} (rest : List Char) (other : c.isDigit = false ∧ c ≠ '.' ∧ c ≠ 'e' ∧ c ≠ 'E') :
    Ends (c :: rest) := by
  intro d first
  obtain rfl := Option.some.inj first
  exact other

theorem digits_value (n : Nat) : digitsValue (Nat.toDigits 10 n) = n := Nat.ofDigitChars_ten_toDigits

theorem digits_all {n : Nat} {c : Char} (member : c ∈ Nat.toDigits 10 n) : c.isDigit = true :=
  Nat.isDigit_of_mem_toDigits (by decide) (by decide) member

theorem digits_cons (n : Nat) : ∃ d ds, Nat.toDigits 10 n = d :: ds ∧ d.isDigit = true := by
  cases digits : Nat.toDigits 10 n with
  | nil => exact absurd digits Nat.toDigits_ne_nil
  | cons d ds => exact ⟨d, ds, rfl, digits_all (digits ▸ List.mem_cons_self)⟩

theorem leading_zero {n : Nat} {ds : List Char} (zero : Nat.toDigits 10 n = '0' :: ds) : ds = [] := by
  induction n using Nat.strongRecOn generalizing ds with
  | ind n ih =>
      by_cases small : n < 10
      · rw [Nat.toDigits_of_lt_base small] at zero
        exact (List.cons.inj zero).2.symm
      · obtain ⟨d, front, digits, -⟩ := digits_cons (n / 10)
        rw [Nat.toDigits_of_base_le (by decide) (Nat.le_of_not_lt small), digits] at zero
        obtain ⟨rfl, -⟩ := List.cons.inj zero
        obtain rfl := ih (n / 10) (by omega) digits
        have value := digits_value (n / 10)
        rw [digits] at value
        change 0 = n / 10 at value
        omega

theorem digits_read (n : Nat) {rest : List Char} (ends : Ends rest) :
    digits? (Nat.toDigits 10 n ++ rest) = some (Nat.toDigits 10 n, rest) := by
  obtain ⟨d, ds, digits, -⟩ := digits_cons n
  have all : ∀ c ∈ Nat.toDigits 10 n, c.isDigit = true := fun c => digits_all
  have taken : rest.takeWhile Char.isDigit = [] := by
    cases rest with
    | nil => rfl
    | cons c rest => rw [List.takeWhile_cons, (ends c rfl).1]; rfl
  have dropped : rest.dropWhile Char.isDigit = rest := by
    cases rest with
    | nil => rfl
    | cons c rest => rw [List.dropWhile_cons, (ends c rfl).1]; rfl
  rw [digits?, List.takeWhile_append_of_pos all, List.dropWhile_append_of_pos all, taken, dropped,
    List.append_nil, digits]

theorem whole_read (n : Nat) {rest : List Char} (ends : Ends rest) :
    wholePart? (Nat.toDigits 10 n ++ rest) = some (Nat.toDigits 10 n, rest) := by
  rw [wholePart?, digits_read n ends]
  split
  · rename_i d ds rest' found
    rw [Option.some.injEq, Prod.mk.injEq] at found
    cases leading_zero found.1
  · rfl

theorem fraction_ends {rest : List Char} (ends : Ends rest) : fraction? rest = some ([], rest) := by
  unfold fraction?
  split
  · exact absurd rfl (ends '.' rfl).2.1
  · rfl

theorem exponent_ends {rest : List Char} (ends : Ends rest) : exponent? rest = some ([], rest) := by
  unfold exponent?
  split
  · exact absurd rfl (ends 'e' rfl).2.2.1
  · exact absurd rfl (ends 'E' rfl).2.2.2
  · rfl

theorem spell_nat (m : Nat) : spell (int m) = Nat.toDigits 10 m := by
  rw [spell]
  exact Nat.toList_repr

theorem spell_negative (m : Nat) : spell (int (.negSucc m)) = '-' :: Nat.toDigits 10 (m + 1) := by
  rw [spell]
  simp [ToString.toString, Int.repr]

theorem number_spell (n : Int) {rest : List Char} (ends : Ends rest) :
    number? (spell (int n) ++ rest) = some (int n, rest) := by
  cases n with
  | ofNat m =>
      obtain ⟨d, ds, digits, digit⟩ := digits_cons m
      have unsigned : sign (Nat.toDigits 10 m ++ rest) = (false, Nat.toDigits 10 m ++ rest) := by
        rw [digits]
        unfold sign
        split
        · rename_i r minus
          obtain ⟨rfl, -⟩ := List.cons.inj minus
          cases digit
        · rfl
      change number? (spell (int (m : Int)) ++ rest) = _
      rw [spell_nat, number?, unsigned]
      simp only [whole_read m ends, fraction_ends ends, exponent_ends ends, List.append_nil, numberOf, digits_value]
      rfl
  | negSucc m =>
      have nonzero : Nat.toDigits 10 (m + 1) ≠ ['0'] := by
        intro zero
        have value := digits_value (m + 1)
        rw [zero] at value
        cases value
      rw [spell_negative, number?, List.cons_append, sign]
      simp only [whole_read (m + 1) ends, fraction_ends ends, exponent_ends ends, List.append_nil, numberOf,
        digits_value, beq_iff_eq, if_neg nonzero]
      rfl

theorem skip_solid {c : Char} (r : List Char) (solid : isBlank c = false) : skipBlanks (c :: r) = c :: r := by
  rw [skipBlanks, List.dropWhile_cons, solid]
  rfl

theorem value_quote (fuel : Nat) (r : List Char) :
    value? (fuel + 1) ('"' :: r) = (stringTail? {} r).map fun (t, r) => (.string t, r) := by
  rw [value?, skip_solid r (by decide)]
  rfl

theorem value_bracket (fuel : Nat) {c : Char} (r : List Char) (solid : isBlank c = false) (item : c ≠ ']') :
    value? (fuel + 1) ('[' :: c :: r) = Reader.items? fuel [] (c :: r) := by
  rw [value?, skip_solid (c :: r) (by decide)]
  simp only [skip_solid r solid]
  split
  · rename_i closed
    exact absurd (List.cons.inj closed).1 item
  · rfl

theorem value_brace (fuel : Nat) (r : List Char) :
    value? (fuel + 1) ('\x7b' :: '"' :: r) = members? fuel [] ('"' :: r) := by
  rw [value?, skip_solid ('"' :: r) (by decide)]
  rfl

theorem numeral_other {c : Char} (first : c = '-' ∨ c.isDigit = true) :
    isBlank c = false ∧ ∀ d ∈ ['n', 't', 'f', '"', '[', '\x7b', ']'], c ≠ d := by
  rcases first with rfl | digit
  · exact ⟨rfl, by simp⟩
  · refine ⟨?_, ?_⟩
    · simp only [isBlank, Bool.or_eq_false_iff, beq_eq_false_iff_ne]
      refine ⟨⟨⟨?_, ?_⟩, ?_⟩, ?_⟩ <;> rintro rfl <;> cases digit
    · rintro d member rfl
      simp only [List.mem_cons, List.not_mem_nil, or_false] at member
      rcases member with rfl | rfl | rfl | rfl | rfl | rfl | rfl <;> cases digit

theorem value_number (fuel : Nat) {c : Char} (r : List Char) (first : c = '-' ∨ c.isDigit = true) :
    value? (fuel + 1) (c :: r) = number? (c :: r) := by
  obtain ⟨solid, other⟩ := numeral_other first
  rw [value?, skip_solid r solid]
  split
  case h_7 => rfl
  all_goals
    rename_i same
    exact absurd (List.cons.inj same).1 (other _ (by decide))

theorem items_more {fuel : Nat} (taken : List Json) {v : Json} {cs r : List Char}
    (value : value? fuel cs = some (v, ',' :: r)) :
    Reader.items? (fuel + 1) taken cs = Reader.items? fuel (v :: taken) r := by
  rw [Reader.items?, value]
  dsimp only
  rw [skip_solid r (by decide)]
  rfl

theorem items_closed {fuel : Nat} (taken : List Json) {v : Json} {cs r : List Char}
    (value : value? fuel cs = some (v, ']' :: r)) :
    Reader.items? (fuel + 1) taken cs = some (array (v :: taken).reverse, r) := by
  rw [Reader.items?, value]
  dsimp only
  rw [skip_solid r (by decide)]
  rfl

def onward? (fuel : Nat) (taken : List (Option String × Json)) (r : List Char) : Option (Json × List Char) :=
  match skipBlanks r with
  | ',' :: r => members? fuel taken r
  | '\x7d' :: r => some (object taken.reverse, r)
  | _ => none

theorem members_named {fuel : Nat} (taken : List (Option String × Json)) (s : String) {v : Json} {cs r : List Char}
    (value : value? fuel cs = some (v, r)) :
    members? (fuel + 1) taken (spellString (some s) ++ ':' :: cs) = onward? fuel ((some s, v) :: taken) r := by
  have spelled : spellString (some s) ++ ':' :: cs =
      '"' :: ((s.toList.flatMap fun c => (escape c).toList) ++ '"' :: ':' :: cs) := by
    simp [spellString]
  rw [spelled, members?, skip_solid _ (by decide)]
  simp only [string_spell, skip_solid cs (show isBlank ':' = false by decide), value]
  rfl

theorem members_more {fuel : Nat} (taken : List (Option String × Json)) (s : String) {v : Json} {cs r : List Char}
    (value : value? fuel cs = some (v, ',' :: r)) :
    members? (fuel + 1) taken (spellString (some s) ++ ':' :: cs) = members? fuel ((some s, v) :: taken) r := by
  rw [members_named taken s value, onward?, skip_solid r (by decide)]
  rfl

theorem members_closed {fuel : Nat} (taken : List (Option String × Json)) (s : String) {v : Json} {cs r : List Char}
    (value : value? fuel cs = some (v, '\x7d' :: r)) :
    members? (fuel + 1) taken (spellString (some s) ++ ':' :: cs) =
      some (object ((some s, v) :: taken).reverse, r) := by
  rw [members_named taken s value, onward?, skip_solid r (by decide)]
  rfl

-- The value is read back from its written form, whatever follows that ends it.
def Reads (v : Json) : Prop :=
  ∀ {fuel : Nat} {rest : List Char}, (spell v).length < fuel → Ends rest →
    value? fuel (spell v ++ rest) = some (v, rest)

theorem step_left {n fuel : Nat} (enough : n < fuel) : ∃ left, fuel = left + 1 :=
  Nat.exists_eq_add_one_of_ne_zero (Nat.ne_of_gt (Nat.zero_lt_of_lt enough))

theorem reads_of_step {v : Json} (step : ∀ (fuel : Nat) (rest : List Char), (spell v).length ≤ fuel → Ends rest →
    value? (fuel + 1) (spell v ++ rest) = some (v, rest)) : Reads v := by
  intro fuel rest enough ends
  obtain ⟨fuel, rfl⟩ := step_left enough
  exact step fuel rest (Nat.le_of_lt_succ enough) ends

theorem items_spell {vs : List Json} (each : ∀ v ∈ vs, Reads v) {v : Json} (first : Reads v) (taken : List Json)
    (fuel : Nat) (enough : (spell v).length + (spellItems vs).length + 1 < fuel) (rest : List Char) :
    Reader.items? fuel taken (spell v ++ (spellItems vs ++ ']' :: rest)) =
      some (array (taken.reverse ++ v :: vs), rest) := by
  induction vs generalizing v taken fuel with
  | nil =>
      obtain ⟨fuel, rfl⟩ := step_left enough
      simp only [spellItems, List.nil_append]
      rw [items_closed taken (first (by omega) (ends_cons rest (by decide))),
        List.reverse_cons]
  | cons w vs ih =>
      obtain ⟨fuel, rfl⟩ := step_left enough
      simp only [spellItems, List.length_cons, List.length_append] at enough
      simp only [spellItems, List.cons_append, List.append_assoc]
      rw [items_more taken (first (by omega) (ends_cons _ (by decide))),
        ih (fun u member => each u (List.mem_cons_of_mem w member)) (each w List.mem_cons_self) (v :: taken)
          fuel (by omega),
        List.reverse_cons, List.append_assoc, List.singleton_append]

theorem members_spell {ms : List (Option String × Json)} (names : ∀ m ∈ ms, m.1.isSome = true)
    (each : ∀ m ∈ ms, Reads m.2) (s : String) {v : Json} (first : Reads v) (taken : List (Option String × Json))
    (fuel : Nat) (enough : (spellMember (some s, v)).length + (spellMembers ms).length + 1 < fuel)
    (rest : List Char) :
    members? fuel taken (spellMember (some s, v) ++ (spellMembers ms ++ '\x7d' :: rest)) =
      some (object (taken.reverse ++ (some s, v) :: ms), rest) := by
  induction ms generalizing s v taken fuel with
  | nil =>
      obtain ⟨fuel, rfl⟩ := step_left enough
      simp only [spellMember, spellMembers, List.length_append, List.length_cons, List.length_nil] at enough
      simp only [spellMember, spellMembers, List.nil_append, List.append_assoc, List.cons_append]
      rw [members_closed taken s (first (by omega) (ends_cons rest (by decide))),
        List.reverse_cons]
  | cons m ms ih =>
      obtain ⟨fuel, rfl⟩ := step_left enough
      obtain ⟨name, w⟩ := m
      obtain ⟨s', rfl⟩ := Option.isSome_iff_exists.mp (names (name, w) List.mem_cons_self)
      simp only [spellMembers, List.length_cons, List.length_append] at enough
      have second : Reads w := each (some s', w) List.mem_cons_self
      -- Behind the value stands a comma, which ends a number, and the name has taken some of the fuel.
      have own : (spell v).length < (spellMember (some s, v)).length := by
        simp only [spellMember, List.length_append, List.length_cons]
        omega
      rw [spellMembers, spellMember]
      simp only [List.append_assoc, List.cons_append]
      rw [members_more taken s (first (by omega) (ends_cons _ (by decide))),
        ih (fun m member => names m (List.mem_cons_of_mem _ member))
          (fun m member => each m (List.mem_cons_of_mem _ member)) s' second ((some s, v) :: taken) fuel (by omega),
        List.reverse_cons, List.append_assoc, List.singleton_append]

theorem numeral_head (n : Int) : ∃ c r, spell (int n) = c :: r ∧ (c = '-' ∨ c.isDigit = true) := by
  cases n with
  | ofNat m =>
      obtain ⟨d, ds, digits, digit⟩ := digits_cons m
      exact ⟨d, ds, (spell_nat m).trans digits, .inr digit⟩
  | negSucc m => exact ⟨'-', _, spell_negative m, .inl rfl⟩

theorem spell_head {v : Json} (exact' : Exact v) : ∃ c r, spell v = c :: r ∧ isBlank c = false ∧ c ≠ ']' := by
  cases exact' with
  | null => exact ⟨_, _, rfl, rfl, by decide⟩
  | bool b => cases b <;> exact ⟨_, _, rfl, rfl, by decide⟩
  | int n =>
      obtain ⟨c, r, spelled, first⟩ := numeral_head n
      obtain ⟨solid, other⟩ := numeral_other first
      exact ⟨c, r, spelled, solid, other _ (by decide)⟩
  | text s => exact ⟨'"', _, rfl, rfl, by decide⟩
  | @array vs _ => cases vs <;> exact ⟨'[', _, rfl, rfl, by decide⟩
  | @object ms _ _ => cases ms <;> exact ⟨'\x7b', _, rfl, rfl, by decide⟩

theorem array_reads {vs : List Json} (items : ∀ v ∈ vs, Exact v) (each : ∀ v ∈ vs, Reads v) : Reads (array vs) := by
  refine reads_of_step fun fuel rest enough _ => ?_
  cases vs with
  | nil =>
      change value? (fuel + 1) ('[' :: ']' :: rest) = _
      rw [value?, skip_solid _ (by decide)]
      rfl
  | cons v vs =>
      obtain ⟨c, r, spelled, solid, item⟩ := spell_head (items v List.mem_cons_self)
      have first : Reads v := each v List.mem_cons_self
      simp only [spell, List.length_cons, List.length_append, List.length_nil] at enough
      have read := items_spell (fun w member => each w (List.mem_cons_of_mem v member)) first [] fuel (by omega)
        rest
      simp only [spell, List.cons_append, List.append_assoc, List.nil_append]
      rw [spelled, List.cons_append] at read ⊢
      rw [value_bracket fuel _ solid item, read]
      rfl

theorem object_reads {ms : List (Option String × Json)} (names : ∀ m ∈ ms, m.1.isSome = true)
    (each : ∀ m ∈ ms, Reads m.2) : Reads (object ms) := by
  refine reads_of_step fun fuel rest enough _ => ?_
  cases ms with
  | nil =>
      change value? (fuel + 1) ('\x7b' :: '\x7d' :: rest) = _
      rw [value?, skip_solid _ (by decide)]
      rfl
  | cons m ms =>
      obtain ⟨name, v⟩ := m
      obtain ⟨s, rfl⟩ := Option.isSome_iff_exists.mp (names (name, v) List.mem_cons_self)
      have first : Reads v := each (some s, v) List.mem_cons_self
      simp only [spell, List.length_cons, List.length_append, List.length_nil] at enough
      have read := members_spell (fun m member => names m (List.mem_cons_of_mem _ member))
        (fun m member => each m (List.mem_cons_of_mem _ member)) s first [] fuel (by omega) rest
      simp only [spell, List.cons_append, List.append_assoc, List.nil_append]
      rw [spellMember, spellString, List.cons_append, List.cons_append, List.cons_append] at read ⊢
      rw [value_brace, read]
      rfl

theorem exact_reads {v : Json} (exact' : Exact v) : Reads v := by
  induction exact' with
  | null =>
      refine reads_of_step fun fuel rest _ _ => ?_
      change value? (fuel + 1) ('n' :: _) = _
      rw [value?, skip_solid _ (by decide)]
      rfl
  | bool b =>
      refine reads_of_step fun fuel rest _ _ => ?_
      cases b with
      | true =>
          change value? (fuel + 1) ('t' :: _) = _
          rw [value?, skip_solid _ (by decide)]
          rfl
      | false =>
          change value? (fuel + 1) ('f' :: _) = _
          rw [value?, skip_solid _ (by decide)]
          rfl
  | int n =>
      refine reads_of_step fun fuel rest _ ends => ?_
      -- Of all values only a number has to be told from what follows it.
      obtain ⟨c, r, spelled, first⟩ := numeral_head n
      have read := number_spell n ends
      rw [spelled, List.cons_append] at read ⊢
      rw [value_number fuel _ first, read]
  | text s =>
      refine reads_of_step fun fuel rest _ _ => ?_
      rw [text, spell, spellString, List.cons_append, List.cons_append, List.append_assoc, value_quote]
      exact congrArg (Option.map _) (string_spell s rest)
  | array items ih => exact array_reads items ih
  | object names _ ih => exact object_reads names ih

theorem parse_write {v : Json} (exact' : Exact v) : parse? (write v) = some v := by
  have read := exact_reads exact' (Nat.lt_succ_self (spell v).length) ends_nil
  rw [List.append_nil] at read
  rw [parse?, write_spell, read]
  rfl

end PatternLexer.Json
