import Mathlib.Data.String.Basic

set_option autoImplicit false

namespace PatternLexer

def bytes (s : String) : List UInt8 := s.toUTF8.data.toList

def continued (m : Nat) : Nat → List UInt8
  | 0 => []
  | k + 1 => UInt8.ofNat (m / 64 ^ k % 64 + 0x80) :: continued m k

inductive Led (m : Nat) : Nat → Nat → Prop where
  | alone (range : m < 0x80) : Led m 0 m
  | two (range : 0x80 ≤ m ∧ m < 0x800) : Led m 1 (m / 64 + 0xc0)
  | three (range : 0x800 ≤ m ∧ m < 0x10000) : Led m 2 (m / 64 ^ 2 + 0xe0)
  | four (range : 0x10000 ≤ m ∧ m < 0x110000) : Led m 3 (m / 64 ^ 3 + 0xf0)

variable {m n k k' lead lead' : Nat}

theorem led_byte (led : Led m k lead) : lead < 256 := by
  cases led <;> omega

-- A first byte does not fall, and where it stays the same, so do the number of bytes and the digits that it shows.
theorem led_grows (led : Led m k lead) (led' : Led n k' lead') (less : m < n) :
    lead < lead' ∨ lead = lead' ∧ k = k' ∧ m / 64 ^ k = n / 64 ^ k := by
  cases led <;> cases led' <;> omega

theorem char_led (c : Char) : ∃ k lead, Led c.toNat k lead ∧
    String.utf8EncodeChar c = UInt8.ofNat lead :: continued c.toNat k := by
  have range : c.toNat < 0x110000 := by
    rcases c.valid with low | high
    · exact Nat.lt_trans low (by decide)
    · exact high.2
  rw [String.utf8EncodeChar, Char.toNat_val]
  by_cases one : c.toNat < 0x80
  · exact ⟨_, _, .alone one, by rw [if_pos (by omega)]; rfl⟩
  by_cases two : c.toNat < 0x800
  · refine ⟨_, _, .two ⟨by omega, two⟩, ?_⟩
    rw [if_neg (by omega), if_pos (by omega), Nat.mod_eq_of_lt (by omega)]
    simp [continued]
  by_cases three : c.toNat < 0x10000
  · refine ⟨_, _, .three ⟨by omega, three⟩, ?_⟩
    rw [if_neg (by omega), if_neg (by omega), if_pos (by omega), Nat.mod_eq_of_lt (by omega)]
    simp [continued]
  · refine ⟨_, _, .four ⟨by omega, range⟩, ?_⟩
    rw [if_neg (by omega), if_neg (by omega), if_neg (by omega), Nat.mod_eq_of_lt (by omega)]
    simp [continued]

theorem byte_lt (small : n < 256) (less : m < n) (xs ys : List UInt8) :
    UInt8.ofNat m :: xs < UInt8.ofNat n :: ys := by
  refine List.Lex.rel ?_
  rw [UInt8.lt_iff_toNat_lt, UInt8.toNat_ofNat', UInt8.toNat_ofNat', Nat.mod_eq_of_lt small]
  exact Nat.lt_of_le_of_lt (Nat.mod_le m 256) less

theorem continued_lt (less : m < n) (same : m / 64 ^ k = n / 64 ^ k) (xs ys : List UInt8) :
    continued m k ++ xs < continued n k ++ ys := by
  induction k with
  | zero => omega
  | succ k ih =>
      rw [Nat.pow_succ, ← Nat.div_div_eq_div_mul, ← Nat.div_div_eq_div_mul] at same
      -- Either the next digit decides, or it is the same in both and the later ones do.
      rcases Nat.lt_or_eq_of_le (Nat.div_le_div_right (c := 64 ^ k) less.le) with next | next
      · exact byte_lt (by omega) (by omega) _ _
      · rw [continued, continued, next]
        exact List.Lex.cons (ih next)

-- What follows the characters does not matter: neither of them goes on where the other one ends.
theorem char_bytes_lt {c d : Char} (less : c < d) (xs ys : List UInt8) :
    String.utf8EncodeChar c ++ xs < String.utf8EncodeChar d ++ ys := by
  obtain ⟨k, lead, led, spelled⟩ := char_led c
  obtain ⟨k', lead', led', spelled'⟩ := char_led d
  rw [spelled, spelled']
  rcases led_grows led led' less with grows | ⟨rfl, rfl, same⟩
  · exact byte_lt (led_byte led') grows _ _
  · exact List.Lex.cons (continued_lt less same xs ys)

theorem bytes_chars (s : String) : bytes s = s.toList.flatMap String.utf8EncodeChar := by
  rw [bytes, String.toUTF8_eq_toByteArray, ← String.utf8Encode_toList, List.utf8Encode, List.toList_data_toByteArray]

theorem chars_bytes_lt {cs ds : List Char} (less : cs < ds) :
    cs.flatMap String.utf8EncodeChar < ds.flatMap String.utf8EncodeChar := by
  induction less with
  | @nil d ds =>
      rw [List.flatMap_nil, List.flatMap_cons]
      obtain ⟨_, _, -, spelled⟩ := char_led d
      rw [spelled]
      exact List.Lex.nil
  | cons less ih => exact List.append_left_lt ih
  | rel less => exact char_bytes_lt less _ _

theorem bytes_lt_iff (s s' : String) : bytes s < bytes s' ↔ s < s' := by
  have grows {s s' : String} (less : s < s') : bytes s < bytes s' := by
    rw [bytes_chars, bytes_chars]
    exact chars_bytes_lt less
  refine ⟨fun less => ?_, grows⟩
  rcases lt_trichotomy s s' with before | rfl | after
  · exact before
  · exact absurd less (List.lt_irrefl _)
  · exact absurd less (List.lt_asymm (grows after))

theorem compare_bytes (s s' : String) : compare s s' = .lt ↔ bytes s < bytes s' := by
  rw [bytes_lt_iff]
  exact compare_lt_iff_lt

end PatternLexer
