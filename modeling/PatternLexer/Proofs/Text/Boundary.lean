import PatternLexer.Proofs.Text.ByteOrder

set_option autoImplicit false

namespace PatternLexer

def goesOn (b : UInt8) : Bool := 0x80 ≤ b && b < 0xc0

def isBoundary (bs : List UInt8) (place : Nat) : Bool :=
  place == 0 ||
    match bs[place]? with
    | some b => !goesOn b
    | none => place == bs.length

-- The search comes to nothing if it would have to go back from the first place.
def lastBoundary? (bs : List UInt8) : Nat → Option Nat
  | 0 => if isBoundary bs 0 then some 0 else none
  | n + 1 => if isBoundary bs (n + 1) then some (n + 1) else lastBoundary? bs n

variable {m k lead : Nat}

theorem continued_goes_on {b : UInt8} (member : b ∈ continued m k) : goesOn b = true := by
  induction k with
  | zero => cases member
  | succ k ih =>
      rcases List.mem_cons.mp member with rfl | later
      · have digit : m / 64 ^ k % 64 < 64 := Nat.mod_lt _ (by decide)
        have value : (UInt8.ofNat (m / 64 ^ k % 64 + 0x80)).toNat = m / 64 ^ k % 64 + 0x80 := by
          rw [UInt8.toNat_ofNat', Nat.mod_eq_of_lt (by omega)]
        simp only [goesOn, Bool.and_eq_true, decide_eq_true_eq, UInt8.le_iff_toNat_le, UInt8.lt_iff_toNat_lt, value]
        exact ⟨Nat.le_add_left _ _, by change _ < 192; omega⟩
      · exact ih later

theorem led_starts (led : Led m k lead) : goesOn (UInt8.ofNat lead) = false := by
  have value : (UInt8.ofNat lead).toNat = lead := by
    rw [UInt8.toNat_ofNat', Nat.mod_eq_of_lt (led_byte led)]
  simp only [goesOn, Bool.and_eq_false_iff, decide_eq_false_iff_not, UInt8.le_iff_toNat_le, UInt8.lt_iff_toNat_lt,
    value]
  change ¬ 128 ≤ lead ∨ ¬ lead < 192
  cases led <;> omega

theorem char_starts (c : Char) : ∃ b others, String.utf8EncodeChar c = b :: others ∧ goesOn b = false ∧
    ∀ d ∈ others, goesOn d = true := by
  obtain ⟨k, lead, led, spelled⟩ := char_led c
  exact ⟨_, _, spelled, led_starts led, fun _ => continued_goes_on⟩

theorem chars_length (cs : List Char) : (cs.flatMap String.utf8EncodeChar).length = String.utf8Len cs := by
  induction cs with
  | nil => rfl
  | cons c cs ih =>
      rw [List.flatMap_cons, List.length_append, String.length_utf8EncodeChar, ih, String.utf8Len_cons, Nat.add_comm]

theorem search_here {bs : List UInt8} {place : Nat} (boundary : isBoundary bs place = true) :
    lastBoundary? bs place = some place := by
  cases place with
  | zero => rw [lastBoundary?, if_pos boundary]
  | succ n => rw [lastBoundary?, if_pos boundary]

section Around

variable (front : List Char) (c : Char) (rest : List Char)

theorem byte_around (j : Nat) (inside : j < c.utf8Size) :
    ((front ++ c :: rest).flatMap String.utf8EncodeChar)[String.utf8Len front + j]? =
      (String.utf8EncodeChar c)[j]? := by
  have before : (front.flatMap String.utf8EncodeChar).length ≤ String.utf8Len front + j := by
    rw [chars_length]
    exact Nat.le_add_right _ _
  have within : j < (String.utf8EncodeChar c).length := by rwa [String.length_utf8EncodeChar]
  rw [List.flatMap_append, List.getElem?_append_right before, chars_length, Nat.add_sub_cancel_left, List.flatMap_cons,
    List.getElem?_append_left within]

theorem boundary_at_char :
    isBoundary ((front ++ c :: rest).flatMap String.utf8EncodeChar) (String.utf8Len front) = true := by
  obtain ⟨b, others, spelled, starts, -⟩ := char_starts c
  have first := byte_around front c rest 0 (Char.utf8Size_pos c)
  rw [Nat.add_zero, spelled] at first
  rw [isBoundary, first]
  simp [starts]

theorem no_boundary_within {j : Nat} (past : 0 < j) (inside : j < c.utf8Size) :
    isBoundary ((front ++ c :: rest).flatMap String.utf8EncodeChar) (String.utf8Len front + j) = false := by
  obtain ⟨b, others, spelled, -, goes⟩ := char_starts c
  obtain ⟨j, rfl⟩ := Nat.exists_eq_add_one_of_ne_zero (Nat.ne_of_gt past)
  have length := String.length_utf8EncodeChar c
  rw [spelled, List.length_cons] at length
  have within : j < others.length := by omega
  have later := byte_around front c rest (j + 1) inside
  rw [spelled, List.getElem?_cons_succ, List.getElem?_eq_getElem within] at later
  rw [isBoundary, later]
  simp [goes _ (List.getElem_mem within)]

theorem last_boundary (j : Nat) (inside : j < c.utf8Size) :
    lastBoundary? ((front ++ c :: rest).flatMap String.utf8EncodeChar) (String.utf8Len front + j) =
      some (String.utf8Len front) := by
  induction j with
  | zero => exact search_here (boundary_at_char front c rest)
  | succ j ih =>
      have none_here := no_boundary_within front c rest (Nat.add_one_pos j) inside
      rw [← Nat.add_assoc] at none_here ⊢
      rw [lastBoundary?, none_here, ih (Nat.lt_of_succ_lt inside)]
      rfl

end Around

end PatternLexer
