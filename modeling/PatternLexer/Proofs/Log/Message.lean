import Std.Data.String.ToNat
import PatternLexer.Log.Event

set_option autoImplicit false

namespace PatternLexer.Log

-- Both messages are cut, and their numbers have the same digits up to the cut.
def CutAlike (stem : String) (m n : Nat) : Prop :=
  messageLimit < (stem ++ toString m).utf8ByteSize ∧ messageLimit < (stem ++ toString n).utf8ByteSize ∧
    (Nat.toDigits 10 m).take (messageLimit - stem.utf8ByteSize) =
      (Nat.toDigits 10 n).take (messageLimit - stem.utf8ByteSize)

theorem digit_shape {n : Nat} {c : Char} (digit : c ∈ Nat.toDigits 10 n) : c.isDigit = true :=
  Nat.isDigit_of_mem_toDigits (by decide) (by decide) digit

theorem digit_size {n : Nat} {c : Char} (digit : c ∈ Nat.toDigits 10 n) : c.utf8Size = 1 := by
  have shape := digit_shape digit
  rw [Char.utf8Size_eq_one_iff, UInt32.le_iff_toNat_le]
  simp only [Char.isDigit, Bool.and_eq_true, decide_eq_true_eq, ge_iff_le, UInt32.le_iff_toNat_le] at shape
  have nine : '9'.val.toNat = 57 := rfl
  change c.val.toNat ≤ 127
  omega

theorem fitting_ascii {cs : List Char} (ascii : ∀ c ∈ cs, c.utf8Size = 1) (room : Nat) :
    fitting room cs = cs.take room := by
  induction cs generalizing room with
  | nil => rw [fitting, List.take_nil]
  | cons c cs ih =>
      have one := ascii c List.mem_cons_self
      rw [fitting, one]
      cases room with
      | zero => rfl
      | succ room =>
          rw [if_pos (Nat.succ_le_succ (Nat.zero_le room)), Nat.add_sub_cancel,
            ih (fun d member => ascii d (List.mem_cons_of_mem c member)), List.take_succ_cons]

theorem fitting_append_ascii (cs : List Char) {ds : List Char} (ascii : ∀ c ∈ ds, c.utf8Size = 1) (room : Nat) :
    fitting room (cs ++ ds) = fitting room cs ++ ds.take (room - (String.ofList cs).utf8ByteSize) := by
  induction cs generalizing room with
  | nil => simp [fitting, fitting_ascii ascii]
  | cons c cs ih =>
      rw [List.cons_append, fitting, fitting, String.ofList_cons, String.utf8ByteSize_append,
        String.utf8ByteSize_singleton]
      by_cases fits : c.utf8Size ≤ room
      · rw [if_pos fits, if_pos fits, ih, Nat.sub_sub, List.cons_append]
      · have full : room - (c.utf8Size + (String.ofList cs).utf8ByteSize) = 0 := by omega
        rw [if_neg fits, if_neg fits, full, List.take_zero, List.append_nil]

theorem number_text (n : Nat) : (toString n).toList = Nat.toDigits 10 n := Nat.toList_repr

theorem limit_within {message : String} (fits : message.utf8ByteSize ≤ messageLimit) :
    limitMessage message = message := if_pos fits

theorem limit_beyond {stem : String} {n : Nat} (long : messageLimit < (stem ++ toString n).utf8ByteSize) :
    (limitMessage (stem ++ toString n)).toList = fitting messageLimit stem.toList ++
      (Nat.toDigits 10 n).take (messageLimit - stem.utf8ByteSize) ++ ['.', '.', '.'] := by
  rw [limitMessage, if_neg (Nat.not_le_of_lt long), String.toList_append, String.toList_ofList,
    String.toList_append, number_text, fitting_append_ascii _ (fun _ => digit_size), String.ofList_toList]
  rfl

theorem limit_apart {stem : String} {m n : Nat} (fits : (stem ++ toString m).utf8ByteSize ≤ messageLimit)
    (long : messageLimit < (stem ++ toString n).utf8ByteSize) :
    limitMessage (stem ++ toString m) ≠ limitMessage (stem ++ toString n) := by
  intro same
  have last := congrArg (fun s : String => s.toList.getLast?) same
  simp only [limit_within fits, limit_beyond long, String.toList_append, number_text] at last
  rw [List.getLast?_append, List.getLast?_append, List.getLast?_eq_some_getLast Nat.toDigits_ne_nil] at last
  have dot : (Nat.toDigits 10 m).getLast Nat.toDigits_ne_nil = '.' := by simpa using last
  have digit := digit_shape (List.getLast_mem (Nat.toDigits_ne_nil (b := 10) (n := m)))
  rw [dot] at digit
  cases digit

theorem limit_numbered_iff (stem : String) (m n : Nat) :
    limitMessage (stem ++ toString m) = limitMessage (stem ++ toString n) ↔ m = n ∨ CutAlike stem m n := by
  by_cases long : messageLimit < (stem ++ toString m).utf8ByteSize
  · by_cases long' : messageLimit < (stem ++ toString n).utf8ByteSize
    · rw [← String.toList_inj, limit_beyond long, limit_beyond long', List.append_cancel_right_eq,
        List.append_cancel_left_eq]
      constructor
      · intro digits
        exact .inr ⟨long, long', digits⟩
      · rintro (rfl | ⟨-, -, digits⟩)
        · rfl
        · exact digits
    · refine iff_of_false (limit_apart (Nat.le_of_not_lt long') long).symm ?_
      rintro (rfl | ⟨-, beyond, -⟩)
      · exact long' long
      · exact long' beyond
  · have fits := Nat.le_of_not_lt long
    by_cases long' : messageLimit < (stem ++ toString n).utf8ByteSize
    · refine iff_of_false (limit_apart fits long') ?_
      rintro (rfl | ⟨beyond, -, -⟩)
      · exact long long'
      · exact long beyond
    · rw [limit_within fits, limit_within (Nat.le_of_not_lt long'), String.append_right_inj,
        Nat.toString_eq_repr, Nat.toString_eq_repr, Nat.repr_inj]
      exact ⟨.inl, fun either => either.resolve_right fun cut => long cut.1⟩

end PatternLexer.Log
