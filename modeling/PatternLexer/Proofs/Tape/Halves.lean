import PatternLexer.Tape

set_option autoImplicit false

namespace PatternLexer.Tape

variable {α : Type}

def cut (behind ahead : List α) : Tape α := ⟨(behind ++ ahead).toArray, behind.length - 1⟩

def spent (behind : List α) : Tape α := ⟨behind.toArray, behind.length⟩

-- Both tapes have nothing ahead when `ahead` is empty, and reading cannot tell them apart.
def Stands (t : Tape α) (behind ahead : List α) : Prop :=
  t = cut behind ahead ∨ ahead = [] ∧ t = spent behind

theorem stands_in_bounds (t : Tape α) (low : -1 ≤ t.cursor) (high : t.cursor ≤ t.length) :
    t.Stands (t.toList.take (t.cursor + 1).toNat) t.rest := by
  obtain ⟨items, cursor⟩ := t
  change -1 ≤ cursor at low
  by_cases ahead : cursor < items.size
  · have taken : min (cursor + 1).toNat items.size = (cursor + 1).toNat := by omega
    refine .inl ?_
    simp only [cut, rest, toList, List.take_append_drop, List.length_take, Array.length_toList, taken,
      Tape.mk.injEq, true_and]
    omega
  · have last : cursor = items.size := Int.le_antisymm high (Int.not_lt.mp ahead)
    have whole : items.toList.length ≤ (cursor + 1).toNat := by
      rw [Array.length_toList]
      omega
    refine .inr ⟨List.drop_of_length_le whole, ?_⟩
    change (⟨items, cursor⟩ : Tape α) = spent (items.toList.take (cursor + 1).toNat)
    rw [List.take_of_length_le whole, last]
    simp [spent]

theorem list_tape_cut (xs : List α) : ofList xs = cut [] xs := rfl

theorem cut_advance_cons (behind ahead : List α) (x : α) :
    (cut behind (x :: ahead)).advance = cut (behind ++ [x]) ahead := by
  have inside : (cut behind (x :: ahead)).cursor < (cut behind (x :: ahead)).length := by
    simp only [cut, length, List.size_toArray, List.length_append, List.length_cons]
    omega
  rw [advance, if_pos inside]
  simp [cut]

theorem cut_advance_nil (behind : List α) : (cut behind []).advance = spent behind := by
  have inside : (cut behind []).cursor < (cut behind []).length := by
    simp only [cut, length, List.size_toArray, List.length_append, List.length_nil]
    omega
  rw [advance, if_pos inside]
  simp [cut, spent]

theorem spent_advance (behind : List α) : (spent behind).advance = spent behind := by
  simp [advance, spent, length]

theorem cut_current_snoc (behind ahead : List α) (x : α) :
    (cut (behind ++ [x]) ahead).current? = some x := by
  simp [cut, current?, get?]

theorem spent_current (behind : List α) : (spent behind).current? = none := by
  simp [spent, current?, get?]

@[simp] theorem cut_next_cons (behind ahead : List α) (x : α) :
    (cut behind (x :: ahead)).next = (some x, cut (behind ++ [x]) ahead) := by
  rw [next, cut_advance_cons, cut_current_snoc]

@[simp] theorem cut_next_nil (behind : List α) : (cut behind []).next = (none, spent behind) := by
  rw [next, cut_advance_nil, spent_current]

@[simp] theorem spent_next (behind : List α) : (spent behind).next = (none, spent behind) := by
  rw [next, spent_advance, spent_current]

@[simp] theorem cut_peek (behind ahead : List α) : (cut behind ahead).peek? 1 = ahead.head? := by
  simp [cut, peek?, get?, List.head?_eq_getElem?, List.getElem?_append_right]

@[simp] theorem cut_position (behind ahead : List α) (x : α) :
    (cut (behind ++ [x]) ahead).position = behind.length := by
  simp [cut, position]

theorem cut_cursor (behind span ahead : List α) (some : span ≠ []) :
    (cut (behind ++ span) ahead).cursor = (cut (behind ++ span) ahead).position ∧
      (cut (behind ++ span) ahead).position ≤ (behind ++ (span ++ ahead)).length := by
  have bound := List.length_pos_iff.mpr some
  simp only [cut, position, List.length_append]
  omega

@[simp] theorem spent_position (behind : List α) : (spent behind).position = behind.length := by
  simp [spent, position]

def preceded (xs : List α) (t : Tape α) : Tape α := ⟨xs.toArray ++ t.items, xs.length + t.cursor⟩

def followed (t : Tape α) (ys : List α) : Tape α := { t with items := t.items ++ ys.toArray }

@[simp] theorem cut_preceded (xs behind ahead : List α) :
    (cut behind ahead).preceded xs = cut (xs ++ behind) ahead := by
  simp only [preceded, cut, Tape.mk.injEq, List.length_append]
  exact ⟨by simp, by omega⟩

@[simp] theorem spent_preceded (xs behind : List α) :
    (spent behind).preceded xs = spent (xs ++ behind) := by
  simp [preceded, spent]

@[simp] theorem cut_followed (behind ahead ys : List α) :
    (cut behind ahead).followed ys = cut behind (ahead ++ ys) := by
  simp [followed, cut]

end PatternLexer.Tape
