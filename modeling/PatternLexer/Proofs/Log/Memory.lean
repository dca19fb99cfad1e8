import Mathlib.Data.List.DropRight
import PatternLexer.Log.Service

set_option autoImplicit false

namespace PatternLexer.Log

theorem last_append {α : Type} (n : Nat) (before more : List α) :
    (before.rtake n ++ more).rtake n = (before ++ more).rtake n := by
  simp only [List.rtake_eq_reverse_take_reverse, List.reverse_append, List.reverse_reverse, List.take_append,
    List.take_take]
  have room : min (n - more.reverse.length) n = n - more.reverse.length := Nat.min_eq_left (Nat.sub_le _ _)
  rw [room]

theorem last_whole {α : Type} {n : Nat} {whole : List α} (short : whole.length ≤ n) : whole.rtake n = whole := by
  rw [List.rtake, Nat.sub_eq_zero_of_le short, List.drop_zero]

namespace Memory

theorem held_count (m : Memory) : m.count = m.toList.length := Array.length_toList.symm

theorem held_bound (m : Memory) : m.toList.length ≤ capacity := m.held_count ▸ m.fits

theorem held_fits (m : Memory) : m.toList.rtake capacity = m.toList := last_whole m.held_bound

theorem front_popped (events : Array Event) : (popFront events).toList = events.toList.drop 1 := by
  rw [popFront, Array.toList_extract, List.extract_eq_take_drop]
  exact List.take_of_length_le (by simp)

theorem add_list (m : Memory) (e : Event) : (m.add e).toList = (makeRoom m.events).toList ++ [e] := Array.toList_push

theorem held_add (m : Memory) (e : Event) : (m.add e).toList = (m.toList ++ [e]).rtake capacity := by
  have bound := m.held_bound
  have count := m.held_count
  rw [add_list, makeRoom]
  by_cases full : capacity ≤ m.events.size
  · -- With the new event behind it a full memory is one too long, and its last ones are all but the first.
    have exactly : m.toList.length = capacity := Nat.le_antisymm bound (count ▸ full)
    have beyond : (m.toList ++ [e]).length - capacity = 1 := by
      rw [List.length_append, exactly, Nat.add_sub_cancel_left]
      rfl
    have first : 1 ≤ m.toList.length := exactly ▸ (by decide : 1 ≤ capacity)
    rw [if_pos full, front_popped, List.rtake, beyond, List.drop_append_of_le_length first]
    rfl
  · have short : (m.toList ++ [e]).length ≤ capacity := by
      rw [List.length_append, ← count]
      exact Nat.lt_of_not_le full
    rw [if_neg full, last_whole short]
    rfl

end Memory

end PatternLexer.Log
