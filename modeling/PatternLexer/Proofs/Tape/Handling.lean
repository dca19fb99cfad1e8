import PatternLexer.Proofs.Tape.Halves

set_option autoImplicit false

namespace PatternLexer.Tape

variable {α : Type} {t : Tape α}

structure InBounds (t : Tape α) : Prop where
  low : -1 ≤ t.cursor
  high : t.cursor ≤ t.length

def yields (t : Tape α) : Nat → List α
  | 0 => []
  | n + 1 => t.next.1.toList ++ t.next.2.yields n

structure Forecasts (t : Tape α) : Prop where
  next : t.hasNext = true ↔ t.next.1.isSome = true
  count : ∀ n, (t.yields n).length = min n t.remaining

theorem list_tape_bounds (xs : List α) : (ofList xs).InBounds :=
  ⟨Int.le_refl _, by simp only [ofList, length]; omega⟩

theorem next_cursor (t : Tape α) :
    t.next.2.length = t.length ∧ t.next.2.cursor = if t.cursor < t.length then t.cursor + 1 else t.cursor := by
  refine ⟨advance_length t, ?_⟩
  rw [next, advance]
  split <;> rfl

theorem rest_length (started : -1 ≤ t.cursor) : t.rest.length = t.remaining := by
  simp only [rest, toList, List.length_drop, Array.length_toList, remaining, length]
  omega

theorem next_rest (started : -1 ≤ t.cursor) : t.next.1 = t.rest.head? ∧ t.next.2.rest = t.rest.tail := by
  obtain ⟨items, cursor⟩ := t
  change -1 ≤ cursor at started
  by_cases inside : cursor < items.size
  · have moved : advance ⟨items, cursor⟩ = ⟨items, cursor + 1⟩ := if_pos inside
    have place : (cursor + 1 + 1).toNat = (cursor + 1).toNat + 1 := by omega
    rw [next, moved]
    refine ⟨?_, ?_⟩
    · rw [current?, get?, if_pos (by change 0 ≤ cursor + 1; omega), rest, List.head?_drop]
      exact Array.getElem?_toList.symm
    · rw [rest, rest, List.tail_drop, place]
      rfl
  · have stays : advance ⟨items, cursor⟩ = ⟨items, cursor⟩ := if_neg inside
    have past : items.toList.length ≤ (cursor + 1).toNat := by
      rw [Array.length_toList]
      omega
    have exhausted : rest ⟨items, cursor⟩ = [] := List.drop_of_length_le past
    rw [next, stays, exhausted]
    refine ⟨?_, rfl⟩
    cases found : current? ⟨items, cursor⟩ with
    | none => rfl
    | some x => exact absurd (get?_isSome_lt found).2 inside

theorem yields_rest (started : -1 ≤ t.cursor) (n : Nat) : t.yields n = t.rest.take n := by
  induction n generalizing t with
  | zero => rfl
  | succ n ih =>
      obtain ⟨first, onward⟩ := next_rest started
      have started' : -1 ≤ t.next.2.cursor := Int.le_trans started (cursor_le_advance t)
      rw [yields, first, ih started', onward]
      cases t.rest with
      | nil => exact List.take_nil
      | cons x rest => rfl

theorem has_next_remaining (t : Tape α) : t.hasNext = true ↔ 0 < t.remaining := by
  rw [hasNext, decide_eq_true_eq, remaining]
  omega

theorem forecasts_iff (t : Tape α) : t.Forecasts ↔ -1 ≤ t.cursor := by
  constructor
  · intro forecasts
    refine Int.not_lt.mp fun before => ?_
    have early : t.cursor < t.length := by omega
    -- From further in front the tape would announce an item, but the next place is still before the first one.
    have said : t.hasNext = true := by
      rw [hasNext, decide_eq_true_eq]
      omega
    obtain ⟨x, found⟩ := Option.isSome_iff_exists.mp (forecasts.next.mp said)
    have place := (get?_isSome_lt found).1
    rw [(next_some found).2] at place
    omega
  · intro started
    refine ⟨?_, fun n => ?_⟩
    · rw [has_next_remaining, ← rest_length started, (next_rest started).1]
      cases t.rest <;> simp
    · rw [yields_rest started, List.length_take, rest_length started]

inductive Handling (α : Type) where
  | next
  | peek (offset : Int)
  | replace (index : Nat) (x : α)

def handled (t : Tape α) : Handling α → Tape α
  | .next => t.next.2
  | .peek _ => t
  | .replace index x => (t.replace index x).toOption.getD t

-- One of the tapes is handled, or a copy of it is put behind the last.
inductive Move (α : Type) where
  | handle (place : Nat) (handling : Handling α)
  | copy (place : Nat)

def moved (ts : List (Tape α)) : Move α → List (Tape α)
  | .handle place handling => (ts[place]?.map fun t => ts.set place (t.handled handling)).getD ts
  | .copy place => ts ++ ts[place]?.toList

def movedAll (ts : List (Tape α)) (moves : List (Move α)) : List (Tape α) := moves.foldl moved ts

theorem replace_cursor (t : Tape α) (index : Nat) (x : α) :
    (t.handled (.replace index x)).length = t.length ∧ (t.handled (.replace index x)).cursor = t.cursor := by
  rw [handled, replace]
  split
  · rename_i inside
    exact ⟨Array.size_set inside, rfl⟩
  · exact ⟨rfl, rfl⟩

theorem handled_cursor (t : Tape α) (handling : Handling α) :
    (t.handled handling).length = t.length ∧ t.cursor ≤ (t.handled handling).cursor ∧
      (t.handled handling).cursor ≤ max t.cursor t.length := by
  cases handling with
  | next =>
      obtain ⟨length, cursor⟩ := next_cursor t
      rw [handled]
      refine ⟨length, ?_⟩
      rw [cursor]
      split <;> omega
  | peek offset => exact ⟨rfl, Int.le_refl _, Int.le_max_left _ _⟩
  | replace index x =>
      obtain ⟨length, cursor⟩ := replace_cursor t index x
      rw [cursor]
      exact ⟨length, Int.le_refl _, Int.le_max_left _ _⟩

theorem handled_bounds (bounds : t.InBounds) (handling : Handling α) : (t.handled handling).InBounds := by
  obtain ⟨length, onward, high⟩ := handled_cursor t handling
  rw [Int.max_eq_right bounds.high] at high
  exact ⟨Int.le_trans bounds.low onward, by rwa [length]⟩

variable {ts : List (Tape α)} {P : Tape α → Prop}

theorem moved_keeps (keeps : ∀ t handling, P t → P (t.handled handling)) (all : ∀ t ∈ ts, P t) (move : Move α) :
    ∀ u ∈ moved ts move, P u := by
  intro u member
  cases move with
  | handle place handling =>
      cases held : ts[place]? with
      | none =>
          rw [moved, held] at member
          exact all u member
      | some t =>
          rw [moved, held] at member
          rcases List.mem_or_eq_of_mem_set member with other | rfl
          · exact all u other
          · exact keeps t handling (all t (List.mem_of_getElem? held))
  | copy place =>
      rcases List.mem_append.mp member with old | new
      · exact all u old
      · exact all u (List.mem_of_getElem? (Option.mem_toList.mp new))

theorem moved_all_keeps (keeps : ∀ t handling, P t → P (t.handled handling)) (all : ∀ t ∈ ts, P t)
    (moves : List (Move α)) : ∀ u ∈ movedAll ts moves, P u := by
  induction moves generalizing ts with
  | nil => exact all
  | cons move moves ih => exact ih (moved_keeps keeps all move)

theorem moved_bounds (bounds : t.InBounds) (moves : List (Move α)) :
    ∀ u ∈ movedAll [t] moves, u.InBounds ∧ u.Forecasts := by
  have held : ∀ u ∈ [t], u.InBounds := by simpa using bounds
  intro u member
  have kept := moved_all_keeps (fun _ handling bounds => handled_bounds bounds handling) held moves u member
  exact ⟨kept, (forecasts_iff u).mpr kept.low⟩

end PatternLexer.Tape
