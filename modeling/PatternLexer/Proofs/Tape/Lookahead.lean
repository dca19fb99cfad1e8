import PatternLexer.Proofs.Tape.Handling

set_option autoImplicit false

namespace PatternLexer.Tape

variable {α : Type} {t u : Tape α} {i : Nat} {x : α}

def reads (t : Tape α) : Nat → Tape α
  | 0 => t
  | n + 1 => t.next.2.reads n

def answers (t : Tape α) : Nat → List (Option α)
  | 0 => []
  | n + 1 => t.next.1 :: t.next.2.answers n

def handledAll (t : Tape α) (handlings : List (Handling α)) : Tape α := handlings.foldl handled t

theorem handled_all_bounds (bounds : t.InBounds) (handlings : List (Handling α)) :
    (t.handledAll handlings).InBounds := by
  induction handlings generalizing t with
  | nil => exact bounds
  | cons handling handlings ih => exact ih (handled_bounds bounds handling)

theorem get_past {place : Int} (past : t.length ≤ place) : t.get? place = none :=
  Option.eq_none_iff_forall_ne_some.mpr fun _ found => absurd (get?_isSome_lt found).2 (Int.not_lt.mpr past)

theorem get_inside (t : Tape α) (n : Nat) : t.get? n = t.toList[n]? := by
  rw [get?, if_pos (Int.natCast_nonneg n), Int.toNat_natCast]
  exact Array.getElem?_toList.symm

theorem peek_rest (started : -1 ≤ t.cursor) (n : Nat) : t.peek? (n + 1) = t.rest[n]? := by
  have place : t.cursor + (n + 1) = ((t.cursor + 1).toNat + n : Nat) := by omega
  rw [peek?, place, get_inside, rest, List.getElem?_drop]

theorem reads_items (t : Tape α) (n : Nat) : (t.reads n).items = t.items := by
  induction n generalizing t with
  | zero => rfl
  | succ n ih => exact (ih t.next.2).trans (advance_items t)

theorem reads_length (t : Tape α) (n : Nat) : (t.reads n).length = t.length := congrArg Array.size (reads_items t n)

theorem reads_bounds (bounds : t.InBounds) (n : Nat) : (t.reads n).InBounds := by
  induction n generalizing t with
  | zero => exact bounds
  | succ n ih => exact ih (handled_bounds bounds .next)

theorem reads_cursor (bounds : t.InBounds) (n : Nat) : (t.reads n).cursor = min (t.cursor + n) t.length := by
  induction n generalizing t with
  | zero =>
      rw [reads, Int.natCast_zero, Int.add_zero]
      exact (Int.min_eq_left bounds.high).symm
  | succ n ih =>
      obtain ⟨length, cursor⟩ := next_cursor t
      have bounds' : t.next.2.InBounds := handled_bounds bounds .next
      have high := bounds.high
      rw [reads, ih bounds', length, cursor]
      split <;> omega

theorem reads_next (t : Tape α) (n : Nat) : (t.reads n).next.2 = t.reads (n + 1) := by
  induction n generalizing t with
  | zero => rfl
  | succ n ih => exact ih t.next.2

theorem answers_rest (started : -1 ≤ t.cursor) (n : Nat) :
    t.answers n = (List.range n).map fun k => t.rest[k]? := by
  induction n generalizing t with
  | zero => rfl
  | succ n ih =>
      obtain ⟨first, onward⟩ := next_rest started
      have started' : -1 ≤ t.next.2.cursor := Int.le_trans started (cursor_le_advance t)
      rw [answers, ih started', first, onward, List.range_succ_eq_map, List.map_cons, List.map_map,
        List.head?_eq_getElem?]
      simp only [List.getElem?_tail]
      rfl

theorem answers_all (started : -1 ≤ t.cursor) (more : Nat) :
    t.answers (t.remaining + more) = t.rest.map some ++ List.replicate more none := by
  rw [answers_rest started, ← rest_length started]
  refine List.ext_getElem (by simp) fun k _ _ => ?_
  rw [List.getElem_map, List.getElem_range, List.getElem_append]
  split
  · rename_i inside
    rw [List.length_map] at inside
    rw [List.getElem_map, List.getElem?_eq_getElem inside]
  · rename_i past
    rw [List.length_map] at past
    rw [List.getElem_replicate, List.getElem?_eq_none (Nat.le_of_not_lt past)]

theorem answers_last (started : -1 ≤ t.cursor) (n : Nat) : (t.answers (n + 1)).getLast? = some t.rest[n]? := by
  rw [answers_rest started, List.range_succ, List.map_append, List.map_singleton, List.getLast?_concat]

theorem next_exhausted (bounds : t.InBounds) (exhausted : t.rest = []) :
    t.next.2 = { t with cursor := t.length } := by
  have none_left : t.remaining = 0 := by rw [← rest_length bounds.low, exhausted, List.length_nil]
  have cursor : t.next.2.cursor = t.length := by
    have high := bounds.high
    rw [remaining] at none_left
    rw [(next_cursor t).2]
    split <;> omega
  rw [← cursor]
  exact congrArg (fun items => Tape.mk items t.next.2.cursor) (advance_items t)

theorem drain_onto (t : Tape α) (bounds : t.InBounds) (taken : List α) :
    t.drainOnto taken = (taken.reverse ++ t.rest, { t with cursor := t.length }) := by
  obtain ⟨first, onward⟩ := next_rest bounds.low
  rw [drainOnto]
  split
  · rename_i x found
    -- The item found is the first of those left, and the loop goes on with the others.
    have ahead : t.rest = x :: t.advance.rest := by
      rw [found] at first
      obtain ⟨tail, rest⟩ := List.head?_eq_some_iff.mp first.symm
      rw [rest] at onward ⊢
      exact congrArg (x :: ·) onward.symm
    have onward' : t.advance.InBounds := handled_bounds bounds .next
    rw [drain_onto t.advance onward' (x :: taken), ahead, List.reverse_cons, List.append_assoc, List.singleton_append,
      advance_items, advance_length]
  · rename_i found
    have exhausted : t.rest = [] := List.head?_eq_none_iff.mp (first.symm.trans found)
    rw [exhausted, List.append_nil]
    exact congrArg (taken.reverse, ·) (next_exhausted bounds exhausted)
termination_by t.distance
decreasing_by exact distance_advance_lt (by assumption)

theorem replace_inside (inside : i < t.length) (x : α) :
    t.replace i x = .ok { t with items := t.items.set i x inside } := dif_pos inside

theorem replace_past (past : t.length ≤ i) (x : α) : t.replace i x = .error ⟨i, t.length⟩ :=
  dif_neg (Nat.not_lt.mpr past)

structure Differs (i : Nat) (x : α) (t u : Tape α) : Prop where
  items : u.toList = t.toList.set i x
  cursor : u.cursor = t.cursor
  inside : i < t.length

theorem replace_differs (inside : i < t.length) (x : α) : ∃ u, t.replace i x = .ok u ∧ Differs i x t u :=
  ⟨_, replace_inside inside x, Array.toList_set _ _ _ inside, rfl, inside⟩

theorem differs_length (differs : Differs i x t u) : u.length = t.length := by
  have lengths := congrArg List.length differs.items
  rwa [List.length_set] at lengths

theorem differs_reads (bounds : t.InBounds) (differs : Differs i x t u) (n : Nat) :
    Differs i x (t.reads n) (u.reads n) := by
  have length := differs_length differs
  have bounds' : u.InBounds := ⟨differs.cursor ▸ bounds.low, by rw [differs.cursor, length]; exact bounds.high⟩
  refine ⟨?_, ?_, ?_⟩
  · rw [toList, toList, reads_items, reads_items]
    exact differs.items
  · rw [reads_cursor bounds, reads_cursor bounds', differs.cursor, length]
  · rw [reads_length]
    exact differs.inside

theorem differs_get (differs : Differs i x t u) (place : Int) :
    u.get? place = if place = i then some x else t.get? place := by
  by_cases low : 0 ≤ place
  · obtain ⟨n, rfl⟩ := Int.eq_ofNat_of_zero_le low
    have inside : i < t.toList.length := differs.inside
    rw [get_inside, get_inside, differs.items, List.getElem?_set, if_pos inside]
    simp only [Int.natCast_inj, eq_comm]
  · rw [get?, get?, if_neg low, if_neg low, if_neg (by omega)]

structure ReadsOut (t : Tape α) (ahead : List α) : Prop where
  count : t.remaining = ahead.length
  answers (more : Nat) : t.answers (t.remaining + more) = ahead.map some ++ List.replicate more none
  items (n : Nat) : (t.reads n).toList = t.toList
  cursor (n : Nat) : (t.reads n).cursor = min (t.cursor + n) t.length
  ended (n : Nat) : t.remaining < n → (t.reads n).cursor = t.length
  drained : t.drain = (ahead, { t with cursor := t.length })

structure LooksAhead (t : Tape α) : Prop where
  inside (k : Nat) : 0 < k → k ≤ t.remaining → ∃ x, t.peek? k = some x ∧ (t.answers k).getLast? = some (some x)
  past (k : Nat) : t.remaining < k → t.peek? k = none

-- However far both tapes are read, `x` is found at one place, and what the other tape has at all others.
structure FoundAt (i : Nat) (x : α) (t u : Tape α) : Prop where
  cursor (n : Nat) : (u.reads n).cursor = (t.reads n).cursor
  current (n : Nat) :
    (u.reads n).current? = if (t.reads n).cursor = i then some x else (t.reads n).current?
  peek (n : Nat) (offset : Int) :
    (u.reads n).peek? offset = if (t.reads n).cursor + offset = i then some x else (t.reads n).peek? offset
  next (n : Nat) :
    (u.reads n).next.1 = if (t.reads (n + 1)).cursor = i then some x else (t.reads n).next.1

theorem reads_out (bounds : t.InBounds) : t.ReadsOut t.rest where
  count := (rest_length bounds.low).symm
  answers := answers_all bounds.low
  items n := congrArg Array.toList (reads_items t n)
  cursor := reads_cursor bounds
  ended n beyond := by
    rw [remaining] at beyond
    rw [reads_cursor bounds]
    omega
  drained := drain_onto t bounds []

theorem looks_ahead (bounds : t.InBounds) : t.LooksAhead where
  inside k positive left := by
    obtain ⟨n, rfl⟩ := Nat.exists_eq_add_one_of_ne_zero (Nat.ne_of_gt positive)
    have inside : n < t.rest.length := by rwa [rest_length bounds.low]
    have found : t.rest[n]? = some t.rest[n] := List.getElem?_eq_getElem inside
    exact ⟨t.rest[n], (peek_rest bounds.low n).trans found, (answers_last bounds.low n).trans (congrArg some found)⟩
  past k beyond := by
    rw [remaining] at beyond
    exact get_past (by omega)

theorem found_at (bounds : t.InBounds) (differs : Differs i x t u) : FoundAt i x t u where
  cursor n := (differs_reads bounds differs n).cursor
  current n := by
    have differs' := differs_reads bounds differs n
    rw [current?, differs_get differs', differs'.cursor]
    rfl
  peek n offset := by
    have differs' := differs_reads bounds differs n
    rw [peek?, differs_get differs', differs'.cursor]
    rfl
  next n := by
    have differs' := differs_reads bounds differs (n + 1)
    rw [← reads_next, ← reads_next] at differs'
    change (u.reads n).next.2.current? = if _ then _ else (t.reads n).next.2.current?
    rw [current?, differs_get differs', differs'.cursor, reads_next]
    rfl

theorem handled_reading (xs : List α) (handlings : List (Handling α)) :
    let t := (ofList xs).handledAll handlings
    t.ReadsOut (t.toList.drop (t.cursor + 1).toNat) ∧
      (∀ n, (t.reads n).LooksAhead) ∧
      (∀ i x, i < t.length → ∃ u, t.replace i x = .ok u ∧ u.toList = t.toList.set i x ∧ u.cursor = t.cursor ∧
        FoundAt i x t u) ∧
      ∀ i x, t.length ≤ i → t.replace i x = .error ⟨i, t.length⟩ ∧ t.handled (.replace i x) = t := by
  intro t
  have bounds : t.InBounds := handled_all_bounds (list_tape_bounds xs) handlings
  refine ⟨reads_out bounds, fun n => looks_ahead (reads_bounds bounds n), fun i x inside => ?_, fun i x past => ?_⟩
  · obtain ⟨u, replaced, differs⟩ := replace_differs inside x
    exact ⟨u, replaced, differs.items, differs.cursor, found_at bounds differs⟩
  · have refused := replace_past past x
    refine ⟨refused, ?_⟩
    rw [handled, refused]
    rfl

theorem handled_reading_midway :
    let t := (ofList ['a', 'b', 'c']).handledAll [.next, .replace 1 'y', .peek 2]
    0 < 2 ∧ 2 ≤ t.remaining ∧ (∃ x, t.peek? 2 = some x ∧ (t.answers 2).getLast? = some (some x)) ∧
      t.remaining < 3 ∧ t.peek? 3 = none ∧ (t.reads 3).cursor = 3 ∧
      t.answers (t.remaining + 2) = [some 'y', some 'c', none, none] ∧
      2 < t.length ∧ (∃ u, t.replace 2 'z' = .ok u ∧ u.toList = ['a', 'y', 'z'] ∧ (u.reads 1).next.1 = some 'z') ∧
      t.length ≤ 3 ∧ t.replace 3 'z' = .error ⟨3, 3⟩ := by
  intro t
  obtain ⟨out, ahead, inside, past⟩ := handled_reading ['a', 'b', 'c'] [.next, .replace 1 'y', .peek 2]
  have two : 2 ≤ t.remaining := by decide
  have three : t.remaining < 3 := by decide
  obtain ⟨u, replaced, items, -, found⟩ := inside 2 'z' (by decide)
  refine ⟨by decide, two, (ahead 0).inside 2 (by decide) two, three, (ahead 0).past 3 three, out.ended 3 three,
    out.answers 2, by decide, ⟨u, replaced, items, ?_⟩, by decide, (past 3 'z' (by decide)).1⟩
  exact (found.next 1).trans (if_pos (by decide))

end PatternLexer.Tape
