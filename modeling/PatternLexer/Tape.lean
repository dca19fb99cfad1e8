set_option autoImplicit false

namespace PatternLexer

-- The cursor starts before the first item. Reading moves it up to the length of the tape, where it stays.
structure Tape (α : Type) where
  items : Array α
  cursor : Int := -1
deriving DecidableEq

namespace Tape

variable {α : Type}

def ofList (xs : List α) : Tape α := ⟨xs.toArray, -1⟩

def toList (t : Tape α) : List α := t.items.toList

def length (t : Tape α) : Nat := t.items.size

def isEmpty (t : Tape α) : Bool := t.items.isEmpty

def get? (t : Tape α) (place : Int) : Option α :=
  if 0 ≤ place then t.items[place.toNat]? else none

def current? (t : Tape α) : Option α := t.get? t.cursor

def peek? (t : Tape α) (offset : Int) : Option α := t.get? (t.cursor + offset)

def advance (t : Tape α) : Tape α :=
  if t.cursor < t.length then { t with cursor := t.cursor + 1 } else t

def next (t : Tape α) : Option α × Tape α := (t.advance.current?, t.advance)

def position (t : Tape α) : Nat := t.cursor.toNat

def hasNext (t : Tape α) : Bool := t.cursor + 1 < t.length

def remaining (t : Tape α) : Nat := (t.length - t.cursor - 1).toNat

def rest (t : Tape α) : List α := t.toList.drop (t.cursor + 1).toNat

structure OutOfBounds where
  index : Nat
  length : Nat
deriving DecidableEq

def OutOfBounds.message (e : OutOfBounds) : String :=
  s!"Index {e.index} out of bounds for stream of length {e.length}"

def replace (t : Tape α) (index : Nat) (x : α) : Except OutOfBounds (Tape α) :=
  if h : index < t.items.size then .ok { t with items := t.items.set index x }
  else .error ⟨index, t.length⟩

@[simp] theorem advance_items (t : Tape α) : t.advance.items = t.items := by
  unfold advance; split <;> rfl

@[simp] theorem advance_length (t : Tape α) : t.advance.length = t.length := by
  simp [length]

theorem cursor_le_advance (t : Tape α) : t.cursor ≤ t.advance.cursor := by
  unfold advance; split
  · show t.cursor ≤ t.cursor + 1
    omega
  · exact Int.le_refl _

theorem get?_isSome_lt {t : Tape α} {place : Int} {x : α} (h : t.get? place = some x) :
    0 ≤ place ∧ place < t.length := by
  unfold get? at h
  split at h
  · have := (Array.getElem?_eq_some_iff.mp h).1
    constructor
    · assumption
    · simp only [length]; omega
  · simp at h

theorem next_some {t : Tape α} {x : α} (h : t.next.1 = some x) :
    t.cursor < t.length ∧ t.advance.cursor = t.cursor + 1 := by
  by_cases hc : t.cursor < t.length
  · exact ⟨hc, by simp [advance, hc]⟩
  · have hn : t.advance = t := by simp [advance, hc]
    have := get?_isSome_lt (show t.get? t.cursor = some x by simpa [next, hn, current?] using h)
    omega

def distance (t : Tape α) : Nat := (t.length - t.cursor).toNat

theorem distance_advance_lt {t : Tape α} {x : α} (h : t.next.1 = some x) :
    t.advance.distance < t.distance := by
  have := next_some h
  simp only [distance, advance_length]
  omega

theorem distance_advance_le (t : Tape α) : t.advance.distance ≤ t.distance := by
  have := cursor_le_advance t
  simp only [distance, advance_length]
  omega

def drainOnto (t : Tape α) (taken : List α) : List α × Tape α :=
  match _h : t.next.1 with
  | some x => t.advance.drainOnto (x :: taken)
  | none => (taken.reverse, t.advance)
termination_by t.distance
decreasing_by exact distance_advance_lt (by assumption)

def drain (t : Tape α) : List α × Tape α := t.drainOnto []

end Tape

end PatternLexer
