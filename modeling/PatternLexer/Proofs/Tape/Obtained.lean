import PatternLexer.Proofs.Json.Lossless
import PatternLexer.Proofs.Tape.Handling

set_option autoImplicit false

namespace PatternLexer.Tape

variable {α : Type}

def bare (n : Int) : Tape α := ⟨#[], n⟩

theorem bare_written (item? : Json → Option α) (n : Int) :
    ofText? item? ((bare n : Tape α).written fun _ => .null) = some (bare n) ↔ Word n :=
  tape_written (t := bare n) nofun nofun

-- A tape read from a text stands wherever the text says, which no reader compares with the number of the items.
theorem obtained_bounds_iff (item? : Json → Option α) :
    (∀ (xs : List α) (moves : List (Move α)), ∀ u ∈ movedAll [ofList xs] moves, u.InBounds ∧ u.Forecasts) ∧
      (∀ (text : String) (t : Tape α), ofText? item? text = some t →
        ((∀ moves : List (Move α), ∀ u ∈ movedAll [t] moves, u.InBounds ∧ u.Forecasts) ↔
          -1 ≤ t.cursor ∧ t.cursor ≤ t.length)) ∧
      (∀ t : Tape α, t.Forecasts ↔ -1 ≤ t.cursor) ∧
      ∀ n : Int, Word n → ∃ (text : String) (t : Tape α), ofText? item? text = some t ∧ t.cursor = n ∧ t.length = 0 := by
  refine ⟨fun xs => moved_bounds (list_tape_bounds xs), fun text t _ => ⟨fun all => ?_, fun bounds => ?_⟩,
    forecasts_iff, fun n word => ⟨_, bare n, (bare_written item? n).mpr word, rfl, rfl⟩⟩
  · have start : t ∈ movedAll [t] [] := List.mem_singleton_self t
    obtain ⟨⟨low, high⟩, -⟩ := all [] t start
    exact ⟨low, high⟩
  · exact moved_bounds ⟨bounds.1, bounds.2⟩

theorem obtained_bounds_iff_early :
    let text := "\x7b\"items\":[\"a\"],\"cursor\":-5\x7d"
    let t : Tape Char := ⟨#['a'], -5⟩
    ofText? Json.char? text = some t ∧ t.hasNext = true ∧ t.next.1 = none ∧ ¬ t.Forecasts ∧
      (¬ ∀ moves : List (Move Char), ∀ u ∈ movedAll [t] moves, u.InBounds ∧ u.Forecasts) ∧ Word 9223372036854775807 ∧
      ∃ (past : String) (u : Tape Char),
        ofText? Json.char? past = some u ∧ u.cursor = 9223372036854775807 ∧ u.length = 0 := by
  intro text t
  have read : ofText? Json.char? text = some t := by decide +kernel
  have word : Word 9223372036854775807 := ⟨by decide, by decide⟩
  obtain ⟨-, kept, forecasts, obtained⟩ := obtained_bounds_iff Json.char?
  refine ⟨read, by decide, by decide, fun true' => absurd ((forecasts t).mp true') (by decide), fun all => ?_, word,
    obtained _ word⟩
  exact absurd ((kept text t read).mp all).1 (by decide)

end PatternLexer.Tape
