import Mathlib.Logic.Function.Iterate
import PatternLexer.Proofs.Tape.Halves

set_option autoImplicit false

namespace PatternLexer.Tape

variable {α : Type}

theorem cut_advances (behind span ahead : List α) :
    advance^[span.length] (cut behind (span ++ ahead)) = cut (behind ++ span) ahead := by
  induction span generalizing behind with
  | nil => rw [List.append_nil]; rfl
  | cons x span ih =>
      rw [List.length_cons, Function.iterate_succ_apply, List.cons_append, cut_advance_cons, ih,
        List.append_assoc, List.singleton_append]

theorem list_tape_advances (xs : List α) {n : Nat} (inside : n ≤ xs.length) :
    advance^[n] (ofList xs) = cut (xs.take n) (xs.drop n) := by
  have moved := cut_advances [] (xs.take n) (xs.drop n)
  rwa [List.take_append_drop, List.length_take_of_le inside] at moved

inductive Overwritten (t : Tape α) : Tape α → Prop where
  | same : Overwritten t t
  | replace {u v : Tape α} {i : Nat} {x : α} (before : Overwritten t u) (passed : i ≤ t.cursor)
      (replaced : u.replace i x = .ok v) : Overwritten t v

theorem cut_replace_behind (behind ahead : List α) {i : Nat} (x : α) (passed : i < behind.length) :
    (cut behind ahead).replace i x = .ok (cut (behind.set i x) ahead) := by
  have inside : i < (cut behind ahead).items.size := by
    simp only [cut, List.size_toArray, List.length_append]
    omega
  rw [replace, dif_pos inside]
  simp [cut, passed]

theorem cut_overwritten {behind ahead : List α} {tape : Tape α}
    (overwritten : (cut behind ahead).Overwritten tape) :
    ∃ behind', behind'.length = behind.length ∧ tape = cut behind' ahead := by
  induction overwritten with
  | same => exact ⟨behind, rfl, rfl⟩
  | @replace u v i x _ passed replaced ih =>
      obtain ⟨behind', length, rfl⟩ := ih
      have before : i < behind'.length := by
        simp only [cut] at passed
        omega
      rw [cut_replace_behind behind' ahead x before, Except.ok.injEq] at replaced
      exact ⟨behind'.set i x, by rw [List.length_set, length], replaced.symm⟩

end PatternLexer.Tape
