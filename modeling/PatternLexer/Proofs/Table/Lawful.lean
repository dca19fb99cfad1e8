import PatternLexer.Table.Basic

set_option autoImplicit false

namespace PatternLexer

namespace Binding

structure Sound (b : Binding) : Prop where
  bindable : b.kind.isLiteral = false
  nonempty : b.lexeme ≠ ""
  escaping : b.lexeme = "\\" → b.kind.isDirect = false
  letter : b.kind.isShorthand = true → ∃ c : Char, b.lexeme = String.singleton c ∧ c.isLower = true

theorem shorthand_lexeme_iff (lexeme : String) :
    isShorthandLexeme lexeme = true ↔ ∃ c : Char, lexeme = String.singleton c ∧ c.isLower = true := by
  unfold isShorthandLexeme
  constructor
  · intro small
    split at small
    · rename_i c single
      exact ⟨c, String.toList_inj.mp (by simp [single]), small⟩
    · cases small
  · rintro ⟨c, rfl, lower⟩
    simpa using lower

theorem fault_none_iff (b : Binding) : b.fault? = none ↔ b.Sound := by
  constructor
  · intro free
    unfold fault? at free
    split at free
    · cases free
    · rename_i bindable
      split at free
      · cases free
      · rename_i nonempty
        split at free
        · cases free
        · rename_i escaping
          split at free
          · cases free
          · rename_i letter
            refine ⟨by simpa using bindable, nonempty, fun backslash => ?_, fun shorthand => ?_⟩
            · exact Bool.eq_false_iff.mpr fun direct => escaping ⟨backslash, direct⟩
            · exact (shorthand_lexeme_iff b.lexeme).mp (by simpa [shorthand] using letter)
  · rintro ⟨bindable, nonempty, escaping, letter⟩
    have open' : ¬ (b.lexeme = "\\" ∧ b.kind.isDirect = true) := by
      rintro ⟨backslash, direct⟩
      rw [escaping backslash] at direct
      cases direct
    have small : ¬ (b.kind.isShorthand = true ∧ (!isShorthandLexeme b.lexeme) = true) := by
      rintro ⟨shorthand, other⟩
      rw [(shorthand_lexeme_iff b.lexeme).mpr (letter shorthand)] at other
      cases other
    rw [fault?, if_neg (by simp [bindable]), if_neg nonempty, if_neg open', if_neg small]

end Binding

namespace Table

def Lawful (t : Table) : Prop := ∀ lexeme k, t.kindOf? lexeme = some k → Binding.fault? ⟨k, lexeme⟩ = none

theorem kind_of_insert (t : Table) (b : Binding) (lexeme : String) :
    (t.insert b).kindOf? lexeme = if b.lexeme = lexeme then some b.kind else t.kindOf? lexeme := by
  simp [kindOf?, insert, Std.ExtTreeMap.getElem?_insert]

theorem kind_of_empty (lexeme : String) : ({} : Table).kindOf? lexeme = none := by
  simp [kindOf?]

theorem lawful_empty : ({} : Table).Lawful := by
  intro lexeme k bound
  rw [kind_of_empty] at bound
  cases bound

theorem lawful_bind {t t' : Table} {b : Binding} (lawful : t.Lawful) (accepted : t.bind b = .ok t') :
    t'.Lawful := by
  unfold bind at accepted
  split at accepted
  · cases accepted
  · rename_i sound
    split at accepted
    · cases accepted
    · obtain rfl := Except.ok.inj accepted
      intro lexeme k bound
      rw [kind_of_insert] at bound
      by_cases same : b.lexeme = lexeme
      · rw [if_pos same, Option.some.injEq] at bound
        rw [← same, ← bound]
        exact sound
      · rw [if_neg same] at bound
        exact lawful lexeme k bound

theorem lawful_bind_all {t t' : Table} (bs : List Binding) (lawful : t.Lawful)
    (accepted : t.bindAll bs = .ok t') : t'.Lawful := by
  induction bs generalizing t with
  | nil =>
      obtain rfl := Except.ok.inj accepted
      exact lawful
  | cons b bs ih =>
      rw [bindAll] at accepted
      split at accepted
      · rename_i next bound
        exact ih (lawful_bind lawful bound) accepted
      · cases accepted

theorem lawful_of_bindings {bs : List Binding} {t : Table} (accepted : ofBindings bs = .ok t) : t.Lawful :=
  lawful_bind_all bs lawful_empty accepted

theorem lawful_sound {t : Table} (lawful : t.Lawful) {lexeme : String} {k : Kind}
    (bound : t.kindOf? lexeme = some k) : (Binding.mk k lexeme).Sound :=
  (Binding.fault_none_iff _).mp (lawful lexeme k bound)

theorem lawful_nonempty {t : Table} (lawful : t.Lawful) : t.kindOf? "" = none := by
  cases bound : t.kindOf? "" with
  | none => rfl
  | some k => exact absurd rfl (lawful_sound lawful bound).nonempty

theorem lawful_bindable {t : Table} (lawful : t.Lawful) {lexeme : String} {k : Kind}
    (bound : t.kindOf? lexeme = some k) : k.isLiteral = false :=
  (lawful_sound lawful bound).bindable

theorem lawful_backslash {t : Table} (lawful : t.Lawful) :
    (t.kindOfChar? '\\').filter Kind.isDirect = none := by
  cases bound : t.kindOfChar? '\\' with
  | none => rfl
  | some k => simp [Option.filter, (lawful_sound lawful bound).escaping rfl]

theorem lawful_shorthand {t : Table} (lawful : t.Lawful) {lexeme : String} {k : Kind}
    (bound : t.kindOf? lexeme = some k) (shorthand : k.isShorthand = true) :
    ∃ c : Char, lexeme = String.singleton c ∧ c.isLower = true :=
  (lawful_sound lawful bound).letter shorthand

end Table

end PatternLexer
