import Mathlib.Data.List.TakeWhile
import PatternLexer.Proofs.Json.Layout

set_option autoImplicit false

namespace PatternLexer.Json

open Reader

variable {s : String} {cs r : List Char} {fuel : Nat} {j v : Json} {taken os : List (Option String × Json)}
  {ms : List (String × String)}

theorem blanks_before (cs : List Char) : ∃ b, Blank b ∧ cs = b ++ skipBlanks cs :=
  ⟨cs.takeWhile isBlank, fun _ member => List.mem_takeWhile_imp member, List.takeWhile_append_dropWhile.symm⟩

theorem solid_start {c : Char} (skipped : skipBlanks cs = c :: r) : ∃ b, Blank b ∧ cs = b ++ c :: r := by
  obtain ⟨b, blank, split⟩ := blanks_before cs
  exact ⟨b, blank, skipped ▸ split⟩

theorem number_of_plain (negative : Bool) (whole tail : List Char) :
    (∃ n, numberOf negative whole tail = int n) ∨ ∃ spelling, numberOf negative whole tail = real spelling := by
  unfold numberOf
  split
  · exact .inl ⟨_, rfl⟩
  · split
    · exact .inr ⟨_, rfl⟩
    · exact .inl ⟨_, rfl⟩
  · exact .inr ⟨_, rfl⟩
  · exact .inr ⟨_, rfl⟩

theorem number_plain (read : number? cs = some (j, r)) : (∃ n, j = int n) ∨ ∃ spelling, j = real spelling := by
  rw [number?] at read
  dsimp only at read
  split at read
  · cases read
  · split at read
    · cases read
    · split at read
      · cases read
      · obtain ⟨rfl, -⟩ := Prod.mk.inj (Option.some.inj read)
        exact number_of_plain _ _ _

theorem items_array (taken : List Json) (read : Reader.items? fuel taken cs = some (j, r)) : ∃ vs, j = array vs := by
  induction fuel generalizing taken cs with
  | zero => cases read
  | succ fuel ih =>
      rw [Reader.items?] at read
      split at read
      · cases read
      · split at read
        · exact ih _ read
        · obtain ⟨rfl, -⟩ := Prod.mk.inj (Option.some.inj read)
          exact ⟨_, rfl⟩
        · cases read

theorem members_step (read : members? (fuel + 1) taken cs = some (j, r)) : ∃ b b' q name v r' rest,
    Blank b ∧ cs = b ++ '"' :: q ∧ stringTail? {} q = some (name, b' ++ ':' :: r') ∧ Blank b' ∧
      value? fuel r' = some (v, rest) ∧ onward? fuel ((name, v) :: taken) rest = some (j, r) := by
  rw [members?] at read
  split at read
  · rename_i q opened
    split at read
    · cases read
    · rename_i name after tail
      split at read
      · rename_i r' colon
        split at read
        · cases read
        · rename_i v rest value
          obtain ⟨b, blank, split⟩ := solid_start opened
          obtain ⟨b', blank', rfl⟩ := solid_start colon
          exact ⟨b, b', q, name, v, r', rest, blank, split, tail, blank', value, read⟩
      · cases read
  · cases read

theorem onward_cases (read : onward? fuel taken cs = some (j, r)) : ∃ b, Blank b ∧
    ((∃ rest, cs = b ++ ',' :: rest ∧ members? fuel taken rest = some (j, r)) ∨
      cs = b ++ '\x7d' :: r ∧ j = object taken.reverse) := by
  rw [onward?] at read
  split at read
  · rename_i rest comma
    obtain ⟨b, blank, split⟩ := solid_start comma
    exact ⟨b, blank, .inl ⟨rest, split, read⟩⟩
  · rename_i rest brace
    obtain ⟨b, blank, split⟩ := solid_start brace
    obtain ⟨rfl, rfl⟩ := Prod.mk.inj (Option.some.inj read)
    exact ⟨b, blank, .inr ⟨split, rfl⟩⟩
  · cases read

theorem members_object (read : members? fuel taken cs = some (j, r)) : ∃ os, j = object (taken.reverse ++ os) := by
  induction fuel generalizing taken cs with
  | zero => cases read
  | succ fuel ih =>
      obtain ⟨-, -, -, name, v, -, rest, -, -, -, -, -, onward⟩ := members_step read
      obtain ⟨-, -, ⟨more, -, again⟩ | ⟨-, rfl⟩⟩ := onward_cases onward
      · obtain ⟨os, rfl⟩ := ih again
        exact ⟨(name, v) :: os, by rw [List.reverse_cons, List.append_assoc, List.singleton_append]⟩
      · exact ⟨[(name, v)], by rw [List.reverse_cons]⟩

theorem value_cases (read : value? fuel cs = some (j, r)) :
    (∃ b q t, Blank b ∧ cs = b ++ '"' :: q ∧ stringTail? {} q = some (t, r) ∧ j = string t) ∨
      (∃ b rest, Blank b ∧ cs = b ++ '\x7b' :: rest ∧
        ((∃ b', Blank b' ∧ rest = b' ++ '\x7d' :: r ∧ j = object []) ∨
          ∃ left, members? left [] rest = some (j, r))) ∨
      (∀ t, j ≠ string t) ∧ ∀ os, j ≠ object os := by
  cases fuel with
  | zero => cases read
  | succ left =>
      rw [value?] at read
      split at read
      case h_4 q opened =>
        obtain ⟨b, blank, split⟩ := solid_start opened
        obtain ⟨⟨t, rest⟩, tail, same⟩ := Option.map_eq_some_iff.mp read
        obtain ⟨rfl, rfl⟩ := Prod.mk.inj same
        exact .inl ⟨b, q, t, blank, split, tail, rfl⟩
      case h_6 rest opened =>
        obtain ⟨b, blank, split⟩ := solid_start opened
        refine .inr (.inl ⟨b, rest, blank, split, ?_⟩)
        split at read
        · rename_i closed
          obtain ⟨b', blank', split'⟩ := solid_start closed
          obtain ⟨rfl, rfl⟩ := Prod.mk.inj (Option.some.inj read)
          exact .inl ⟨b', blank', split', rfl⟩
        · exact .inr ⟨left, read⟩
      case h_5 =>
        split at read
        · obtain ⟨rfl, -⟩ := Prod.mk.inj (Option.some.inj read)
          exact .inr (.inr ⟨nofun, nofun⟩)
        · obtain ⟨vs, rfl⟩ := items_array _ read
          exact .inr (.inr ⟨nofun, nofun⟩)
      case h_7 => rcases number_plain read with ⟨n, rfl⟩ | ⟨spelling, rfl⟩ <;> exact .inr (.inr ⟨nofun, nofun⟩)
      all_goals
        obtain ⟨rfl, -⟩ := Prod.mk.inj (Option.some.inj read)
        exact .inr (.inr ⟨nofun, nofun⟩)

theorem value_text (read : value? fuel cs = some (text s, r)) : ∃ b q, Blank b ∧ Quoted s q ∧ cs = b ++ (q ++ r) := by
  rcases value_cases read with ⟨b, q, t, blank, rfl, tail, same⟩ | ⟨b, rest, -, -, object⟩ | ⟨other, -⟩
  · obtain rfl := Json.string.inj same
    obtain ⟨q, quoted, rfl⟩ := tail_quoted tail
    exact ⟨b, _, blank, quoted, rfl⟩
  · rcases object with ⟨-, -, -, same⟩ | ⟨left, again⟩
    · cases same
    · obtain ⟨os, same⟩ := members_object again
      cases same
  · exact absurd rfl (other _)

theorem text_members_cons {name : Option String} (same : (name, v) :: os = textMembers ms) :
    ∃ m ms', ms = m :: ms' ∧ name = some m.1 ∧ v = text m.2 ∧ os = textMembers ms' := by
  cases ms with
  | nil => cases same
  | cons m ms =>
      obtain ⟨first, rest⟩ := List.cons.inj same
      obtain ⟨rfl, rfl⟩ := Prod.mk.inj first
      exact ⟨m, ms, rfl, rfl, rfl, rest⟩

theorem members_laid (read : members? fuel taken cs = some (object (taken.reverse ++ textMembers ms), r)) :
    ∃ body, LaidMembers ms body ∧ cs = body ++ '\x7d' :: r := by
  induction fuel generalizing taken cs ms with
  | zero => cases read
  | succ fuel ih =>
      obtain ⟨b₁, b₂, q, name, v, r', rest, blank₁, rfl, tail, blank₂, value, onward⟩ := members_step read
      have member {m : String × String} (named : name = some m.1) (bound : v = text m.2) {b₄ : List Char}
          (blank₄ : Blank b₄) (more : List Char) (split : rest = b₄ ++ more) :
          ∃ body, LaidMember m body ∧ b₁ ++ '"' :: q = body ++ more := by
        subst named bound split
        obtain ⟨q, quoted, rfl⟩ := tail_quoted tail
        obtain ⟨b₃, lexeme, blank₃, quoted', rfl⟩ := value_text value
        exact ⟨_, .parts blank₁ quoted blank₂ blank₃ quoted' blank₄, by simp⟩
      obtain ⟨b₄, blank₄, ⟨more, split, again⟩ | ⟨split, same⟩⟩ := onward_cases onward
      · obtain ⟨os, same⟩ := members_object again
        rw [List.reverse_cons, List.append_assoc, List.singleton_append, Json.object.injEq,
          List.append_cancel_left_eq] at same
        obtain ⟨m, ms, rfl, named, bound, rfl⟩ := text_members_cons same.symm
        obtain ⟨body, laid, whole⟩ := member named bound blank₄ _ split
        -- The members read so far begin the result, so this one is the first of what is left.
        have further : members? fuel ((name, v) :: taken) more =
            some (object (((name, v) :: taken).reverse ++ textMembers ms), r) := by
          rw [again, named, bound]
          simp [textMembers]
        obtain ⟨others, all, rfl⟩ := ih further
        exact ⟨body ++ ',' :: others, .more laid all, by rw [whole, List.append_assoc, List.cons_append]⟩
      · rw [List.reverse_cons, Json.object.injEq, List.append_cancel_left_eq] at same
        obtain ⟨m, ms, rfl, named, bound, none⟩ := text_members_cons same.symm
        obtain ⟨body, laid, whole⟩ := member named bound blank₄ _ split
        obtain rfl : ms = [] := List.map_eq_nil_iff.mp none.symm
        exact ⟨body, .last laid, whole⟩

theorem lists_iff (members : List (String × String)) (text : String) :
    parse? text = some (record (members.map fun m => (m.1, Json.text m.2))) ↔ Lists members text := by
  refine ⟨fun read => ?_, lists_read⟩
  rw [record_texts, parse?] at read
  split at read
  · rename_i v rest value
    split at read
    · rename_i ended
      obtain rfl := Option.some.inj read
      have blank : Blank rest := by
        obtain ⟨b, blank, whole⟩ := blanks_before rest
        rw [List.isEmpty_iff.mp ended, List.append_nil] at whole
        exact whole ▸ blank
      rw [← String.ofList_toList (s := text)]
      rcases value_cases value with ⟨_, _, _, -, -, -, same⟩ | ⟨b, body, blank', whole, object⟩ | ⟨-, other⟩
      · cases same
      · rw [whole]
        rcases object with ⟨b', blank'', rfl, same⟩ | ⟨left, read⟩
        · obtain rfl := List.map_eq_nil_iff.mp (Json.object.inj same)
          exact .none blank' blank'' blank
        · rw [← List.nil_append (textMembers members), ← List.reverse_nil] at read
          obtain ⟨laid, all, rfl⟩ := members_laid read
          exact .some blank' all blank
      · exact absurd rfl (other _)
    · cases read
  · cases read

end PatternLexer.Json
