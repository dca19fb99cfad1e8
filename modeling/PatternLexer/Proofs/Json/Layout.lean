import PatternLexer.Proofs.Json.Inversion

set_option autoImplicit false

namespace PatternLexer.Json

open Reader

def Blank (cs : List Char) : Prop := ∀ c ∈ cs, isBlank c = true

inductive LaidMember (m : String × String) : List Char → Prop where
  | parts {b₁ b₂ b₃ b₄ name lexeme : List Char} (blank₁ : Blank b₁) (named : Quoted m.1 name) (blank₂ : Blank b₂)
      (blank₃ : Blank b₃) (bound : Quoted m.2 lexeme) (blank₄ : Blank b₄) :
      LaidMember m (b₁ ++ (name ++ (b₂ ++ ':' :: (b₃ ++ (lexeme ++ b₄)))))

inductive LaidMembers : List (String × String) → List Char → Prop where
  | last {m : String × String} {cs : List Char} (member : LaidMember m cs) : LaidMembers [m] cs
  | more {m : String × String} {ms : List (String × String)} {cs rest : List Char} (member : LaidMember m cs)
      (others : LaidMembers ms rest) : LaidMembers (m :: ms) (cs ++ ',' :: rest)

inductive Lists : List (String × String) → String → Prop where
  | none {b₁ b₂ b₃ : List Char} (blank₁ : Blank b₁) (blank₂ : Blank b₂) (blank₃ : Blank b₃) :
      Lists [] (String.ofList (b₁ ++ '\x7b' :: (b₂ ++ '\x7d' :: b₃)))
  | some {b₁ b₂ cs : List Char} {members : List (String × String)} (blank₁ : Blank b₁) (laid : LaidMembers members cs)
      (blank₂ : Blank b₂) : Lists members (String.ofList (b₁ ++ '\x7b' :: (cs ++ '\x7d' :: b₂)))

variable {m : String × String} {ms : List (String × String)} {s : String} {c : Char} {cs b r : List Char}

theorem skip_blank (blank : Blank b) (r : List Char) : skipBlanks (b ++ r) = skipBlanks r :=
  List.dropWhile_append_of_pos blank

theorem skip_blank_solid (blank : Blank b) (r : List Char) (solid : isBlank c = false) :
    skipBlanks (b ++ c :: r) = c :: r := by
  rw [skip_blank blank, skip_solid r solid]

theorem blank_skipped (blank : Blank b) : skipBlanks b = [] := by
  have skipped := skip_blank blank []
  rwa [List.append_nil] at skipped

theorem quoted_value (quoted : Quoted s cs) (blank : Blank b) (fuel : Nat) (r : List Char) :
    value? (fuel + 1) (b ++ (cs ++ r)) = some (text s, r) := by
  obtain ⟨inner, rfl, read⟩ := quoted_tail quoted
  rw [value?, List.cons_append, skip_blank_solid blank _ (by decide)]
  simp only [read, Option.map_some, text]

theorem laid_read (laid : LaidMember m cs) (fuel : Nat) (taken : List (Option String × Json)) (r : List Char) :
    members? (fuel + 2) taken (cs ++ r) = onward? (fuel + 1) ((some m.1, text m.2) :: taken) r := by
  obtain @⟨b₁, b₂, b₃, b₄, name, lexeme, blank₁, named, blank₂, blank₃, bound, blank₄⟩ := laid
  have value := quoted_value bound blank₃ fuel (b₄ ++ r)
  obtain ⟨inner, rfl, read⟩ := quoted_tail named
  simp only [List.append_assoc, List.cons_append]
  rw [members?, skip_blank_solid blank₁ _ (by decide)]
  simp only [read, skip_blank_solid blank₂ _ (show isBlank ':' = false by decide), value]
  change onward? (fuel + 1) _ (b₄ ++ r) = _
  rw [onward?, onward?, skip_blank blank₄]

theorem laid_opened (laid : LaidMember m cs) (r : List Char) : ∃ inner, skipBlanks (cs ++ r) = '"' :: inner := by
  obtain ⟨blank₁, named, -⟩ := laid
  obtain ⟨inner, rfl, -⟩ := quoted_tail named
  rw [List.append_assoc, skip_blank blank₁, List.append_assoc, List.cons_append, skip_solid _ (by decide)]
  exact ⟨_, rfl⟩

theorem all_laid_opened (laid : LaidMembers ms cs) (r : List Char) : ∃ inner, skipBlanks (cs ++ r) = '"' :: inner := by
  cases laid with
  | last member => exact laid_opened member r
  | more member _ =>
      rw [List.append_assoc]
      exact laid_opened member _

def textMembers (ms : List (String × String)) : List (Option String × Json) := ms.map fun m => (some m.1, text m.2)

theorem record_texts (members : List (String × String)) :
    record (members.map fun m => (m.1, text m.2)) = object (textMembers members) := by
  simp [record, textMembers]

theorem all_laid_read (laid : LaidMembers ms cs) (fuel : Nat) (enough : ms.length < fuel)
    (taken : List (Option String × Json)) (r : List Char) :
    members? fuel taken (cs ++ '\x7d' :: r) = some (object (taken.reverse ++ textMembers ms), r) := by
  induction laid generalizing taken fuel with
  | @last m cs member =>
      -- One step is for the member and one for its value.
      obtain ⟨fuel, rfl⟩ : ∃ left, fuel = left + 2 := Nat.exists_eq_add_of_le' enough
      rw [laid_read member, onward?, skip_solid r (by decide)]
      simp [textMembers]
  | @more m ms cs rest member _ ih =>
      have two : 2 ≤ fuel := Nat.le_trans (by simp) enough
      obtain ⟨fuel, rfl⟩ := Nat.exists_eq_add_of_le' two
      rw [List.append_assoc, laid_read member, onward?, List.cons_append, skip_solid _ (by decide)]
      refine (ih (fuel + 1) (by simpa using enough) _).trans ?_
      simp [textMembers]

theorem all_laid_length (laid : LaidMembers ms cs) : ms.length ≤ cs.length := by
  induction laid with
  | last member =>
      obtain ⟨-, ⟨-⟩⟩ := member
      simp only [List.length_cons, List.length_nil, List.length_append]
      omega
  | more _ _ ih =>
      simp only [List.length_cons, List.length_append]
      omega

theorem lists_read {members : List (String × String)} {text : String} (lists : Lists members text) :
    parse? text = some (record (members.map fun m => (m.1, Json.text m.2))) := by
  rw [record_texts, parse?]
  cases lists with
  | @none b₁ b₂ b₃ blank₁ blank₂ blank₃ =>
      rw [String.toList_ofList, value?, skip_blank_solid blank₁ _ (by decide)]
      simp only [skip_blank_solid blank₂ _ (show isBlank '\x7d' = false by decide), blank_skipped blank₃]
      rfl
  | @some b₁ b₂ cs members blank₁ laid blank₂ =>
      have enough : members.length < (b₁ ++ '\x7b' :: (cs ++ '\x7d' :: b₂)).length := by
        have fits := all_laid_length laid
        simp only [List.length_append, List.length_cons]
        omega
      have read := all_laid_read laid _ enough [] b₂
      obtain ⟨inner, opened⟩ := all_laid_opened laid ('\x7d' :: b₂)
      rw [String.toList_ofList, value?, skip_blank_solid blank₁ _ (by decide)]
      simp only [opened, read]
      change (if (skipBlanks b₂).isEmpty = true then _ else none) = _
      rw [blank_skipped blank₂]
      rfl

theorem member_written (m : String × String) : LaidMember m (spellMember (some m.1, text m.2)) := by
  have none : Blank [] := nofun
  have laid := LaidMember.parts none (string_written m.1) none none (string_written m.2) none
  rwa [List.append_nil] at laid

theorem members_written (m : String × String) (ms : List (String × String)) :
    LaidMembers (m :: ms) (spellMember (some m.1, text m.2) ++ spellMembers (textMembers ms)) := by
  induction ms generalizing m with
  | nil =>
      rw [textMembers, List.map_nil, spellMembers, List.append_nil]
      exact .last (member_written m)
  | cons m' ms ih => exact .more (member_written m) (ih m')

theorem record_lists (members : List (String × String)) :
    Lists members (record (members.map fun m => (m.1, text m.2))).write := by
  have none : Blank [] := nofun
  rw [record_texts, ← String.ofList_toList (s := write _), write_spell]
  cases members with
  | nil => exact .none none none none
  | cons m ms =>
      have lists := Lists.some none (members_written m ms) none
      rw [List.append_assoc] at lists
      exact lists

end PatternLexer.Json
