import PatternLexer.Log.Event
import PatternLexer.Proofs.Text.Boundary

set_option autoImplicit false

namespace PatternLexer.Log

open String (utf8Len)

-- `t` is the longest of the texts that `s` starts with and that have at most `room` bytes.
structure LongestFront (room : Nat) (s t : String) : Prop where
  front : t.toList <+: s.toList
  fits : t.utf8ByteSize ≤ room
  longest (u : String) : u.toList <+: s.toList → u.utf8ByteSize ≤ room → u.toList <+: t.toList

variable {room : Nat} {cs : List Char}

theorem fitting_cut (long : room < utf8Len cs) : ∃ c rest, cs = fitting room cs ++ c :: rest ∧
    utf8Len (fitting room cs) ≤ room ∧ room < utf8Len (fitting room cs) + c.utf8Size := by
  induction cs generalizing room with
  | nil => cases long
  | cons d cs ih =>
      rw [fitting]
      by_cases fits : d.utf8Size ≤ room
      · rw [String.utf8Len_cons] at long
        obtain ⟨c, rest, whole, low, high⟩ := @ih (room - d.utf8Size) (by omega)
        rw [if_pos fits, String.utf8Len_cons]
        exact ⟨c, rest, congrArg (d :: ·) whole, by omega, by omega⟩
      · rw [if_neg fits]
        exact ⟨d, cs, rfl, Nat.zero_le room, by simpa using fits⟩

theorem fitting_longest {ds : List Char} (front : ds <+: cs) (fits : utf8Len ds ≤ room) (long : room < utf8Len cs) :
    ds <+: fitting room cs := by
  obtain ⟨c, rest, whole, -, high⟩ := fitting_cut long
  -- A longer front would hold the first character that does not fit.
  have next : fitting room cs ++ [c] <+: cs := ⟨rest, by rw [List.append_assoc, List.singleton_append, ← whole]⟩
  rcases List.prefix_or_prefix_of_prefix front next with shorter | longer
  · rcases List.prefix_concat_iff.mp shorter with rfl | within
    · rw [String.utf8Len_append, String.utf8Len_cons, String.utf8Len_nil] at fits
      omega
    · exact within
  · have more := String.utf8Len_le_of_prefix longer
    rw [String.utf8Len_append, String.utf8Len_cons, String.utf8Len_nil] at more
    omega

theorem fitting_searched (long : room < utf8Len cs) :
    lastBoundary? (cs.flatMap String.utf8EncodeChar) room = some (utf8Len (fitting room cs)) ∧
      (fitting room cs).flatMap String.utf8EncodeChar =
        (cs.flatMap String.utf8EncodeChar).take (utf8Len (fitting room cs)) ∧
      utf8Len (fitting room cs) ≤ room ∧ room ≤ utf8Len (fitting room cs) + 3 := by
  obtain ⟨c, rest, whole, low, high⟩ := fitting_cut long
  generalize fitting room cs = front at whole low high ⊢
  subst whole
  have four := c.utf8Size_le_four
  have searched := last_boundary front c rest (room - utf8Len front) (by omega)
  rw [Nat.add_sub_cancel' low] at searched
  refine ⟨searched, ?_, low, by omega⟩
  rw [← chars_length, List.flatMap_append]
  exact List.take_left.symm

theorem limit_cut {message : String} (long : messageLimit < message.utf8ByteSize) :
    ∃ kept place, LongestFront messageLimit message kept ∧ limitMessage message = kept ++ "..." ∧
      lastBoundary? (bytes message) messageLimit = some place ∧ bytes kept = (bytes message).take place ∧
      place ≤ messageLimit ∧ messageLimit ≤ place + 3 ∧ kept.utf8ByteSize = place := by
  have long' : messageLimit < utf8Len message.toList := by rwa [String.utf8Len_toList]
  obtain ⟨c, rest, whole, low, -⟩ := fitting_cut long'
  obtain ⟨searched, taken, within, near⟩ := fitting_searched long'
  refine ⟨String.ofList (fitting messageLimit message.toList), _, ⟨?_, ?_, fun u front fits => ?_⟩,
    if_neg (Nat.not_le.mpr long), bytes_chars message ▸ searched, ?_, within, near, String.utf8ByteSize_ofList _⟩
  · rw [String.toList_ofList]
    exact ⟨c :: rest, whole.symm⟩
  · rwa [String.utf8ByteSize_ofList]
  · rw [String.toList_ofList]
    rw [← String.utf8Len_toList] at fits
    exact fitting_longest front fits long'
  · rw [bytes_chars, bytes_chars, String.toList_ofList]
    exact taken

theorem message_limited (code : Code) (message : String) :
    ∀ e ∈ [Event.error code message, .success code message, .warning message, .info message, .debug message],
      (message.utf8ByteSize ≤ messageLimit → e.message = message) ∧
        (messageLimit < message.utf8ByteSize → ∃ kept place,
          LongestFront messageLimit message kept ∧ e.message = kept ++ "..." ∧
          lastBoundary? (bytes message) messageLimit = some place ∧ bytes kept = (bytes message).take place ∧
          place ≤ messageLimit ∧ messageLimit - place ≤ 3 ∧
          messageLimit ≤ e.message.utf8ByteSize ∧ e.message.utf8ByteSize ≤ messageLimit + 3) := by
  intro e member
  have same : e.message = limitMessage message := by
    simp only [List.mem_cons, List.not_mem_nil, or_false] at member
    rcases member with rfl | rfl | rfl | rfl | rfl <;> rfl
  rw [same]
  refine ⟨fun fits => if_pos fits, fun long => ?_⟩
  obtain ⟨kept, place, longest, stored, searched, taken, within, near, size⟩ := limit_cut long
  have dots : "...".utf8ByteSize = 3 := by decide
  refine ⟨kept, place, longest, stored, searched, taken, within, by omega, ?_⟩
  rw [stored, String.utf8ByteSize_append, dots, size]
  omega

theorem message_limited_straddling :
    let long := String.ofList (List.replicate 4093 'a' ++ ['😀'])
    let e := Event.debug long
    messageLimit < long.utf8ByteSize ∧
      (∃ kept place, LongestFront messageLimit long kept ∧ e.message = kept ++ "..." ∧
        lastBoundary? (bytes long) messageLimit = some place ∧ bytes kept = (bytes long).take place ∧
        place ≤ messageLimit ∧ messageLimit - place ≤ 3 ∧
        messageLimit ≤ e.message.utf8ByteSize ∧ e.message.utf8ByteSize ≤ messageLimit + 3) ∧
      "short".utf8ByteSize ≤ messageLimit ∧ (Event.warning "short").message = "short" := by
  intro long e
  have beyond : messageLimit < long.utf8ByteSize := by
    rw [String.utf8ByteSize_ofList]
    decide +kernel
  have fits : "short".utf8ByteSize ≤ messageLimit := by decide
  exact ⟨beyond, (message_limited .anyDebug long e (by simp [e])).2 beyond, fits,
    (message_limited .anyWarning "short" (.warning "short") (by simp)).1 fits⟩

end PatternLexer.Log
