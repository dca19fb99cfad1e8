import PatternLexer.Json.Record
import PatternLexer.Tape

set_option autoImplicit false

namespace PatternLexer.Tape

variable {α : Type}

def toJson (item : α → Json) (t : Tape α) : Json :=
  .record [("items", .array (t.toList.map item)), ("cursor", .int t.cursor)]

def ofJson? (item? : Json → Option α) (j : Json) : Option (Tape α) :=
  match j.fields? ["items", "cursor"] with
  | some [some items, some cursor] =>
    match items.listOf? item?, cursor.int64? with
    | some xs, some n => some ⟨xs.toArray, n⟩
    | _, _ => none
  | _ => none

def charToJson (c : Char) : Json := .text (String.singleton c)

end PatternLexer.Tape
