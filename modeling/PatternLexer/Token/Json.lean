import PatternLexer.Json.Record
import PatternLexer.Token

set_option autoImplicit false

namespace PatternLexer

def Kind.toJson (k : Kind) : Json := .text k.name

def Kind.ofJson? (j : Json) : Option Kind :=
  j.bareAlternative?.bind Kind.ofName?

namespace Token

def toJson : Token → Json
  | plain k l => .record [("Plain", .record [("kind", k.toJson), ("lexeme", .text l)])]
  | escape k l negated =>
    .record [("Escape",
      .record [("kind", k.toJson), ("lexeme", .text l), ("negated", .bool negated)])]
  | finish => .text "End"

def plainOfJson? (j : Json) : Option Token :=
  match j.fields? ["kind", "lexeme"] with
  | some [some kind, some lexeme] =>
    match Kind.ofJson? kind, lexeme.text? with
    | some k, some l => some (.plain k l)
    | _, _ => none
  | _ => none

def escapeOfJson? (j : Json) : Option Token :=
  match j.fields? ["kind", "lexeme", "negated"] with
  | some [some kind, some lexeme, negated] =>
    match Kind.ofJson? kind, lexeme.text?, (negated.getD (.bool false)).bool? with
    | some k, some l, some b => some (.escape k l b)
    | _, _, _ => none
  | _ => none

-- The mark of a negated escape may be left out, and is false then.
def ofJson? (j : Json) : Option Token :=
  match j.alternative? with
  | some ("Plain", some v) => plainOfJson? v
  | some ("Escape", some v) => escapeOfJson? v
  | some ("End", none) => some .finish
  | some ("End", some .null) => some .finish
  | _ => none

end Token

end PatternLexer
