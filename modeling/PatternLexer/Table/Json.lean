import PatternLexer.Json.Parser
import PatternLexer.Table.Basic

set_option autoImplicit false

namespace PatternLexer.Table

abbrev Named := Std.ExtTreeMap String String compare

-- A name given twice counts with its last lexeme.
def named? : Json → Option Named
  | .object ms =>
    ms.foldl (fun found m =>
      match found, m with
      | some n, (some name, .string (some lexeme)) => some (n.insert name lexeme)
      | _, _ => none) (some ∅)
  | _ => none

def bindings : List (String × String) → Except LoadError (List Binding)
  | [] => .ok []
  | (name, lexeme) :: rest =>
    match Kind.ofName? name with
    | none => .error (.unknownKind name)
    | some kind =>
      match bindings rest with
      | .ok bs => .ok (⟨kind, lexeme⟩ :: bs)
      | .error e => .error e

def ofNamed (n : Named) : Except LoadError Table :=
  match bindings n.toList with
  | .ok bs => ofBindings bs
  | .error e => .error e

def ofJson (text : String) : Except LoadError Table :=
  match (Json.parse? text).bind named? with
  | some n => ofNamed n
  | none => .error .malformedTable

end PatternLexer.Table
