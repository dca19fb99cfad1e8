set_option autoImplicit false

namespace PatternLexer

-- A number without fraction and exponent is an integer; any other keeps its spelling, and so does `-0`. Half of a
-- surrogate pair names no text, so the text of a string is an option.
inductive Json where
  | null
  | bool (b : Bool)
  | int (n : Int)
  | real (spelling : String)
  | string (text : Option String)
  | array (items : List Json)
  | object (members : List (Option String × Json))

namespace Json

def text (s : String) : Json := .string (some s)

def nat (n : Nat) : Json := .int n

def record (members : List (String × Json)) : Json :=
  .object (members.map fun m => (some m.1, m.2))

def optional {α : Type} (f : α → Json) : Option α → Json
  | some x => f x
  | none => .null

def texts (ss : List String) : Json := .array (ss.map text)

def member? (name : String) : Json → Option Json
  | .object ms => (ms.find? fun m => m.1 == some name).map (·.2)
  | _ => none

def text? : Json → Option String
  | .string t => t
  | _ => none

def bool? : Json → Option Bool
  | .bool b => some b
  | _ => none

def int? : Json → Option Int
  | .int n => some n
  | _ => none

def items? : Json → Option (List Json)
  | .array vs => some vs
  | _ => none

def char? (j : Json) : Option Char :=
  match j.text?.map String.toList with
  | some [c] => some c
  | _ => none

end Json

end PatternLexer
