import Std.Data.ExtTreeMap
import PatternLexer.LoadError

set_option autoImplicit false

namespace PatternLexer

structure Binding where
  kind : Kind
  lexeme : String
deriving DecidableEq

namespace Binding

def isShorthandLexeme (lexeme : String) : Bool :=
  match lexeme.toList with
  | [c] => c.isLower
  | _ => false

def fault? (b : Binding) : Option LoadError :=
  if b.kind.isLiteral then some (.reservedKind b.kind)
  else if b.lexeme = "" then some (.emptyLexeme b.kind)
  else if b.lexeme = "\\" ∧ b.kind.isDirect then some (.backslashShadowed b.kind)
  else if b.kind.isShorthand ∧ !isShorthandLexeme b.lexeme then
    some (.invalidShorthand b.kind b.lexeme)
  else none

end Binding

structure Table where
  kinds : Std.ExtTreeMap String Kind compare := ∅
deriving DecidableEq

namespace Table

def kindOf? (t : Table) (lexeme : String) : Option Kind := t.kinds[lexeme]?

def kindOfChar? (t : Table) (c : Char) : Option Kind := t.kindOf? (String.singleton c)

def contains (t : Table) (lexeme : String) : Bool := t.kinds.contains lexeme

def size (t : Table) : Nat := t.kinds.size

def isEmpty (t : Table) : Bool := t.kinds.isEmpty

def toList (t : Table) : List (String × Kind) := t.kinds.toList

def lexemeOf? (t : Table) (k : Kind) : Option String :=
  (t.toList.find? fun b => b.2 == k).map (·.1)

def insert (t : Table) (b : Binding) : Table := ⟨t.kinds.insert b.lexeme b.kind⟩

def bind (t : Table) (b : Binding) : Except LoadError Table :=
  match b.fault? with
  | some e => .error e
  | none =>
    match t.kindOf? b.lexeme with
    | some first => .error (.duplicateLexeme b.lexeme first b.kind)
    | none => .ok (t.insert b)

def bindAll (t : Table) : List Binding → Except LoadError Table
  | [] => .ok t
  | b :: bs =>
    match t.bind b with
    | .ok t => t.bindAll bs
    | .error e => .error e

def ofBindings (bs : List Binding) : Except LoadError Table := ({} : Table).bindAll bs

end Table

end PatternLexer
