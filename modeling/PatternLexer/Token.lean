import PatternLexer.Kind
import PatternLexer.Tape
import PatternLexer.Text.Quoted

set_option autoImplicit false

namespace PatternLexer

inductive Token where
  | plain (kind : Kind) (lexeme : String)
  | escape (kind : Kind) (lexeme : String) (negated : Bool)
  | finish
deriving DecidableEq

inductive Family where
  | structural
  | literal
  | shorthandClass
  | unicodeProperty
  | finish
deriving DecidableEq

def Family.name : Family → String
  | structural => "Structural"
  | literal => "Literal"
  | shorthandClass => "ShorthandClass"
  | unicodeProperty => "UnicodeProperty"
  | finish => "End"

def Kind.family : Kind → Family
  | symbol _ => .structural
  | literal _ => .literal
  | shorthand _ => .shorthandClass
  | property _ => .unicodeProperty

namespace Token

def kind? : Token → Option Kind
  | plain k _ => some k
  | escape k _ _ => some k
  | finish => none

def lexeme : Token → String
  | plain _ l => l
  | escape _ l _ => l
  | finish => ""

def isFinish : Token → Bool
  | finish => true
  | _ => false

def isEscape : Token → Bool
  | escape _ _ _ => true
  | _ => false

def isNegated : Token → Bool
  | escape _ _ negated => negated
  | _ => false

def family (t : Token) : Family :=
  match t.kind? with
  | some k => k.family
  | none => .finish

def describe : Token → String
  | plain k l => k.name ++ "(" ++ Text.Quoted.encode l ++ ")"
  | escape k l false => k.name ++ "(\\" ++ Text.Quoted.encode l ++ ")"
  | escape k l true => k.name ++ "(\\" ++ Text.Quoted.encode l ++ ", negated)"
  | finish => "END"

end Token

abbrev TokenStream := Tape Token

namespace TokenStream

def lexemes (ts : TokenStream) : String :=
  String.join (ts.toList.map Token.lexeme)

def kinds (ts : TokenStream) : List Kind :=
  ts.toList.filterMap Token.kind?

def isTerminated (ts : TokenStream) : Bool :=
  ts.toList.getLast?.any Token.isFinish

end TokenStream

end PatternLexer
