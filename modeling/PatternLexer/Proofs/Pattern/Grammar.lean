import PatternLexer.Proofs.Lexer.Reading

set_option autoImplicit false

namespace PatternLexer

open Scan (Marker Bare hatted)

-- Several forms may apply to a text; the first one in this order decides.
inductive Form where
  | bound | digit | letter | backslash | property | cluster | shorthand | negated | escaped
deriving DecidableEq

def Form.rank : Form → Nat
  | bound => 0
  | digit => 1
  | letter => 2
  | backslash => 3
  | property => 4
  | cluster => 5
  | shorthand => 6
  | negated => 7
  | escaped => 8

def blanks : List Char := [' ', '\r', '\n', '\t', '\x0b', '\u00a0']

-- `Writes t f span ahead k`: the form `f` reads `span`, in front of `ahead`, as the token `k`.
inductive Writes (t : Table) : Form → List Char → List Char → Token → Prop where
  | bound {c : Char} {k : Kind} (ahead : List Char) (kind : t.kindOfChar? c = some k)
      (direct : k.isDirect = true) : Writes t .bound [c] ahead (.plain k (String.singleton c))
  | digit {c : Char} (ahead : List Char) (digit : c.isDigit = true) :
      Writes t .digit [c] ahead (.plain (.literal .integer) (String.singleton c))
  | letter {c : Char} (ahead : List Char) (letter : c.isAlpha = true ∨ c ∈ blanks) :
      Writes t .letter [c] ahead (.plain (.literal .char) (String.singleton c))
  | pair (ahead : List Char) :
      Writes t .backslash ['\\', '\\'] ahead (.plain (.literal .backslash) "\\")
  | lone : Writes t .backslash ['\\'] [] (.plain (.literal .backslash) "\\")
  | short {m c : Char} {k : Kind} (ahead : List Char) (marker : Marker m) (single : c ≠ '\x7b')
      (kind : t.kindOfChar? c = some k) :
      Writes t .property ['\\', m, c] ahead (.escape k (String.singleton c) (m == 'P'))
  | braced {m : Char} {hat : Bool} {name : List Char} {k : Kind} (ahead : List Char)
      (marker : Marker m) (bare : Bare hat name) (inner : '\x7d' ∉ name)
      (kind : t.kindOf? (String.ofList name) = some k) :
      Writes t .property ('\\' :: m :: '\x7b' :: hatted hat (name ++ ['\x7d'])) ahead
        (.escape k (String.ofList name) (m == 'P' || hat))
  | cluster (ahead : List Char) :
      Writes t .cluster ['\\'] ('X' :: ahead) (.escape (.property .x) "X" false)
  | shorthand {c : Char} {k : Kind} (ahead : List Char) (other : ¬ Marker c)
      (kind : t.kindOfChar? c = some k) (family : k.isShorthand = true) :
      Writes t .shorthand ['\\'] (c :: ahead) (.escape k (String.singleton c) false)
  | negated {c : Char} {k : Kind} (ahead : List Char) (other : ¬ Marker c)
      (kind : t.kindOfChar? c.toLower = some k) (family : k.isShorthand = true) :
      Writes t .negated ['\\'] (c :: ahead) (.escape k (String.singleton c) true)
  | escaped {c : Char} (ahead : List Char) (other : ¬ Marker c) :
      Writes t .escaped ['\\', c] ahead (.plain (.literal .char) (String.singleton c))

def Unwritten (t : Table) (rank : Nat) (text : List Char) : Prop :=
  ∀ g span ahead k, g.rank < rank → span ++ ahead = text → ¬ Writes t g span ahead k

structure First (t : Table) (f : Form) (span ahead : List Char) (k : Token) : Prop where
  writes : Writes t f span ahead k
  unwritten : Unwritten t f.rank (span ++ ahead)

inductive Split (t : Table) : List Char → List Token → Prop where
  | done : Split t [] []
  | span {f : Form} {span ahead : List Char} {k : Token} {ks : List Token}
      (first : First t f span ahead k) (rest : Split t ahead ks) : Split t (span ++ ahead) (k :: ks)

end PatternLexer
