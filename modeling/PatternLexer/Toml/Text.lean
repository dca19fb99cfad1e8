import PatternLexer.Json.Parser

set_option autoImplicit false

namespace PatternLexer.Toml

def isBlank (c : Char) : Bool := c == ' ' || c == '\t'

def skipBlanks (cs : List Char) : List Char := cs.dropWhile isBlank

def isPrintable (c : Char) : Bool := c == '\t' || (0x20 ≤ c.toNat && c.toNat ≠ 0x7f)

def newline? : List Char → Option (List Char)
  | '\n' :: r => some r
  | '\r' :: '\n' :: r => some r
  | _ => none

def skipComment : List Char → List Char
  | '#' :: r => r.dropWhile isPrintable
  | cs => cs

def lineEnd? (cs : List Char) : Option (List Char) :=
  match skipComment (skipBlanks cs) with
  | [] => some []
  | r => newline? r

def skipLines (inComment : Bool) : List Char → List Char
  | [] => []
  | '\r' :: '\n' :: r => skipLines false r
  | '\n' :: r => skipLines false r
  | c :: r =>
    if inComment then (if isPrintable c then skipLines true r else c :: r)
    else if isBlank c then skipLines false r
    else if c = '#' then skipLines true r
    else c :: r

def scalarOf? (n : Nat) : Option Char :=
  if n < 0xd800 ∨ 0xdfff < n ∧ n < 0x110000 then some (Char.ofNat n) else none

def namedChar? (digits : List Char) : Option Char :=
  match digits.mapM Json.Reader.hexValue? with
  | some ds => scalarOf? (ds.foldl (fun n d => n * 16 + d) 0)
  | none => none

def unescape? (c : Char) : Option Char :=
  if c = 'b' then some '\x08'
  else if c = 't' then some '\t'
  else if c = 'n' then some '\n'
  else if c = 'f' then some '\x0c'
  else if c = 'r' then some '\r'
  else if c = '"' then some '"'
  else if c = '\\' then some '\\'
  else none

def quoted (taken : List Char) (r : List Char) : Option (String × List Char) :=
  some (String.ofList taken.reverse, r)

def basicTail? (taken : List Char) : List Char → Option (String × List Char)
  | [] => none
  | '"' :: r => quoted taken r
  | '\\' :: 'u' :: a :: b :: c :: d :: r =>
    match namedChar? [a, b, c, d] with
    | some x => basicTail? (x :: taken) r
    | none => none
  | '\\' :: 'U' :: a :: b :: c :: d :: e :: f :: g :: h :: r =>
    match namedChar? [a, b, c, d, e, f, g, h] with
    | some x => basicTail? (x :: taken) r
    | none => none
  | '\\' :: c :: r =>
    match unescape? c with
    | some x => basicTail? (x :: taken) r
    | none => none
  | c :: r => if isPrintable c then basicTail? (c :: taken) r else none

-- `trim` says that a backslash ended a line and that blanks and line ends are skipped up to the next other character.
-- Up to two quotes may stand just before the closing ones.
def multilineTail? (trim : Bool) (taken : List Char) : List Char → Option (String × List Char)
  | [] => none
  | '"' :: '"' :: '"' :: '"' :: '"' :: r => quoted ('"' :: '"' :: taken) r
  | '"' :: '"' :: '"' :: '"' :: r => quoted ('"' :: taken) r
  | '"' :: '"' :: '"' :: r => quoted taken r
  | '\r' :: '\n' :: r => multilineTail? trim (if trim then taken else '\n' :: taken) r
  | '\n' :: r => multilineTail? trim (if trim then taken else '\n' :: taken) r
  | '\\' :: 'u' :: a :: b :: c :: d :: r =>
    match namedChar? [a, b, c, d] with
    | some x => multilineTail? false (x :: taken) r
    | none => none
  | '\\' :: 'U' :: a :: b :: c :: d :: e :: f :: g :: h :: r =>
    match namedChar? [a, b, c, d, e, f, g, h] with
    | some x => multilineTail? false (x :: taken) r
    | none => none
  | '\\' :: c :: r =>
    match unescape? c with
    | some x => multilineTail? false (x :: taken) r
    | none =>
      if (newline? (skipBlanks (c :: r))).isSome then multilineTail? true taken r else none
  | c :: r =>
    if trim && isBlank c then multilineTail? true taken r
    else if isPrintable c then multilineTail? false (c :: taken) r
    else none

def literalTail? (taken : List Char) : List Char → Option (String × List Char)
  | [] => none
  | '\'' :: r => quoted taken r
  | c :: r => if isPrintable c then literalTail? (c :: taken) r else none

def literalLinesTail? (taken : List Char) : List Char → Option (String × List Char)
  | [] => none
  | '\'' :: '\'' :: '\'' :: '\'' :: '\'' :: r => quoted ('\'' :: '\'' :: taken) r
  | '\'' :: '\'' :: '\'' :: '\'' :: r => quoted ('\'' :: taken) r
  | '\'' :: '\'' :: '\'' :: r => quoted taken r
  | '\r' :: '\n' :: r => literalLinesTail? ('\n' :: taken) r
  | '\n' :: r => literalLinesTail? ('\n' :: taken) r
  | c :: r => if isPrintable c then literalLinesTail? (c :: taken) r else none

def skipFirstNewline (cs : List Char) : List Char := (newline? cs).getD cs

def string? : List Char → Option (String × List Char)
  | '"' :: '"' :: '"' :: r => multilineTail? false [] (skipFirstNewline r)
  | '"' :: r => basicTail? [] r
  | '\'' :: '\'' :: '\'' :: r => literalLinesTail? [] (skipFirstNewline r)
  | '\'' :: r => literalTail? [] r
  | _ => none

def isBareKey (c : Char) : Bool := c.isAlphanum || c == '-' || c == '_'

def keyPart? : List Char → Option (String × List Char)
  | '"' :: r => basicTail? [] r
  | '\'' :: r => literalTail? [] r
  | cs =>
    match cs.takeWhile isBareKey with
    | [] => none
    | k :: ks => some (String.ofList (k :: ks), cs.dropWhile isBareKey)

def nesting : Nat := 79

def keyParts? (fuel : Nat) (taken : List String) (cs : List Char) :
    Option (List String × List Char) :=
  match fuel with
  | 0 => none
  | fuel + 1 =>
    match keyPart? (skipBlanks cs) with
    | none => none
    | some (k, r) =>
      match skipBlanks r with
      | '.' :: r => keyParts? fuel (k :: taken) r
      | r => some ((k :: taken).reverse, r)

def key? (cs : List Char) : Option (List String × String × List Char) :=
  match keyParts? nesting [] cs with
  | none => none
  | some (parts, r) => parts.getLast?.map fun last => (parts.dropLast, last, r)

end PatternLexer.Toml
