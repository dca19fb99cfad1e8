import PatternLexer.Text.Graphic

set_option autoImplicit false

namespace PatternLexer.Text.Quoted

def hex (n : Nat) : List Char := Nat.toDigits 16 n

def escape (c : Char) : List Char :=
  if c = '\x00' then ['\\', '0']
  else if c = '\t' then ['\\', 't']
  else if c = '\r' then ['\\', 'r']
  else if c = '\n' then ['\\', 'n']
  else if c = '"' then ['\\', '"']
  else if c = '\\' then ['\\', '\\']
  else if Graphic.isInvisible c then ['\\', 'u', '{'] ++ hex c.toNat ++ ['}']
  else [c]

-- An apostrophe is left as it is.
def encode (text : String) : String :=
  String.ofList ('"' :: text.toList.flatMap escape ++ ['"'])

end PatternLexer.Text.Quoted
