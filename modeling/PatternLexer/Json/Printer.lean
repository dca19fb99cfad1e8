import PatternLexer.Json.Basic

set_option autoImplicit false

namespace PatternLexer.Json

def hexDigit (n : Nat) : Char := Nat.digitChar (n % 16)

def escape (c : Char) : String :=
  if c = '"' then "\\\""
  else if c = '\\' then "\\\\"
  else if c = '\x08' then "\\b"
  else if c = '\x0c' then "\\f"
  else if c = '\n' then "\\n"
  else if c = '\r' then "\\r"
  else if c = '\t' then "\\t"
  else if c.toNat < 0x20 then
    String.ofList ['\\', 'u', '0', '0', hexDigit (c.toNat / 16), hexDigit c.toNat]
  else String.singleton c

-- A quoted string; half a surrogate pair stands for any string that names no text.
def quoteOnto (done : String) : Option String → String
  | some s => (s.toList.foldl (fun acc c => acc ++ escape c) (done.push '"')).push '"'
  | none => done ++ "\"\\ud800\""

mutual

def writeOnto (done : String) : Json → String
  | null => done ++ "null"
  | bool true => done ++ "true"
  | bool false => done ++ "false"
  | int n => done ++ toString n
  | real spelling => done ++ spelling
  | string t => quoteOnto done t
  | array [] => done ++ "[]"
  | array (v :: vs) => (writeItemsOnto (writeOnto (done.push '[') v) vs).push ']'
  | object [] => done ++ "\x7b\x7d"
  | object (m :: ms) =>
      (writeMembersOnto (writeMemberOnto (done.push '\x7b') m) ms).push '\x7d'

def writeItemsOnto (done : String) : List Json → String
  | [] => done
  | v :: vs => writeItemsOnto (writeOnto (done.push ',') v) vs

def writeMemberOnto (done : String) : Option String × Json → String
  | (name, v) => writeOnto ((quoteOnto done name).push ':') v

def writeMembersOnto (done : String) : List (Option String × Json) → String
  | [] => done
  | m :: ms => writeMembersOnto (writeMemberOnto (done.push ',') m) ms

end

def write (v : Json) : String := writeOnto "" v

end PatternLexer.Json
