import PatternLexer.Json.Basic

set_option autoImplicit false

namespace PatternLexer.Json

namespace Reader

def isBlank (c : Char) : Bool := c == ' ' || c == '\n' || c == '\t' || c == '\r'

def skipBlanks (cs : List Char) : List Char := cs.dropWhile isBlank

def digitsValue (ds : List Char) : Nat :=
  ds.foldl (fun n d => 10 * n + (d.toNat - '0'.toNat)) 0

def digits? (cs : List Char) : Option (List Char × List Char) :=
  match cs.takeWhile Char.isDigit with
  | [] => none
  | d :: ds => some (d :: ds, cs.dropWhile Char.isDigit)

def wholePart? (cs : List Char) : Option (List Char × List Char) :=
  match digits? cs with
  | some ('0' :: _ :: _, _) => none
  | found => found

def fraction? : List Char → Option (List Char × List Char)
  | '.' :: r => (digits? r).map fun (ds, r) => ('.' :: ds, r)
  | cs => some ([], cs)

def signedDigits? : List Char → Option (List Char × List Char)
  | '+' :: r => (digits? r).map fun (ds, r) => ('+' :: ds, r)
  | '-' :: r => (digits? r).map fun (ds, r) => ('-' :: ds, r)
  | cs => digits? cs

def exponent? : List Char → Option (List Char × List Char)
  | 'e' :: r => (signedDigits? r).map fun (ds, r) => ('e' :: ds, r)
  | 'E' :: r => (signedDigits? r).map fun (ds, r) => ('E' :: ds, r)
  | cs => some ([], cs)

def sign : List Char → Bool × List Char
  | '-' :: r => (true, r)
  | cs => (false, cs)

def numberOf (negative : Bool) (whole tail : List Char) : Json :=
  match negative, tail with
  | false, [] => .int (digitsValue whole)
  | true, [] => if whole == ['0'] then .real "-0" else .int (-(digitsValue whole : Int))
  | false, _ => .real (String.ofList (whole ++ tail))
  | true, _ => .real (String.ofList ('-' :: whole ++ tail))

def number? (cs : List Char) : Option (Json × List Char) :=
  let (negative, cs) := sign cs
  match wholePart? cs with
  | none => none
  | some (whole, cs) =>
    match fraction? cs with
    | none => none
    | some (fraction, cs) =>
      match exponent? cs with
      | none => none
      | some (exponent, cs) => some (numberOf negative whole (fraction ++ exponent), cs)

def hexValue? (c : Char) : Option Nat :=
  if '0' ≤ c ∧ c ≤ '9' then some (c.toNat - '0'.toNat)
  else if 'a' ≤ c ∧ c ≤ 'f' then some (c.toNat - 'a'.toNat + 10)
  else if 'A' ≤ c ∧ c ≤ 'F' then some (c.toNat - 'A'.toNat + 10)
  else none

def hex4? (a b c d : Char) : Option Nat :=
  match hexValue? a, hexValue? b, hexValue? c, hexValue? d with
  | some a, some b, some c, some d => some (((a * 16 + b) * 16 + c) * 16 + d)
  | _, _, _, _ => none

def unescape? (c : Char) : Option Char :=
  if c = '"' then some '"'
  else if c = '\\' then some '\\'
  else if c = '/' then some '/'
  else if c = 'b' then some '\x08'
  else if c = 'f' then some '\x0c'
  else if c = 'n' then some '\n'
  else if c = 'r' then some '\r'
  else if c = 't' then some '\t'
  else none

def isHighHalf (n : Nat) : Bool := 0xd800 ≤ n && n < 0xdc00
def isLowHalf (n : Nat) : Bool := 0xdc00 ≤ n && n < 0xe000

def joinHalves (high low : Nat) : Char :=
  Char.ofNat (0x10000 + (high - 0xd800) * 0x400 + (low - 0xdc00))

-- The characters so far with the last one first, the high half that waits for its low half, and whether each half
-- so far has found the other.
structure Draft where
  taken : List Char := []
  high : Option Nat := none
  paired : Bool := true

namespace Draft

def char (d : Draft) (c : Char) : Draft :=
  { taken := c :: d.taken, paired := d.paired && d.high.isNone }

def unit (d : Draft) (n : Nat) : Draft :=
  match d.high with
  | some h =>
    if isLowHalf n then { taken := joinHalves h n :: d.taken, paired := d.paired }
    else if isHighHalf n then { d with high := some n, paired := false }
    else d.char (Char.ofNat n)
  | none =>
    if isHighHalf n then { d with high := some n }
    else if isLowHalf n then { d with paired := false }
    else d.char (Char.ofNat n)

def text (d : Draft) : Option String :=
  if d.paired && d.high.isNone then some (String.ofList d.taken.reverse) else none

end Draft

def stringTail? (d : Draft) : List Char → Option (Option String × List Char)
  | [] => none
  | '"' :: r => some (d.text, r)
  | '\\' :: 'u' :: a :: b :: c :: e :: r =>
    match hex4? a b c e with
    | some n => stringTail? (d.unit n) r
    | none => none
  | '\\' :: c :: r =>
    match unescape? c with
    | some x => stringTail? (d.char x) r
    | none => none
  | c :: r => if c.toNat < 0x20 then none else stringTail? (d.char c) r

mutual

-- The fuel bounds the number of nested steps.
def value? (fuel : Nat) (cs : List Char) : Option (Json × List Char) :=
  match fuel with
  | 0 => none
  | fuel + 1 =>
    match skipBlanks cs with
    | 'n' :: 'u' :: 'l' :: 'l' :: r => some (.null, r)
    | 't' :: 'r' :: 'u' :: 'e' :: r => some (.bool true, r)
    | 'f' :: 'a' :: 'l' :: 's' :: 'e' :: r => some (.bool false, r)
    | '"' :: r => (stringTail? {} r).map fun (t, r) => (.string t, r)
    | '[' :: r =>
      match skipBlanks r with
      | ']' :: r => some (.array [], r)
      | _ => items? fuel [] r
    | '\x7b' :: r =>
      match skipBlanks r with
      | '\x7d' :: r => some (.object [], r)
      | _ => members? fuel [] r
    | cs => number? cs

def items? (fuel : Nat) (taken : List Json) (cs : List Char) : Option (Json × List Char) :=
  match fuel with
  | 0 => none
  | fuel + 1 =>
    match value? fuel cs with
    | none => none
    | some (v, r) =>
      match skipBlanks r with
      | ',' :: r => items? fuel (v :: taken) r
      | ']' :: r => some (.array (v :: taken).reverse, r)
      | _ => none

def members? (fuel : Nat) (taken : List (Option String × Json)) (cs : List Char) :
    Option (Json × List Char) :=
  match fuel with
  | 0 => none
  | fuel + 1 =>
    match skipBlanks cs with
    | '"' :: r =>
      match stringTail? {} r with
      | none => none
      | some (name, r) =>
        match skipBlanks r with
        | ':' :: r =>
          match value? fuel r with
          | none => none
          | some (v, r) =>
            match skipBlanks r with
            | ',' :: r => members? fuel ((name, v) :: taken) r
            | '\x7d' :: r => some (.object ((name, v) :: taken).reverse, r)
            | _ => none
        | _ => none
    | _ => none

end

end Reader

-- Every step consumes a character, so the length of the text bounds the steps.
def parse? (s : String) : Option Json :=
  match Reader.value? (s.toList.length + 1) s.toList with
  | some (v, r) => if (Reader.skipBlanks r).isEmpty then some v else none
  | none => none

end PatternLexer.Json
