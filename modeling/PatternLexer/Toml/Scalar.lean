import PatternLexer.Toml.Text
import PatternLexer.Toml.Value

set_option autoImplicit false

namespace PatternLexer.Toml

def digitRun (isDigit : Char → Bool) (taken : List Char) : List Char → List Char × List Char
  | [] => (taken.reverse, [])
  | '_' :: d :: r =>
    if isDigit d then digitRun isDigit (d :: taken) r else (taken.reverse, '_' :: d :: r)
  | d :: r => if isDigit d then digitRun isDigit (d :: taken) r else (taken.reverse, d :: r)

def digits? (isDigit : Char → Bool) : List Char → Option (List Char × List Char)
  | d :: r => if isDigit d then some (digitRun isDigit [d] r) else none
  | [] => none

def valueOf (base : Nat) (digits : List Char) : Nat :=
  digits.foldl (fun n d => n * base + (Json.Reader.hexValue? d).getD 0) 0

def isHex (c : Char) : Bool := (Json.Reader.hexValue? c).isSome
def isOctal (c : Char) : Bool := '0' ≤ c && c ≤ '7'
def isBinary (c : Char) : Bool := c == '0' || c == '1'

def sign? : List Char → Option Bool × List Char
  | '+' :: r => (some false, r)
  | '-' :: r => (some true, r)
  | cs => (none, cs)

def whole? : List Char → Option (List Char × List Char)
  | '0' :: r => some (['0'], r)
  | cs => digits? Char.isDigit cs

def fits64 (n : Int) : Bool := -(Nat.pow 2 63 : Int) ≤ n && n < Nat.pow 2 63

-- Zeros in front apart, more than 64 digits never fit.
def integerOf? (negative : Bool) (base : Nat) (digits r : List Char) :
    Option (Value × List Char) :=
  let digits := digits.dropWhile (· == '0')
  if 64 < digits.length then none
  else
    let n : Int := if negative then -(valueOf base digits : Int) else valueOf base digits
    if fits64 n then some (.integer n, r) else none

def based? (isDigit : Char → Bool) (base : Nat) (cs : List Char) : Option (Value × List Char) :=
  match digits? isDigit cs with
  | some (ds, r) => integerOf? false base ds r
  | none => none

def integer? : List Char → Option (Value × List Char)
  | '0' :: 'x' :: r => based? isHex 16 r
  | '0' :: 'o' :: r => based? isOctal 8 r
  | '0' :: 'b' :: r => based? isBinary 2 r
  | cs =>
    let (negative, r) := sign? cs
    match whole? r with
    | some (ds, r) => integerOf? (negative == some true) 10 ds r
    | none => none

-- Halfway from the greatest finite number of double precision to the power of two after it. It has 309 digits.
def infinityBound : Nat := Nat.pow 2 1024 - Nat.pow 2 970

-- More than 309 digits before the point are always infinite, and fewer never are.
def isInfinite (digits : List Char) (exponent : Int) : Bool :=
  let digits := digits.dropWhile (· == '0')
  let places := digits.length + exponent
  if digits.isEmpty || places < 309 then false
  else if 309 < places then true
  else
    let leading := digits.take 309
    infinityBound ≤ valueOf 10 (leading ++ List.replicate (309 - leading.length) '0')

def fraction? : List Char → Option (List Char × List Char)
  | '.' :: r => digits? Char.isDigit r
  | _ => none

-- A digit after a value of 65536 or more changes nothing, so a long exponent is only as great as its first five or
-- six digits.
def exponentOf (digits : List Char) : Nat :=
  digits.foldl (fun n d => if n < 65536 then valueOf 10 [d] + n * 10 else n) 0

def exponentTail? (r : List Char) : Option (Int × List Char) :=
  let (negative, r) := sign? r
  match digits? Char.isDigit r with
  | some (ds, r) => some (if negative = some true then -(exponentOf ds : Int) else exponentOf ds, r)
  | none => none

def exponent? : List Char → Option (Int × List Char)
  | 'e' :: r => exponentTail? r
  | 'E' :: r => exponentTail? r
  | _ => none

def decimalOf? (negative : Option Bool) (whole fraction : List Char) (exponent : Int)
    (r : List Char) : Option (Value × List Char) :=
  let digits := whole ++ fraction
  let exponent := exponent - fraction.length
  if negative ≠ some true ∧ isInfinite digits exponent then none
  else some (.decimal (negative == some true) digits exponent, r)

def decimal? (cs : List Char) : Option (Value × List Char) :=
  let (negative, r) := sign? cs
  match whole? r with
  | none => none
  | some (whole, r) =>
    match fraction? r with
    | some (fraction, r) =>
      let (exponent, r) := (exponent? r).getD (0, r)
      decimalOf? negative whole fraction exponent r
    | none =>
      match exponent? r with
      | some (exponent, r) => decimalOf? negative whole [] exponent r
      | none => none

def special? (cs : List Char) : Option (Value × List Char) :=
  let (negative, r) := sign? cs
  match r with
  | 'i' :: 'n' :: 'f' :: r => some (.infinity (negative == some true), r)
  | 'n' :: 'a' :: 'n' :: r => some (.notANumber, r)
  | _ => none

def float? (cs : List Char) : Option (Value × List Char) := (decimal? cs).or (special? cs)

def twoDigits? (low high : Nat) : List Char → Option (Nat × List Char)
  | a :: b :: r =>
    if a.isDigit ∧ b.isDigit ∧ low ≤ valueOf 10 [a, b] ∧ valueOf 10 [a, b] ≤ high then
      some (valueOf 10 [a, b], r)
    else none
  | _ => none

def isLeapYear (year : Nat) : Bool := year % 4 == 0 && (year % 100 != 0 || year % 400 == 0)

def daysIn (year month : Nat) : Nat :=
  if month = 2 then (if isLeapYear year then 29 else 28)
  else if month = 4 ∨ month = 6 ∨ month = 9 ∨ month = 11 then 30
  else 31

def date? : List Char → Option (List Char)
  | a :: b :: c :: d :: '-' :: r =>
    if a.isDigit ∧ b.isDigit ∧ c.isDigit ∧ d.isDigit then
      match twoDigits? 1 12 r with
      | some (month, '-' :: r) =>
        match twoDigits? 1 31 r with
        | some (day, r) => if day ≤ daysIn (valueOf 10 [a, b, c, d]) month then some r else none
        | none => none
      | _ => none
    else none
  | _ => none

def skipSecondFraction : List Char → List Char
  | '.' :: d :: r => if d.isDigit then r.dropWhile Char.isDigit else '.' :: d :: r
  | cs => cs

def time? (cs : List Char) : Option (List Char) :=
  match twoDigits? 0 23 cs with
  | some (_, ':' :: r) =>
    match twoDigits? 0 59 r with
    | some (_, ':' :: r) => (twoDigits? 0 60 r).map fun found => skipSecondFraction found.2
    | _ => none
  | _ => none

def hoursAndMinutes? (cs : List Char) : Option (List Char) :=
  match twoDigits? 0 23 cs with
  | some (_, ':' :: r) => (twoDigits? 0 59 r).map (·.2)
  | _ => none

def skipOffset : List Char → List Char
  | 'Z' :: r => r
  | 'z' :: r => r
  | '+' :: r => (hoursAndMinutes? r).getD ('+' :: r)
  | '-' :: r => (hoursAndMinutes? r).getD ('-' :: r)
  | cs => cs

def skipTimeOfDay : List Char → List Char
  | d :: r =>
    if d = 'T' ∨ d = 't' ∨ d = ' ' then
      match time? r with
      | some r => skipOffset r
      | none => d :: r
    else d :: r
  | [] => []

def moment? (cs : List Char) : Option (Value × List Char) :=
  (((date? cs).map skipTimeOfDay).or (time? cs)).map fun r => (.moment, r)

def numberOrMoment? (cs : List Char) : Option (Value × List Char) :=
  (moment? cs).or ((float? cs).or (integer? cs))

end PatternLexer.Toml
