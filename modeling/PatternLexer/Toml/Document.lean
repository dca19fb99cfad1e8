import PatternLexer.Toml.Scalar

set_option autoImplicit false

namespace PatternLexer.Toml

def scalar? (cs : List Char) : Option (Value × List Char) :=
  match cs with
  | '"' :: _ => (string? cs).map fun (s, r) => (.string s, r)
  | '\'' :: _ => (string? cs).map fun (s, r) => (.string s, r)
  | 't' :: 'r' :: 'u' :: 'e' :: r => some (.boolean true, r)
  | 'f' :: 'a' :: 'l' :: 's' :: 'e' :: r => some (.boolean false, r)
  | 'i' :: _ => special? cs
  | 'n' :: _ => special? cs
  | c :: _ => if c.isDigit ∨ c = '+' ∨ c = '-' then numberOrMoment? cs else none
  | [] => none

-- A comma may stand before the closing bracket.
def arrayTail? (item? : List Char → Option (Value × List Char)) (fuel : Nat) (taken : List Value)
    (cs : List Char) : Option (Value × List Char) :=
  match fuel with
  | 0 => none
  | fuel + 1 =>
    match skipLines false cs with
    | ']' :: r => some (.array taken.reverse, r)
    | cs =>
      match item? cs with
      | none => none
      | some (v, r) =>
        match skipLines false r with
        | ',' :: r => arrayTail? item? fuel (v :: taken) r
        | ']' :: r => some (.array (v :: taken).reverse, r)
        | _ => none

def pair? (item? : List Char → Option (Value × List Char)) (cs : List Char) :
    Option (List String × String × Value × List Char) :=
  match key? cs with
  | some (path, key, '=' :: r) =>
    (item? (skipBlanks r)).map fun (v, r) => (path, key, v, skipBlanks r)
  | _ => none

def inlineTail? (item? : List Char → Option (Value × List Char)) (fuel : Nat) (t : Table)
    (cs : List Char) : Option (Value × List Char) :=
  match fuel with
  | 0 => none
  | fuel + 1 =>
    match pair? item? cs with
    | none => none
    | some (path, key, v, r) =>
      match t.assign path key v with
      | none => none
      | some t =>
        match r with
        | ',' :: r => inlineTail? item? fuel t r
        | '\x7d' :: r => some (.table .inline t.entries, r)
        | _ => none

-- Arrays and inline tables nest at most `depth` deep; `fuel` bounds the items of each.
def value? (fuel depth : Nat) (cs : List Char) : Option (Value × List Char) :=
  match depth with
  | 0 => scalar? cs
  | depth + 1 =>
    match cs with
    | '[' :: r => arrayTail? (value? fuel depth) fuel [] r
    | '\x7b' :: r =>
      match skipBlanks r with
      | '\x7d' :: r => some (.table .inline [], r)
      | _ => inlineTail? (value? fuel depth) fuel .root r
    | _ => scalar? cs

structure Draft where
  table : Table := .root
  header : List String := []

namespace Draft

def openTable (d : Draft) (path : List String) (key : String) : Option Draft :=
  (d.table.openTable path key).map fun t => ⟨t, path ++ [key]⟩

def openElement (d : Draft) (path : List String) (key : String) : Option Draft :=
  (d.table.openElement path key).map fun t => ⟨t, path ++ [key]⟩

def assign (d : Draft) (path : List String) (key : String) (v : Value) : Option Draft :=
  (d.table.changeAt false (Table.assign path key v) d.header).map fun t => { d with table := t }

end Draft

def line? (fuel : Nat) (d : Draft) (cs : List Char) : Option (Draft × List Char) :=
  match cs with
  | '[' :: '[' :: r =>
    match key? r with
    | some (path, key, ']' :: ']' :: r) =>
      match d.openElement path key, lineEnd? r with
      | some d, some r => some (d, r)
      | _, _ => none
    | _ => none
  | '[' :: r =>
    match key? r with
    | some (path, key, ']' :: r) =>
      match d.openTable path key, lineEnd? r with
      | some d, some r => some (d, r)
      | _, _ => none
    | _ => none
  | _ =>
    match pair? (value? fuel nesting) cs with
    | some (path, key, v, r) =>
      match d.assign path key v, lineEnd? r with
      | some d, some r => some (d, r)
      | _, _ => none
    | none => none

-- Every line consumes a character, and so does every item; `size` bounds the items of a value and `fuel` the lines.
def lines? (size fuel : Nat) (d : Draft) (cs : List Char) : Option Draft :=
  match fuel with
  | 0 => none
  | fuel + 1 =>
    match skipBlanks cs with
    | [] => some d
    | '#' :: r =>
      match lineEnd? ('#' :: r) with
      | some r => lines? size fuel d r
      | none => none
    | cs =>
      match newline? cs with
      | some r => lines? size fuel d r
      | none =>
        match line? size d cs with
        | some (d, r) => lines? size fuel d r
        | none => none

def skipByteOrderMark : List Char → List Char
  | '\ufeff' :: r => r
  | cs => cs

def parse? (s : String) : Option Entries :=
  let cs := skipByteOrderMark s.toList
  (lines? (cs.length + 1) (cs.length + 1) {} cs).map (·.table.entries)

end PatternLexer.Toml
