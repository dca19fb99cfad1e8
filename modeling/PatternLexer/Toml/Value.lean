set_option autoImplicit false

namespace PatternLexer.Toml

-- An inline table is closed. A dotted key runs only through tables that no header opened, and ends only in one that
-- dotted keys made. A header may open a table that a longer header has implied, but no other.
inductive Origin where
  | inline
  | header
  | dotted
  | implied
deriving DecidableEq

inductive Value where
  | string (s : String)
  | integer (n : Int)
  | decimal (negative : Bool) (digits : List Char) (exponent : Int)
  | infinity (negative : Bool)
  | notANumber
  | boolean (b : Bool)
  -- A date, a time, or both; which it is does not matter here.
  | moment
  | array (items : List Value)
  | table (origin : Origin) (entries : List (String × Value))
  -- Tables that repeated double-bracket headers opened, the last one first.
  | tables (elements : List Value)

abbrev Entries := List (String × Value)

namespace Entries

def get? (es : Entries) (key : String) : Option Value :=
  (es.find? fun e => e.1 == key).map (·.2)

def set (es : Entries) (key : String) (v : Value) : Entries :=
  if es.any (·.1 == key) then es.map fun e => if e.1 == key then (key, v) else e
  else es ++ [(key, v)]

end Entries

structure Table where
  origin : Origin
  entries : Entries

namespace Table

def root : Table := ⟨.header, []⟩

def toValue (t : Table) : Value := .table t.origin t.entries

-- `dotted` says that the path is the front of a dotted key and not of a header.
def changeAt (dotted : Bool) (change : Table → Option Table) (t : Table) :
    List String → Option Table
  | [] => change t
  | key :: path =>
    match t.entries.get? key with
    | none =>
      match changeAt dotted change ⟨if dotted then .dotted else .implied, []⟩ path with
      | some inner => some { t with entries := t.entries.set key inner.toValue }
      | none => none
    | some (.table origin entries) =>
      if origin = .inline ∨ dotted ∧ origin = .header then none
      else
        match changeAt dotted change ⟨origin, entries⟩ path with
        | some inner => some { t with entries := t.entries.set key inner.toValue }
        | none => none
    | some (.tables elements) =>
      match elements with
      | .table origin entries :: earlier =>
        match changeAt dotted change ⟨origin, entries⟩ path with
        | some inner =>
          some { t with entries := t.entries.set key (.tables (inner.toValue :: earlier)) }
        | none => none
      | _ => none
    | some _ => none

def assign (path : List String) (key : String) (v : Value) (t : Table) : Option Table :=
  t.changeAt true (fun t =>
    if (t.origin = .dotted) = (path = []) then none
    else
      match t.entries.get? key with
      | none => some { t with entries := t.entries.set key v }
      | some _ => none) path

def openTable (path : List String) (key : String) (t : Table) : Option Table :=
  t.changeAt false (fun t =>
    match t.entries.get? key with
    | none => some { t with entries := t.entries.set key (.table .header []) }
    | some (.table .implied inner) =>
      some { t with entries := t.entries.set key (.table .header inner) }
    | some _ => none) path

def openElement (path : List String) (key : String) (t : Table) : Option Table :=
  t.changeAt false (fun t =>
    match t.entries.get? key with
    | none => some { t with entries := t.entries.set key (.tables [.table .header []]) }
    | some (.tables elements) =>
      some { t with entries := t.entries.set key (.tables (.table .header [] :: elements)) }
    | some _ => none) path

end Table

end PatternLexer.Toml
