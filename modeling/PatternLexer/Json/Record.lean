import PatternLexer.Json.Basic

set_option autoImplicit false

namespace PatternLexer.Json

-- An object may have members that are not asked for, but none of these twice. A list may leave out fields at its end.
def fields? (fields : List String) : Json → Option (List (Option Json))
  | .array vs =>
    if vs.length ≤ fields.length then
      some (vs.map some ++ List.replicate (fields.length - vs.length) none)
    else none
  | .object ms =>
    if ms.all (·.1.isSome) && fields.all (fun f => (ms.countP fun m => m.1 == some f) ≤ 1) then
      some (fields.map fun f => (Json.object ms).member? f)
    else none
  | _ => none

def alternative? : Json → Option (String × Option Json)
  | .string (some name) => some (name, none)
  | .object [(some name, v)] => some (name, some v)
  | _ => none

def bareAlternative? (j : Json) : Option String :=
  match j.alternative? with
  | some (name, none) => some name
  | some (name, some .null) => some name
  | _ => none

def int64? (j : Json) : Option Int :=
  match j.int? with
  | some n => if -(Nat.pow 2 63 : Int) ≤ n ∧ n < Nat.pow 2 63 then some n else none
  | none => none

def listOf? {α : Type} (item? : Json → Option α) (j : Json) : Option (List α) :=
  match j.items? with
  | some vs => vs.mapM item?
  | none => none

end PatternLexer.Json
