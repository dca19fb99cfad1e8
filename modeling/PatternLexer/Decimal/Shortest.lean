import PatternLexer.Decimal.Binary64

set_option autoImplicit false

namespace PatternLexer.Decimal

structure Scaled where
  digits : Nat
  exponent : Int
deriving DecidableEq

namespace Scaled

def text (s : Scaled) : String :=
  let digits := Nat.toDigits 10 s.digits
  if 0 ≤ s.exponent then String.ofList (digits ++ List.replicate s.exponent.toNat '0')
  else
    let places := (-s.exponent).toNat
    let digits := List.replicate (places + 1 - digits.length) '0' ++ digits
    let whole := digits.length - places
    String.ofList (digits.take whole ++ '.' :: digits.drop whole)

end Scaled

namespace Shortest

def places (num den : Nat) : Int :=
  let shift := (Nat.toDigits 10 den).length
  (Nat.toDigits 10 (num * Nat.pow 10 shift / den)).length - shift

-- Of the decimals with steps of `10 ^ exponent` that read back as `b`, the nearest one, the greater of two. Everything
-- is counted in quarters of the last bit of `b`; the midpoints to the neighbours count when the significand is even.
def atStep? (b : Binary64) (exponent : Int) : Option Scaled :=
  let quarters := b.exponent - 2
  let unit := Nat.pow 2 quarters.toNat * Nat.pow 10 (-exponent).toNat
  let step := Nat.pow 10 exponent.toNat * Nat.pow 2 (-quarters).toNat
  let value := 4 * b.significand * unit
  let gap := if b.significand = Nat.pow 2 (Binary64.precision - 1) then 1 else 2
  let low := (4 * b.significand - gap) * unit
  let high := (4 * b.significand + 2) * unit
  let readsBack (n : Nat) : Bool :=
    if b.significand % 2 = 0 then low ≤ n * step && n * step ≤ high
    else low < n * step && n * step < high
  let below := value / step
  let above := below + 1
  if readsBack below && (!readsBack above || value - below * step < above * step - value) then
    some ⟨below, exponent⟩
  else if readsBack above then some ⟨above, exponent⟩
  else none

def fewest (b : Binary64) (whole : Int) : Nat → Nat → Scaled
  | _, 0 => ⟨b.num, 0⟩
  | count, fuel + 1 =>
    match atStep? b (whole - count) with
    | some s => s
    | none => fewest b whole (count + 1) fuel

-- Seventeen digits always suffice.
def ofBinary64 (b : Binary64) : Scaled :=
  if b.significand = 0 then ⟨0, 0⟩ else fewest b (places b.num b.den) 1 17

end Shortest

end PatternLexer.Decimal
