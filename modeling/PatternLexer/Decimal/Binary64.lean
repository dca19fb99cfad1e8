set_option autoImplicit false

namespace PatternLexer.Decimal

-- The number `significand * 2 ^ exponent`. The exponent has no limits, so nothing overflows and nothing is subnormal.
structure Binary64 where
  significand : Nat
  exponent : Int
deriving DecidableEq

namespace Binary64

def precision : Nat := 53

def zero : Binary64 := ⟨0, 0⟩

-- The whole number nearest to `num / den`, the even one of two.
def roundDiv (num den : Nat) : Nat :=
  let q := num / den
  let twice := 2 * (num % den)
  if twice < den then q
  else if den < twice then q + 1
  else if q % 2 = 0 then q else q + 1

def roundAt (num den : Nat) (exponent : Int) : Binary64 :=
  let m := roundDiv (num * Nat.pow 2 (-exponent).toNat) (den * Nat.pow 2 exponent.toNat)
  if m = Nat.pow 2 precision then ⟨Nat.pow 2 (precision - 1), exponent + 1⟩ else ⟨m, exponent⟩

def ofDiv (num den : Nat) : Binary64 :=
  if num = 0 then zero
  else
    let exponent : Int := (num.log2 : Int) - den.log2 - (precision - 1 : Nat)
    let whole := num * Nat.pow 2 (-exponent).toNat / (den * Nat.pow 2 exponent.toNat)
    roundAt num den (if whole < Nat.pow 2 (precision - 1) then exponent - 1 else exponent)

def num (b : Binary64) : Nat := b.significand * Nat.pow 2 b.exponent.toNat

def den (b : Binary64) : Nat := Nat.pow 2 (-b.exponent).toNat

def ofNat (n : Nat) : Binary64 := ofDiv n 1

def add (a b : Binary64) : Binary64 := ofDiv (a.num * b.den + b.num * a.den) (a.den * b.den)

def mul (a b : Binary64) : Binary64 := ofDiv (a.num * b.num) (a.den * b.den)

end Binary64

end PatternLexer.Decimal
