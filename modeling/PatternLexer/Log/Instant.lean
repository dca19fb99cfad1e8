set_option autoImplicit false

namespace PatternLexer.Log

-- Seconds since the start of 1970. A fraction of a whole second or more belongs to a leap second.
structure Instant where
  seconds : Int := 0
  nanos : Nat := 0
deriving DecidableEq

def padded (width n : Nat) : String :=
  let digits := Nat.toDigits 10 n
  String.ofList (List.replicate (width - digits.length) '0' ++ digits)

structure Date where
  year : Int
  month : Nat
  day : Nat
deriving DecidableEq

namespace Date

-- The year starts in March, so that its leap day is the last one: 400 years are 146097 days, five months are 153.
def ofDays (days : Int) : Date :=
  let z := days + 719468
  let era := z.fdiv 146097
  let dayOfEra := (z - era * 146097).toNat
  let yearOfEra := (dayOfEra - dayOfEra / 1460 + dayOfEra / 36524 - dayOfEra / 146096) / 365
  let dayOfYear := dayOfEra - (365 * yearOfEra + yearOfEra / 4 - yearOfEra / 100)
  let fromMarch := (5 * dayOfYear + 2) / 153
  let day := dayOfYear - (153 * fromMarch + 2) / 5 + 1
  let month := if fromMarch < 10 then fromMarch + 3 else fromMarch - 9
  let year := era * 400 + yearOfEra + (if month ≤ 2 then 1 else 0)
  ⟨year, month, day⟩

def yearText (year : Int) : String :=
  if year < 0 then "-" ++ padded 4 year.natAbs
  else if year ≤ 9999 then padded 4 year.toNat
  else "+" ++ padded 4 year.toNat

def text (d : Date) : String :=
  yearText d.year ++ "-" ++ padded 2 d.month ++ "-" ++ padded 2 d.day

end Date

namespace Instant

def fractionText (nanos : Nat) : String :=
  if nanos = 0 then ""
  else if nanos % 1000000 = 0 then "." ++ padded 3 (nanos / 1000000)
  else if nanos % 1000 = 0 then "." ++ padded 6 (nanos / 1000)
  else "." ++ padded 9 nanos

def text (i : Instant) : String :=
  let date := Date.ofDays (i.seconds.fdiv 86400)
  let time := (i.seconds.fmod 86400).toNat
  let leap := i.nanos / 1000000000
  date.text ++ "T" ++ padded 2 (time / 3600) ++ ":" ++ padded 2 (time / 60 % 60) ++ ":" ++
    padded 2 (time % 60 + leap) ++ fractionText (i.nanos % 1000000000) ++ "+00:00"

end Instant

end PatternLexer.Log
