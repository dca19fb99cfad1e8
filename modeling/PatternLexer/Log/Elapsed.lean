import PatternLexer.Decimal.Shortest

set_option autoImplicit false

namespace PatternLexer.Log

open Decimal

structure Elapsed where
  micros : Nat
deriving DecidableEq

namespace Elapsed

def seconds (t : Elapsed) : Binary64 :=
  .add (.ofNat (t.micros / 1000000)) (.ofDiv (t.micros % 1000000 * 1000) 1000000000)

-- The seconds have been rounded before the product is, so some whole numbers of milliseconds are not written as such.
def millisecondsText (t : Elapsed) : String :=
  (Shortest.ofBinary64 (.mul t.seconds (.ofNat 1000))).text

end Elapsed

end PatternLexer.Log
