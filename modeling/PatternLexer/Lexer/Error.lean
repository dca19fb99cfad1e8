import PatternLexer.Log.Event

set_option autoImplicit false

namespace PatternLexer

def patternLimit : Nat := 1048576

def fragmentLimit : Nat := 64

inductive LexError where
  | unknownCharacter (character : Char) (position : Nat)
  | unterminatedProperty (fragment : String) (position : Nat)
  | unknownProperty (name : String) (position : Nat)
  | patternTooLong (length : Nat)
deriving DecidableEq

namespace LexError

def message : LexError → String
  | unknownCharacter c p => "Unknown token " ++ String.singleton c ++ " at position " ++ toString p
  | unterminatedProperty f p => "Unknown token " ++ f ++ " at position " ++ toString p
  | unknownProperty n p => "Unknown unicode token " ++ n ++ " at position " ++ toString p
  | patternTooLong n =>
    "Pattern too long: " ++ toString n ++ " characters (max " ++ toString patternLimit ++ ")"

def code : LexError → Log.Code
  | unknownCharacter _ _ => .unknownCharacter
  | unterminatedProperty _ _ => .unterminatedProperty
  | unknownProperty _ _ => .unknownProperty
  | patternTooLong _ => .patternTooLong

def position? : LexError → Option Nat
  | unknownCharacter _ p => some p
  | unterminatedProperty _ p => some p
  | unknownProperty _ p => some p
  | patternTooLong _ => none

def fragment : LexError → String
  | unknownCharacter c _ => String.singleton c
  | unterminatedProperty f _ => f
  | unknownProperty n _ => n
  | patternTooLong _ => ""

def shownFragment (e : LexError) : String :=
  String.ofList (e.fragment.toList.take fragmentLimit)

def event (e : LexError) (showPosition : Bool) (cursor : Int) : Log.Event :=
  let report := (Log.Event.error e.code e.message).withContext "fragment" e.shownFragment
  if showPosition then report.withPosition cursor else report

def lengthEvent (length : Nat) : Log.Event :=
  (Log.Event.error .patternTooLong (patternTooLong length).message).withDetails
    [("length", toString length), ("limit", toString patternLimit)]

end LexError

end PatternLexer
