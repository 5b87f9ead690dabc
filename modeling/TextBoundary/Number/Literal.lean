import TextBoundary.Number.Binary64
import TextBoundary.Number.Digits

namespace TextBoundary.Number

inductive Literal
  | nan
  | infinite (negative : Bool)
  | finite (value : Binary64)
  deriving DecidableEq, Repr, Inhabited

namespace Literal

def exponent? : List Char → Option Int
  | '-' :: ds => do return -((← readDigits? 10 ds) : Int)
  | '+' :: ds => do return (← readDigits? 10 ds : Nat)
  | ds => do return (← readDigits? 10 ds : Nat)

def ofDecimal (negative : Bool) (digits : List Char) (power : Int) : Option Literal := do
  let n ← readDigits? 10 digits
  return match Binary64.ofDecimal negative n power with
    | some x => finite x
    | none => infinite negative

def decimal? (negative : Bool) (cs : List Char) : Option Literal := do
  let whole := cs.takeWhile Char.isDigit
  let (fraction, rest) := match cs.dropWhile Char.isDigit with
    | '.' :: cs => (cs.takeWhile Char.isDigit, cs.dropWhile Char.isDigit)
    | cs => ([], cs)
  let power : Int ← match rest with
    | [] => some 0
    | c :: cs => if c = 'e' ∨ c = 'E' then exponent? cs else none
  ofDecimal negative (whole ++ fraction) (power - fraction.length)

def unsigned? (negative : Bool) (cs : List Char) : Option Literal :=
  let name := String.ofList (cs.map Char.toLower)
  if name = "nan" then some nan
  else if name = "inf" ∨ name = "infinity" then some (infinite negative)
  else decimal? negative cs

def parse? (text : String) : Option Literal :=
  match text.toList with
  | '-' :: cs => unsigned? true cs
  | '+' :: cs => unsigned? false cs
  | cs => unsigned? false cs

def isPositive : Literal → Bool
  | nan => false
  | infinite negative => !negative
  | finite x => !x.negative && x.mantissa != 0

/-- The integer part of a positive number times a factor, rounded before it is cut, at most `limit`. -/
def scaled (limit factor : Nat) : Literal → Nat
  | nan => 0
  | infinite _ => limit
  | finite x =>
    match x.mulNat factor with
    | some y => min y.floorAbs limit
    | none => limit

end Literal
end TextBoundary.Number
