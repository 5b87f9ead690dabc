/-! Finite binary floating-point numbers of 64 bits, as exact values. -/

namespace TextBoundary.Number

/-- The value mantissa · 2^exponent with a sign, where the mantissa is below 2^53 and, unless it is at
least 2^52, the exponent is -1074. -/
structure Binary64 where
  negative : Bool
  mantissa : Nat
  exponent : Int
  deriving DecidableEq, Repr, Inhabited

def roundDiv (num den : Nat) : Nat :=
  let q := num / den
  let twice := 2 * (num % den)
  if twice < den then q
  else if twice = den then q + q % 2
  else q + 1

namespace Binary64

def zero (negative : Bool) : Binary64 := ⟨negative, 0, -1074⟩

def scaleDown (num den : Nat) (e : Int) : Nat × Nat :=
  if 0 ≤ e then (num, den <<< e.toNat) else (num <<< (-e).toNat, den)

/-- The value nearest to num / den, none when it lies past the largest. -/
def ofRatio (negative : Bool) (num den : Nat) : Option Binary64 :=
  if num = 0 then some (zero negative)
  else
    let low : Int := max ((num.log2 : Int) - den.log2 - 53) (-1074)
    let (n, d) := scaleDown num den low
    let e := if n / d < 1 <<< 53 then low else low + 1
    let (n, d) := scaleDown num den e
    let m := roundDiv n d
    let (m, e) := if m = 1 <<< 53 then (1 <<< 52, e + 1) else (m, e)
    if 971 < e then none else some ⟨negative, m, e⟩

def ofDecimal (negative : Bool) (digits : Nat) (exponent : Int) : Option Binary64 :=
  if digits = 0 then some (zero negative)
  else
    let magnitude := exponent + (digits.log2 : Int) / 3
    if 400 < exponent then none
    else if magnitude < -800 then some (zero negative)
    else if 0 ≤ exponent then ofRatio negative (digits * Nat.pow 10 exponent.toNat) 1
    else ofRatio negative digits (Nat.pow 10 (-exponent).toNat)

def ratio (x : Binary64) : Nat × Nat :=
  if 0 ≤ x.exponent then (x.mantissa <<< x.exponent.toNat, 1)
  else (x.mantissa, 1 <<< (-x.exponent).toNat)

def mulNat (x : Binary64) (n : Nat) : Option Binary64 :=
  ofRatio x.negative (x.ratio.1 * n) x.ratio.2

def floorAbs (x : Binary64) : Nat := x.ratio.1 / x.ratio.2

end Binary64
end TextBoundary.Number
