import TextBoundary.Number.Binary64

namespace TextBoundary.Number

structure Decimal where
  digits : Nat
  exponent : Int
  deriving DecidableEq, Repr, Inhabited

namespace Binary64

def compareScaled (d : Decimal) (n : Nat) (e : Int) : Ordering :=
  compare ((d.digits * Nat.pow 10 d.exponent.toNat) <<< (-e).toNat)
    ((n * Nat.pow 10 (-d.exponent).toNat) <<< e.toNat)

/-- Whether the decimal lies among the reals that round to the absolute value of `x`; the ends count
when the mantissa is even, and the gap below a power of two is half as wide. -/
def roundsTo (x : Binary64) (d : Decimal) : Bool :=
  let narrow := x.mantissa = 1 <<< 52 ∧ -1074 < x.exponent
  let low := compareScaled d (4 * x.mantissa - if narrow then 1 else 2) (x.exponent - 2)
  let high := compareScaled d (4 * x.mantissa + 2) (x.exponent - 2)
  let even := x.mantissa % 2 = 0
  (low = .gt ∨ even ∧ low = .eq) ∧ (high = .lt ∨ even ∧ high = .eq)

def powerOfTen (num den : Nat) : Nat → Int → Int
  | 0, k => k
  | rounds + 1, k =>
    let next := k + 1
    if den * Nat.pow 10 next.toNat ≤ num * Nat.pow 10 (-next).toNat then
      powerOfTen num den rounds next
    else k

def neighbours (x : Binary64) (exponent : Int) : List Decimal :=
  let (num, den) := x.ratio
  let num := num * Nat.pow 10 (-exponent).toNat
  let den := den * Nat.pow 10 exponent.toNat
  let below := num / den
  let order :=
    if roundDiv num den = below then [below, below + 1] else [below + 1, below]
  (order.map fun digits => Decimal.mk digits exponent).filter x.roundsTo

def searchGrids (x : Binary64) : Nat → Int → Decimal
  | 0, exponent => (x.neighbours exponent).headD ⟨0, 0⟩
  | grids + 1, exponent =>
    match x.neighbours exponent with
    | d :: _ => d
    | [] => searchGrids x grids (exponent - 1)

def stripZeros : Nat → Decimal → Decimal
  | 0, d => d
  | rounds + 1, d =>
    if d.digits ≠ 0 ∧ d.digits % 10 = 0 then
      stripZeros rounds ⟨d.digits / 10, d.exponent + 1⟩
    else d

/-- The decimal with the fewest digits that rounds to the absolute value of `x`. -/
def shortest (x : Binary64) : Decimal :=
  if x.mantissa = 0 then ⟨0, 0⟩
  else
    let (num, den) := x.ratio
    let estimate := ((num.log2 : Int) - den.log2 - 1) * 30103 / 100000 - 2
    stripZeros 20 (x.searchGrids 17 (powerOfTen num den 6 estimate))

end Binary64
end TextBoundary.Number
