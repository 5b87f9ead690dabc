namespace TextBoundary.Number

def digitValue? (base : Nat) (c : Char) : Option Nat :=
  let n := c.toNat
  let value :=
    if 48 ≤ n ∧ n ≤ 57 then n - 48
    else if 97 ≤ n ∧ n ≤ 102 then n - 87
    else if 65 ≤ n ∧ n ≤ 70 then n - 55
    else base
  if value < base then some value else none

def readDigitsFrom? (base : Nat) : Nat → List Char → Option Nat
  | n, [] => some n
  | n, c :: cs =>
    match digitValue? base c with
    | none => none
    | some d => readDigitsFrom? base (n * base + d) cs

def readDigits? (base : Nat) : List Char → Option Nat
  | [] => none
  | cs => readDigitsFrom? base 0 cs

def readNat? (base limit : Nat) (cs : List Char) : Option Nat := do
  let n ← readDigits? base (match cs with
    | '+' :: ds => ds
    | ds => ds)
  if n < limit then some n else none

def readInt? (base limit : Nat) : List Char → Option Int
  | '-' :: ds => do
    let n ← readDigits? base ds
    if n ≤ limit then some (-(n : Int)) else none
  | cs => (readNat? base limit cs).map Int.ofNat

end TextBoundary.Number
