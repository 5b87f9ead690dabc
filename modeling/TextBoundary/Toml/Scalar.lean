import TextBoundary.Number.Binary64
import TextBoundary.Toml.Text

namespace TextBoundary.Toml

def wellSpaced (isDigit : Char → Bool) : List Char → Bool
  | [] => true
  | '_' :: _ => false
  | c :: '_' :: d :: cs => isDigit c && isDigit d && wellSpaced isDigit (d :: cs)
  | _ :: cs => wellSpaced isDigit cs

def ungroup? (isDigit : Char → Bool) (signed : Bool) (cs : List Char) : Option (List Char) :=
  let cs := if signed ∧ cs.head? = some '_' then cs.tail else cs
  if wellSpaced isDigit cs then some (cs.filter (· ≠ '_')) else none

def isHexDigit (c : Char) : Bool := (Number.digitValue? 16 c).isSome

def ofInt (value : Int) : Toml :=
  if -(1 <<< 127 : Nat) ≤ value ∧ value < (1 <<< 128 : Nat) then integer value else unrepresentable

def radix? (base : Nat) (cs : List Char) : Option Toml := do
  let ds ← ungroup? isHexDigit false cs
  if ds.all fun c => (Number.digitValue? base c).isSome then
    return ((Number.readDigits? base ds).map fun n => ofInt n).getD unrepresentable
  else none

/-- An integer after its sign, without a leading zero. After an underscore other characters than
digits are let through, though only digits give it a value. -/
def integer? (sign : Option Char) (cs : List Char) : Option Toml := do
  if cs.head? = some '0' ∧ cs ≠ ['0'] then none
  let ds ← ungroup? isHexDigit sign.isSome cs
  if ds = [] then none
  match Number.readDigits? 10 ds with
  | some n => return ofInt (if sign = some '-' then -(n : Int) else n)
  | none => return unrepresentable

def cutAt (isMark : Char → Bool) (cs : List Char) : List Char × Option (List Char) :=
  (cs.takeWhile (!isMark ·), (cs.dropWhile (!isMark ·)).tail?)

def isExponentMark (c : Char) : Bool := c == 'e' || c == 'E'

def cutSign : List Char → Option Char × List Char
  | '-' :: cs => (some '-', cs)
  | '+' :: cs => (some '+', cs)
  | cs => (none, cs)

def float? (sign : Option Char) (cs : List Char) : Option Toml := do
  let ds ← ungroup? Char.isDigit sign.isSome cs
  let (mantissa, exponent) := cutAt isExponentMark ds
  let (whole, fraction) := cutAt (· == '.') mantissa
  if cs.head? = some '0' ∧ 1 < whole.length then none
  let _ ← Number.readDigits? 10 whole
  let _ ← Number.readDigits? 10 (fraction.getD ['0'])
  let (power : Int) ← match exponent with
    | none => some 0
    | some e => do
      let (sign, ds) := cutSign e
      let n ← Number.readDigits? 10 ds
      some (if sign = some '-' then -(n : Int) else n)
  let places := fraction.getD []
  let digits ← Number.readDigits? 10 (whole ++ places)
  match Number.Binary64.ofDecimal false digits (power - places.length) with
  | some _ => return float
  | none => return unrepresentable

def fixed? (count : Nat) (cs : List Char) : Option (Nat × List Char) := do
  let ds := cs.take count
  if ds.length = count ∧ ds.all Char.isDigit then
    return (← Number.readDigits? 10 ds, cs.drop count)
  else none

def isLeapYear (year : Nat) : Bool := year % 4 == 0 && (year % 100 != 0 || year % 400 == 0)

def daysIn (year month : Nat) : Nat :=
  if month = 2 then if isLeapYear year then 29 else 28
  else if month = 4 ∨ month = 6 ∨ month = 9 ∨ month = 11 then 30
  else 31

def date? (cs : List Char) : Option (List Char) := do
  let (year, '-' :: cs) ← fixed? 4 cs | none
  let (month, '-' :: cs) ← fixed? 2 cs | none
  let (day, cs) ← fixed? 2 cs
  if 1 ≤ month ∧ month ≤ 12 ∧ 1 ≤ day ∧ day ≤ daysIn year month then some cs else none

def secondsFraction? : List Char → Option (List Char)
  | '.' :: cs => if (cs.takeWhile Char.isDigit).isEmpty then none else some (cs.dropWhile Char.isDigit)
  | cs => some cs

def time? (cs : List Char) : Option (List Char) := do
  let (hour, ':' :: cs) ← fixed? 2 cs | none
  let (minute, cs) ← fixed? 2 cs
  if 23 < hour ∨ 59 < minute then none
  match cs with
  | ':' :: cs => do
    let (second, cs) ← fixed? 2 cs
    if 60 < second then none else secondsFraction? cs
  | cs => some cs

def zone? (cs : List Char) : Option (List Char) :=
  match cs with
  | [] => some []
  | ['Z'] | ['z'] => some []
  | sign :: cs =>
    if sign = '+' ∨ sign = '-' then do
      let (hour, ':' :: cs) ← fixed? 2 cs | none
      let (minute, cs) ← fixed? 2 cs
      if hour ≤ 23 ∧ minute ≤ 59 then some cs else none
    else none

def moment? (cs : List Char) : Option Toml := do
  let rest ← match date? cs with
    | none => time? cs
    | some [] => some []
    | some (separator :: cs) =>
      if separator = 'T' ∨ separator = 't' ∨ separator = ' ' then do zone? (← time? cs) else none
  if rest = [] then some moment else none

def decimal? (cs : List Char) : Option Toml :=
  let (sign, ds) := cutSign cs
  let rest := ds.dropWhile Char.isDigit
  let next := rest.headD '_'
  if ds ≠ rest ∧ (next = '-' ∨ next = ':') then moment? cs
  else if rest.contains ' ' then none
  else if rest.any fun c => c == '.' || isExponentMark c then float? sign ds
  else if next = '_' then integer? sign ds
  else none

def word? (cs : List Char) : Option Toml :=
  if cs = "true".toList then some (boolean true)
  else if cs = "false".toList then some (boolean false)
  else if (cutSign cs).2 = "inf".toList ∨ (cutSign cs).2 = "nan".toList then some float
  else
    match cs with
    | '0' :: 'x' :: ds => radix? 16 ds
    | '0' :: 'o' :: ds => radix? 8 ds
    | '0' :: 'b' :: ds => radix? 2 ds
    | cs => decimal? cs

def scalar? : Lexeme → Option Toml
  | .quoted raw => (text? raw).map string
  | .word raw => word? raw

end TextBoundary.Toml
