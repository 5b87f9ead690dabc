import TextBoundary.Json

namespace TextBoundary.Json

def isSpace (c : Char) : Bool := c = ' ' || c = '\n' || c = '\r' || c = '\t'

def skipSpace (cs : List Char) : List Char := cs.dropWhile isSpace

def hexValue? (c : Char) : Option Nat :=
  if '0' ≤ c ∧ c ≤ '9' then some (c.toNat - 48)
  else if 'a' ≤ c ∧ c ≤ 'f' then some (c.toNat - 87)
  else if 'A' ≤ c ∧ c ≤ 'F' then some (c.toNat - 55)
  else none

def hex4? : List Char → Option (Nat × List Char)
  | a :: b :: c :: d :: rest => do
    let digits ← [a, b, c, d].mapM hexValue?
    return (digits.foldl (16 * · + ·) 0, rest)
  | _ => none

def simpleEscape? (letter : Char) : Option Char :=
  if letter = '/' then some letter else (escapes.find? (·.2 == letter)).map Prod.fst

def codeEscape? (cs : List Char) : Option (Char × List Char) := do
  let (high, rest) ← hex4? cs
  if 0xD800 ≤ high ∧ high < 0xDC00 then
    match rest with
    | '\\' :: 'u' :: rest =>
      let (low, rest) ← hex4? rest
      if 0xDC00 ≤ low ∧ low < 0xE000 then
        return (Char.ofNat (0x10000 + (high - 0xD800) * 0x400 + (low - 0xDC00)), rest)
      else none
    | _ => none
  else if 0xDC00 ≤ high ∧ high < 0xE000 then none
  else return (Char.ofNat high, rest)

/-- The rest of a string after its opening quote; `done` holds its characters in reverse. -/
def stringTail? : Nat → List Char → List Char → Option (String × List Char)
  | 0, _, _ => none
  | fuel + 1, done, cs =>
    match cs with
    | [] => none
    | '"' :: rest => some (String.ofList done.reverse, rest)
    | '\\' :: 'u' :: rest => do
      let (c, rest) ← codeEscape? rest
      stringTail? fuel (c :: done) rest
    | '\\' :: e :: rest => do
      let c ← simpleEscape? e
      stringTail? fuel (c :: done) rest
    | c :: rest => if c.toNat < 32 then none else stringTail? fuel (c :: done) rest

def digitsValue (ds : List Char) : Nat := ds.foldl (fun n d => n * 10 + (d.toNat - 48)) 0

def fraction? : List Char → Option (List Char × List Char)
  | '.' :: cs =>
    let ds := cs.takeWhile Char.isDigit
    if ds.isEmpty then none else some (ds, cs.dropWhile Char.isDigit)
  | cs => some ([], cs)

def exponent? : List Char → Option (Option Int × List Char)
  | c :: cs =>
    if c = 'e' ∨ c = 'E' then
      let (negative, cs) := match cs with
        | '-' :: cs => (true, cs)
        | '+' :: cs => (false, cs)
        | cs => (false, cs)
      let ds := cs.takeWhile Char.isDigit
      if ds.isEmpty then none
      else
        let n : Int := digitsValue ds
        some (some (if negative then -n else n), cs.dropWhile Char.isDigit)
    else some (none, c :: cs)
  | [] => some (none, [])

def isInteger (n : Int) : Bool := -(1 <<< 63 : Nat) ≤ n && n < UInt64.size

/-- A number without fraction and exponent is an integer, but for the negative zero and for one too
large. -/
def number? (cs : List Char) : Option (Json × List Char) := do
  let (negative, cs) := match cs with
    | '-' :: cs => (true, cs)
    | cs => (false, cs)
  let whole := cs.takeWhile Char.isDigit
  if whole.isEmpty ∨ (whole.head? = some '0' ∧ 1 < whole.length) then none
  else
    let rest := cs.dropWhile Char.isDigit
    let (frac, rest') ← fraction? rest
    let (exp, rest'') ← exponent? rest'
    let value := digitsValue whole
    let signed : Int := if negative then -value else value
    if frac.isEmpty ∧ exp.isNone ∧ negative ∧ value = 0 then return (.float (.zero true), rest'')
    else if frac.isEmpty ∧ exp.isNone ∧ isInteger signed then return (.int signed, rest'')
    else
      let x ← Number.Binary64.ofDecimal negative (digitsValue (whole ++ frac))
        (exp.getD 0 - frac.length)
      return (.float x, rest'')

def literal? (word : List Char) (value : Json) (cs : List Char) : Option (Json × List Char) :=
  if word.isPrefixOf cs then some (value, cs.drop word.length) else none

mutual

def value? : Nat → List Char → Option (Json × List Char)
  | 0, _ => none
  | fuel + 1, cs =>
    match skipSpace cs with
    | [] => none
    | '"' :: rest => do
      let (s, rest) ← stringTail? fuel [] rest
      return (.string s, rest)
    | '[' :: rest =>
      match skipSpace rest with
      | ']' :: rest => some (.array [], rest)
      | rest => do
        let (items, rest) ← items? fuel rest
        return (.array items, rest)
    | '\x7b' :: rest =>
      match skipSpace rest with
      | '\x7d' :: rest => some (.object [], rest)
      | rest => do
        let (fields, rest) ← fields? fuel rest
        return (.object fields, rest)
    | 'n' :: rest => literal? "null".toList .null ('n' :: rest)
    | 't' :: rest => literal? "true".toList (.bool true) ('t' :: rest)
    | 'f' :: rest => literal? "false".toList (.bool false) ('f' :: rest)
    | cs => number? cs

def items? : Nat → List Char → Option (List Json × List Char)
  | 0, _ => none
  | fuel + 1, cs => do
    let (item, rest) ← value? fuel cs
    match skipSpace rest with
    | ']' :: rest => return ([item], rest)
    | ',' :: rest =>
      let (items, rest) ← items? fuel rest
      return (item :: items, rest)
    | _ => none

def fields? : Nat → List Char → Option (List (String × Json) × List Char)
  | 0, _ => none
  | fuel + 1, cs => do
    match skipSpace cs with
    | '"' :: rest =>
      let (name, rest) ← stringTail? fuel [] rest
      match skipSpace rest with
      | ':' :: rest =>
        let (value, rest) ← value? fuel rest
        match skipSpace rest with
        | '\x7d' :: rest => return ([(name, value)], rest)
        | ',' :: rest =>
          let (fields, rest) ← fields? fuel rest
          return ((name, value) :: fields, rest)
        | _ => none
      | _ => none
    | _ => none

end

def parse? (text : String) : Option Json := do
  let cs := text.toList
  let (value, rest) ← value? (2 * cs.length + 2) cs
  if (skipSpace rest).isEmpty then return value else none

end TextBoundary.Json
