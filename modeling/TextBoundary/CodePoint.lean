import TextBoundary.Number.Digits
import TextBoundary.Segment

namespace TextBoundary.CodePoint

def maximum : Nat := 0x10FFFF

def unicodeVersion : String := "15.1"

def check (op : Operation) (codePoint : Nat) : Except TextError Unit :=
  if maximum < codePoint then .error (.invalidCodePoint op codePoint) else .ok ()

theorem check_eq {n : Nat} (op : Operation) (h : n ≤ maximum) : check op n = .ok () :=
  if_neg (Nat.not_lt.mpr h)

/-- The names of every category of a kind that the code point belongs to. -/
def categoryNames (kind : Kind) (codePoint : Nat) : Except TextError (List String) := do
  check .categoryName codePoint
  return (kind.names.filter fun (value, _) => (kind.category codePoint).contains value).map Prod.snd

def generalCategory (codePoint : Nat) : Except TextError Mask := do
  check .generalCategory codePoint
  return GeneralCategory.of codePoint

def generalCode (codePoint : Nat) : Except TextError String := do
  return GeneralCategory.code (← generalCategory codePoint)

def hexDigits (codePoint : Nat) : List Char :=
  let digits := Nat.toDigits 16 codePoint
  List.replicate (4 - digits.length) '0' ++ digits

def hex (codePoint : Nat) : String :=
  String.ofList ('U' :: '+' :: (hexDigits codePoint).map Char.toUpper)

def compactHex (codePoint : Nat) : String := String.ofList ('U' :: '+' :: hexDigits codePoint)

def readHex? (digits : List Char) : Option Nat := Number.readNat? 16 UInt32.size digits

def unmarked : List Char → List Char
  | 'U' :: '+' :: digits => digits
  | 'u' :: '+' :: digits => digits
  | '0' :: 'x' :: digits => digits
  | '0' :: 'X' :: digits => digits
  | cs => cs

/-- The code point that an argument writes in hexadecimal, else the code points of its characters. -/
def ofArgument (argument : String) : List Nat :=
  match readHex? (unmarked argument.toList) with
  | some codePoint => [codePoint]
  | none => argument.toList.map Char.toNat

def ofArguments (arguments : List String) : List Nat := arguments.flatMap ofArgument

end TextBoundary.CodePoint
