import TextBoundary.Casefold
import TextBoundary.CodePoint

namespace TextBoundary

namespace GeneralCategory

def describe (code : String) : String :=
  if code = "Lu" then "Letter Uppercase"
  else if code = "Ll" then "Letter Lowercase"
  else if code = "Lt" then "Letter Titlecase"
  else if code = "Lm" then "Letter Modifier"
  else if code = "Lo" then "Letter Other"
  else if code = "Mn" then "Mark NonSpacing"
  else if code = "Mc" then "Mark SpacingCombining"
  else if code = "Me" then "Mark Enclosing"
  else if code = "Nd" then "Number DecimalDigit"
  else if code = "Nl" then "Number Letter"
  else if code = "No" then "Number Other"
  else if code = "Pc" then "Punctuation Connector"
  else if code = "Pd" then "Punctuation Dash"
  else if code = "Ps" then "Punctuation Open"
  else if code = "Pe" then "Punctuation Close"
  else if code = "Pi" then "Punctuation InitialQuote"
  else if code = "Pf" then "Punctuation FinalQuote"
  else if code = "Po" then "Punctuation Other"
  else if code = "Sm" then "Symbol Math"
  else if code = "Sc" then "Symbol Currency"
  else if code = "Sk" then "Symbol Modifier"
  else if code = "So" then "Symbol Other"
  else if code = "Zs" then "Separator Space"
  else if code = "Zl" then "Separator Line"
  else if code = "Zp" then "Separator Paragraph"
  else if code = "Cc" then "Other Control"
  else if code = "Cf" then "Other Format"
  else if code = "Cs" then "Other Surrogate"
  else if code = "Co" then "Other PrivateUse"
  else "Other NotAssigned"

end GeneralCategory

namespace CodePoint

/-- A code point at its place in a listing. The character is missing for surrogates, the folded form
where folding changes nothing. -/
structure Details where
  index : Nat
  codePoint : Nat
  character : Option Char
  category : String
  grapheme : List String
  word : List String
  sentence : List String
  wide : Bool
  folded : Option String
  deriving DecidableEq, Repr, Inhabited

def char? (codePoint : Nat) : Option Char :=
  if codePoint.isValidChar then some (Char.ofNat codePoint) else none

def folded? (c : Char) : Option String :=
  let text := String.singleton c
  let folded := Casefold.casefold text
  if folded = text then none else some folded

namespace Details

def of (index codePoint : Nat) : Except TextError Details := do
  let category ← generalCode codePoint
  let character := char? codePoint
  return {
    index, codePoint, character, category
    grapheme := ← categoryNames .grapheme codePoint
    word := ← categoryNames .word codePoint
    sentence := ← categoryNames .sentence codePoint
    wide := character.any fun c => (GeneralCategory.of c.toNat).meets GeneralCategory.wide
    folded := character.bind folded? }

def listFrom (index : Nat) : List Nat → Except TextError (List Details)
  | [] => .ok []
  | codePoint :: rest => do
    return (← of index codePoint) :: (← listFrom (index + 1) rest)

def ofChars (index : Nat) (chars : List Char) : Except TextError (List Details) :=
  listFrom index (chars.map Char.toNat)

def description (d : Details) : String := GeneralCategory.describe d.category

def breakCategories (d : Details) : Kind → List String
  | .grapheme => d.grapheme
  | .word => d.word
  | .sentence => d.sentence

end Details
end CodePoint
end TextBoundary
