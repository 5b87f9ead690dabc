import TextBoundary.Unicode.RunTable
import TextBoundary.Unicode.GeneralData

/-! General_Category with the flags Extended_Pictographic, Regional_Indicator and East Asian wide.
A major category has a bit of its own. Minor categories share bits 7 to 13 between majors, so a
mask has a minor category when it contains it whole. -/

namespace TextBoundary.GeneralCategory

def letter : Mask := .bit 0
def mark : Mask := .bit 1
def number : Mask := .bit 2
def other : Mask := .bit 3
def punctuation : Mask := .bit 4
def separator : Mask := .bit 5
def symbol : Mask := .bit 6

def lowercaseLetter : Mask := .bit 7 ||| letter
def modifierLetter : Mask := .bit 8 ||| letter
def otherLetter : Mask := .bit 9 ||| letter
def titlecaseLetter : Mask := .bit 10 ||| letter
def uppercaseLetter : Mask := .bit 11 ||| letter
def enclosingMark : Mask := .bit 7 ||| mark
def nonspacingMark : Mask := .bit 8 ||| mark
def spacingMark : Mask := .bit 9 ||| mark
def decimalNumber : Mask := .bit 7 ||| number
def letterNumber : Mask := .bit 8 ||| number
def otherNumber : Mask := .bit 9 ||| number
def control : Mask := .bit 7 ||| other
def format : Mask := .bit 8 ||| other
def unassigned : Mask := .bit 9 ||| other
def privateUse : Mask := .bit 10 ||| other
def surrogate : Mask := .bit 11 ||| other
def closePunctuation : Mask := .bit 7 ||| punctuation
def connectorPunctuation : Mask := .bit 8 ||| punctuation
def dashPunctuation : Mask := .bit 9 ||| punctuation
def finalPunctuation : Mask := .bit 10 ||| punctuation
def initialPunctuation : Mask := .bit 11 ||| punctuation
def openPunctuation : Mask := .bit 12 ||| punctuation
def otherPunctuation : Mask := .bit 13 ||| punctuation
def lineSeparator : Mask := .bit 7 ||| separator
def paragraphSeparator : Mask := .bit 8 ||| separator
def spaceSeparator : Mask := .bit 9 ||| separator
def currencySymbol : Mask := .bit 7 ||| symbol
def mathSymbol : Mask := .bit 8 ||| symbol
def modifierSymbol : Mask := .bit 9 ||| symbol
def otherSymbol : Mask := .bit 10 ||| symbol

def extendedPictographic : Mask := .bit 14
def regionalIndicator : Mask := .bit 15
def wide : Mask := .bit 16

def codes : List (Mask × String) := [
  (lowercaseLetter, "Ll"),
  (modifierLetter, "Lm"),
  (otherLetter, "Lo"),
  (titlecaseLetter, "Lt"),
  (uppercaseLetter, "Lu"),
  (enclosingMark, "Me"),
  (nonspacingMark, "Mn"),
  (spacingMark, "Mc"),
  (decimalNumber, "Nd"),
  (letterNumber, "Nl"),
  (otherNumber, "No"),
  (control, "Cc"),
  (format, "Cf"),
  (unassigned, "Cn"),
  (privateUse, "Co"),
  (surrogate, "Cs"),
  (closePunctuation, "Pe"),
  (connectorPunctuation, "Pc"),
  (dashPunctuation, "Pd"),
  (finalPunctuation, "Pf"),
  (initialPunctuation, "Pi"),
  (openPunctuation, "Ps"),
  (otherPunctuation, "Po"),
  (lineSeparator, "Zl"),
  (paragraphSeparator, "Zp"),
  (spaceSeparator, "Zs"),
  (currencySymbol, "Sc"),
  (mathSymbol, "Sm"),
  (modifierSymbol, "Sk"),
  (otherSymbol, "So")]

def table : Unicode.RunTable := .ofData Unicode.GeneralData.ascii Unicode.GeneralData.runs

def of (codePoint : Nat) : Mask := table.lookup codePoint

def code (category : Mask) : String :=
  ((codes.find? fun (minor, _) => category.contains minor).map Prod.snd).getD "Cn"

end TextBoundary.GeneralCategory
