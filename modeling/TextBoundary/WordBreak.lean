import TextBoundary.Unicode.RunTable
import TextBoundary.Unicode.WordData

namespace TextBoundary.WordBreak

def cr : Mask := .bit 0
def lf : Mask := .bit 1
def newline : Mask := .bit 2
def extend : Mask := .bit 3
def zwj : Mask := .bit 4
def regionalIndicator : Mask := .bit 5
def format : Mask := .bit 6
def katakana : Mask := .bit 7
def hebrewLetter : Mask := .bit 8
def aLetter : Mask := .bit 9
def singleQuote : Mask := .bit 10
def doubleQuote : Mask := .bit 11
def midNumLet : Mask := .bit 12
def midLetter : Mask := .bit 13
def midNum : Mask := .bit 14
def numeric : Mask := .bit 15
def extendNumLet : Mask := .bit 16
def wSegSpace : Mask := .bit 17
def extendedPictographic : Mask := .bit 18
def other : Mask := .bit 19

def names : List (Mask × String) := [
  (cr, "CR"),
  (lf, "LF"),
  (newline, "Newline"),
  (extend, "Extend"),
  (zwj, "ZWJ"),
  (regionalIndicator, "Regional_Indicator"),
  (format, "Format"),
  (katakana, "Katakana"),
  (hebrewLetter, "Hebrew_Letter"),
  (aLetter, "ALetter"),
  (singleQuote, "Single_Quote"),
  (doubleQuote, "Double_Quote"),
  (midNumLet, "MidNumLet"),
  (midLetter, "MidLetter"),
  (midNum, "MidNum"),
  (numeric, "Numeric"),
  (extendNumLet, "ExtendNumLet"),
  (wSegSpace, "WSegSpace"),
  (extendedPictographic, "Extended_Pictographic"),
  (other, "Other")]

def table : Unicode.RunTable := .ofData Unicode.WordData.ascii Unicode.WordData.runs

def of (codePoint : Nat) : Mask := table.lookup codePoint

end TextBoundary.WordBreak
