import TextBoundary.Unicode.RunTable
import TextBoundary.Unicode.GraphemeData

namespace TextBoundary.GraphemeBreak

def cr : Mask := .bit 0
def lf : Mask := .bit 1
def control : Mask := .bit 2
def extend : Mask := .bit 3
def zwj : Mask := .bit 4
def regionalIndicator : Mask := .bit 5
def prepend : Mask := .bit 6
def spacingMark : Mask := .bit 7
def hangulL : Mask := .bit 8
def hangulV : Mask := .bit 9
def hangulT : Mask := .bit 10
def hangulLV : Mask := .bit 11
def hangulLVT : Mask := .bit 12
def extendedPictographic : Mask := .bit 13
def conjunctLinker : Mask := .bit 14
def conjunctConsonant : Mask := .bit 15
def conjunctExtend : Mask := .bit 16
def other : Mask := .bit 17

def names : List (Mask × String) := [
  (cr, "CR"),
  (lf, "LF"),
  (control, "Control"),
  (extend, "Extend"),
  (zwj, "ZWJ"),
  (regionalIndicator, "Regional_Indicator"),
  (prepend, "Prepend"),
  (spacingMark, "SpacingMark"),
  (hangulL, "L"),
  (hangulV, "V"),
  (hangulT, "T"),
  (hangulLV, "LV"),
  (hangulLVT, "LVT"),
  (extendedPictographic, "Extended_Pictographic"),
  (conjunctLinker, "InCB_Linker"),
  (conjunctConsonant, "InCB_Consonant"),
  (conjunctExtend, "InCB_Extend"),
  (other, "Other")]

def table : Unicode.RunTable := .ofData Unicode.GraphemeData.ascii Unicode.GraphemeData.runs

def of (codePoint : Nat) : Mask := table.lookup codePoint

end TextBoundary.GraphemeBreak
