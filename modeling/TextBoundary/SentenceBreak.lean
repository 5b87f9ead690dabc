import TextBoundary.Unicode.RunTable
import TextBoundary.Unicode.SentenceData

namespace TextBoundary.SentenceBreak

def cr : Mask := .bit 0
def lf : Mask := .bit 1
def extend : Mask := .bit 2
def sep : Mask := .bit 3
def format : Mask := .bit 4
def sp : Mask := .bit 5
def lower : Mask := .bit 6
def upper : Mask := .bit 7
def oLetter : Mask := .bit 8
def numeric : Mask := .bit 9
def aTerm : Mask := .bit 10
def sContinue : Mask := .bit 11
def sTerm : Mask := .bit 12
def close : Mask := .bit 13
def other : Mask := .bit 14

def names : List (Mask × String) := [
  (cr, "CR"),
  (lf, "LF"),
  (extend, "Extend"),
  (sep, "Sep"),
  (format, "Format"),
  (sp, "Sp"),
  (lower, "Lower"),
  (upper, "Upper"),
  (oLetter, "OLetter"),
  (numeric, "Numeric"),
  (aTerm, "ATerm"),
  (sContinue, "SContinue"),
  (sTerm, "STerm"),
  (close, "Close"),
  (other, "Other")]

def table : Unicode.RunTable := .ofData Unicode.SentenceData.ascii Unicode.SentenceData.runs

def of (codePoint : Nat) : Mask := table.lookup codePoint

end TextBoundary.SentenceBreak
