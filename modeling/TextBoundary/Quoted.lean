import TextBoundary.Unicode.RunTable
import TextBoundary.Unicode.VisibilityData

namespace TextBoundary.Visibility

def pictureless : Mask := .bit 0

/-- Marks with Grapheme_Extend, which are drawn on the character before them. The two halfwidth sound
marks of Katakana extend it too, but are letters with a picture of their own. -/
def extender : Mask := .bit 1

/-- Default_Ignorable_Code_Point: what a display may leave out, some letters among them. -/
def ignorable : Mask := .bit 2

def hidden : Mask := pictureless ||| extender ||| ignorable

def table : Unicode.RunTable := .ofData Unicode.VisibilityData.ascii Unicode.VisibilityData.runs

def of (codePoint : Nat) : Mask := table.lookup codePoint

end TextBoundary.Visibility

namespace TextBoundary.Quoted

def isPlain (c : Char) : Bool := !(Visibility.of c.toNat).meets Visibility.hidden

def escapeChar (c : Char) : List Char :=
  if c = '\x00' then ['\\', '0']
  else if c = '\t' then ['\\', 't']
  else if c = '\r' then ['\\', 'r']
  else if c = '\n' then ['\\', 'n']
  else if c = '"' ∨ c = '\\' then ['\\', c]
  else if isPlain c then [c]
  else ['\\', 'u', '\x7b'] ++ Nat.toDigits 16 c.toNat ++ ['\x7d']

def quote (s : String) : String := String.ofList ('"' :: s.toList.flatMap escapeChar ++ ['"'])

def list (items : List String) : String := "[" ++ ", ".intercalate (items.map quote) ++ "]"

end TextBoundary.Quoted
