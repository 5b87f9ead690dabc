import TextBoundary.GraphemeBreak
import TextBoundary.WordBreak
import TextBoundary.SentenceBreak

namespace TextBoundary

inductive Kind
  | grapheme
  | word
  | sentence
  deriving DecidableEq, Repr, Inhabited

namespace Kind

def name : Kind → String
  | grapheme => "grapheme"
  | word => "word"
  | sentence => "sentence"

def ofName? (name : String) : Option Kind :=
  [grapheme, word, sentence].find? (·.name == name)

def category : Kind → Nat → Mask
  | grapheme => GraphemeBreak.of
  | word => WordBreak.of
  | sentence => SentenceBreak.of

def names : Kind → List (Mask × String)
  | grapheme => GraphemeBreak.names
  | word => WordBreak.names
  | sentence => SentenceBreak.names

end Kind
end TextBoundary
