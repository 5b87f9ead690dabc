import TextBoundary.Cursor

namespace TextBoundary

inductive Operation
  | nextBreak (kind : Kind)
  | next (kind : Kind)
  | iterate (kind : Kind)
  | segments
  | graphemeLength
  | graphemeWidth
  | hasCategory
  | categoryName
  | generalCategory
  deriving DecidableEq, Repr

def Operation.name : Operation → String
  | nextBreak kind => kind.name ++ "_next_break"
  | next kind => kind.name ++ "_next"
  | iterate kind => kind.name ++ "_iter"
  | segments => "segments"
  | graphemeLength => "grapheme_length"
  | graphemeWidth => "grapheme_width"
  | hasCategory => "has_category"
  | categoryName => "category_name"
  | generalCategory => "category_category"

inductive TextError
  | offsetOutOfRange (operation : Operation) (offset length : Nat)
  | notCharBoundary (operation : Operation) (offset : Nat)
  | invalidRange (operation : Operation) (start stop : Nat)
  | invalidCodePoint (operation : Operation) (codePoint : Nat)
  | unknownKind (name : String)
  | unknownWordCategory (name : String)
  | fault (fault : Cursor.Fault)
  deriving DecidableEq, Repr

namespace TextError

def message : TextError → String
  | offsetOutOfRange op offset length =>
    s!"{op.name}: offset {offset} is beyond the end of the text (length {length})"
  | notCharBoundary op offset => s!"{op.name}: offset {offset} is not on a character boundary"
  | invalidRange op start stop => s!"{op.name}: range {start}..{stop} is inverted"
  | invalidCodePoint op codePoint =>
    op.name ++ ": 0x" ++ String.ofList (Nat.toDigits 16 codePoint) ++ " is not a valid codepoint"
  | unknownKind name =>
    "unknown category kind \"" ++ name ++ "\" - should be one of grapheme, word, sentence"
  | unknownWordCategory name =>
    "unknown word category \"" ++ name
      ++ "\" - should be one of letter, number, emoji, regional_indicator"
  | fault f => f.message

end TextError

namespace Text

/-- Refuses positions past the end, then those inside a character. -/
def checkOffset (t : Text) (op : Operation) (offset : Nat) : Except TextError Unit :=
  if t.length < offset then .error (.offsetOutOfRange op offset t.length)
  else if t.isBoundary offset then .ok ()
  else .error (.notCharBoundary op offset)

def checkRange (t : Text) (op : Operation) (start stop : Nat) : Except TextError Unit := do
  t.checkOffset op start
  t.checkOffset op stop
  if stop < start then throw (.invalidRange op start stop)

end Text
end TextBoundary
