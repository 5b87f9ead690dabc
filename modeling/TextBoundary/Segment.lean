import TextBoundary.Break
import TextBoundary.Segment.Filter

namespace TextBoundary

namespace Span

def keep (filter : Option WordFilter) (spans : List Span) : List Span :=
  match filter with
  | none => spans
  | some f => spans.filter fun s => f.accepts s.chars

end Span

namespace Text

def segments (kind : Kind) (t : Text) (offset : Nat) (filter : Option WordFilter) :
    Except TextError (List Span) := do
  t.checkOffset .segments offset
  let spans ← t.tiles kind offset
  return match kind with
    | .word => Span.keep filter spans
    | _ => spans

def graphemes (t : Text) (offset : Nat) : Except TextError (List Span) := do
  t.checkOffset (.iterate .grapheme) offset
  t.tiles .grapheme offset

def words (t : Text) (offset : Nat) (filter : WordFilter) : Except TextError (List Span) := do
  t.checkOffset (.iterate .word) offset
  return Span.keep (some filter) (← t.tiles .word offset)

def sentences (t : Text) (offset : Nat) : Except TextError (List Span) := do
  t.checkOffset (.iterate .sentence) offset
  t.tiles .sentence offset

def nextGrapheme (t : Text) (offset : Nat) : Except TextError (Nat × Nat) := do
  t.checkOffset (.next .grapheme) offset
  return (offset, ← t.breakFrom .grapheme offset)

def nextSentence (t : Text) (offset : Nat) : Except TextError (Nat × Nat) := do
  t.checkOffset (.next .sentence) offset
  return (offset, ← t.breakFrom .sentence offset)

def hasCategory (t : Text) (start stop : Nat) (mask : Mask) : Except TextError Bool := do
  t.checkRange .hasCategory start stop
  return (t.slice start stop).any fun c => (GeneralCategory.of c.toNat).meets mask

/-- The ends of the first segment from an offset on with a character in the mask, or of the empty one at the
end. -/
def findWord (mask : Mask) (t : Text) (rounds offset : Nat) : Except TextError (Nat × Nat) :=
  if t.length ≤ offset then .ok (offset, offset)
  else
    match rounds with
    | 0 => .error (.fault .endless)
    | rounds + 1 => do
      let stop ← t.breakFrom .word offset
      if ← t.hasCategory offset stop mask then return (offset, stop)
      else findWord mask t rounds stop

def nextWord (t : Text) (offset : Nat) (filter : WordFilter) : Except TextError (Nat × Nat) := do
  t.checkOffset (.next .word) offset
  findWord filter.mask t (t.length - offset) offset

def anyCategory (mask : Mask) (chars : List Char) : Bool :=
  chars.any fun c => (GeneralCategory.of c.toNat).meets mask

end Text
end TextBoundary
