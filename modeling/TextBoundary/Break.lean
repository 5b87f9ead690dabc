import TextBoundary.Break.Grapheme
import TextBoundary.Break.Word
import TextBoundary.Break.Sentence
import TextBoundary.TextError

namespace TextBoundary

namespace Kind

variable {units : Units}

def pass : (kind : Kind) → Cursor kind units →
    Except Cursor.Fault (Cursor.Step (Cursor kind units))
  | .grapheme => Break.Grapheme.pass
  | .word => Break.Word.pass
  | .sentence => Break.Sentence.pass

end Kind

namespace Cursor

variable {kind : Kind} {units : Units}

def find (c : Cursor kind units) : Except Fault (Cursor kind units) :=
  c.scan kind.pass c.remaining

end Cursor

namespace Text

/-- The boundary after an offset, which is not checked. -/
def breakFrom (kind : Kind) (t : Text) (offset : Nat) : Except TextError Nat := do
  let c ← (Cursor.ofText kind t offset).find.mapError .fault
  return c.position

def nextBreak (kind : Kind) (t : Text) (offset : Nat) : Except TextError Nat := do
  t.checkOffset (.nextBreak kind) offset
  t.breakFrom kind offset

end Text

structure Span where
  start : Nat
  stop : Nat
  chars : List Char
  deriving DecidableEq, Repr, Inhabited

namespace Span

/-- The segments of the characters `ahead`, which stand at `offset` in a text of the given length. -/
def tile (kind : Kind) (units : Units) (length rounds offset : Nat) (ahead : List Char) :
    Except Cursor.Fault (List Span) :=
  if length ≤ offset then .ok []
  else
    match rounds with
    | 0 => .error .endless
    | rounds + 1 => do
      let c ← (Cursor.before length offset ahead : Cursor kind units).find
      let rest ← tile kind units length rounds c.position c.ahead
      return ⟨offset, c.position, units.take ahead (c.position - offset)⟩ :: rest

end Span

namespace Text

def tiles (kind : Kind) (t : Text) (offset : Nat) : Except TextError (List Span) :=
  (Span.tile kind t.units t.length (t.length - offset) offset
    ((t.suffix? offset).getD [])).mapError .fault

def breaks (kind : Kind) (t : Text) (offset : Nat) : Except TextError (List Nat) := do
  if t.length ≤ offset then return []
  else
    t.checkOffset (.nextBreak kind) offset
    return (← t.tiles kind offset).map Span.stop

end Text
end TextBoundary
