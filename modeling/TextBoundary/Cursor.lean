import TextBoundary.Kind
import TextBoundary.Text

/-! A forward scanner over a text. It knows the category of the character just accepted and of the
next one, and can look ahead under one open transaction that is later kept or undone. -/

namespace TextBoundary

namespace Kind

def lookahead (kind : Kind) : List Char → Mask
  | [] => .empty
  | c :: _ => kind.category c.toNat

end Kind

/-- What a transaction saves: `position` is one past the current character, which starts at `start`;
`ahead` and `again` are the characters from there on. -/
structure Place where
  position : Nat
  start : Nat
  current : Mask
  lookahead : Mask
  ahead : List Char
  again : List Char
  deriving DecidableEq, Repr

structure Cursor (kind : Kind) (units : Units) extends Place where
  length : Nat
  offset : Nat
  saved : Option Place
  deriving DecidableEq, Repr

namespace Cursor

inductive Fault
  | endOfText (position : Nat)
  | nested
  | commitWithoutBegin
  | rollbackWithoutBegin
  -- a loop that makes no progress
  | endless
  deriving DecidableEq, Repr

def Fault.message : Fault → String
  | endOfText position => s!"TextCursor::advance called at end of text (position {position})"
  | nested => "nested TextCursor transaction"
  | commitWithoutBegin => "commit without begin"
  | rollbackWithoutBegin => "rollback without begin"
  | endless => "endless loop"

variable {kind : Kind} {units : Units}

/-- A cursor before the characters `ahead`, which stand at `offset` in a text of the given length. -/
def before (length offset : Nat) (ahead : List Char) : Cursor kind units where
  position := offset
  start := offset
  current := .empty
  lookahead := kind.lookahead ahead
  ahead := ahead
  again := ahead
  length := length
  offset := offset
  saved := none

def ofText (kind : Kind) (t : Text) (offset : Nat) : Cursor kind t.units :=
  before t.length offset ((t.suffix? offset).getD [])

def atEnd (c : Cursor kind units) : Bool := c.length ≤ c.position

def remaining (c : Cursor kind units) : Nat := c.length - c.position

def hasAccepted (c : Cursor kind units) : Bool := c.offset < c.start

def advance (c : Cursor kind units) : Except Fault (Cursor kind units) :=
  match c.ahead with
  | [] => .error (.endOfText c.position)
  | ch :: rest => .ok { c with
      position := c.position + units.size ch
      start := c.position
      current := c.lookahead
      lookahead := kind.lookahead rest
      ahead := rest
      again := c.ahead }

def setCurrent (c : Cursor kind units) (current : Mask) : Cursor kind units :=
  { c with current := current }

/-- Back to just before the current character; the categories stay as they are. -/
def retreat (c : Cursor kind units) : Cursor kind units :=
  { c with position := c.start, ahead := c.again }

def skipWhile (mask : Mask) (rounds : Nat) (c : Cursor kind units) : Except Fault (Cursor kind units) :=
  if c.lookahead.meets mask then
    match rounds with
    | 0 => .error .endless
    | rounds + 1 => do skipWhile mask rounds (← c.advance)
  else .ok c

def skipRuns (matching extend : Mask) (rounds : Nat) (c : Cursor kind units) : Except Fault (Cursor kind units) :=
  if c.lookahead.meets matching then
    match rounds with
    | 0 => .error .endless
    | rounds + 1 => do
      let c ← c.advance
      let c ← c.skipWhile extend c.remaining
      skipRuns matching extend rounds c
  else .ok c

/-- Skips characters meeting `matching`, each with those after it that meet `extend`, as parts of the
current character. -/
def absorb (c : Cursor kind units) (matching extend : Mask) : Except Fault (Cursor kind units) := do
  let skipped ← c.skipRuns matching extend c.remaining
  return skipped.setCurrent c.current

def begin (c : Cursor kind units) : Except Fault (Cursor kind units) :=
  match c.saved with
  | none => .ok { c with saved := some c.toPlace }
  | some _ => .error .nested

def commit (c : Cursor kind units) : Except Fault (Cursor kind units) :=
  match c.saved with
  | none => .error .commitWithoutBegin
  | some _ => .ok { c with saved := none }

def rollback (c : Cursor kind units) : Except Fault (Cursor kind units) :=
  match c.saved with
  | none => .error .rollbackWithoutBegin
  | some place => .ok { c with toPlace := place, saved := none }

/-- What a rule that looks ahead comes to: the cursor past what it joined, or back where it was. -/
inductive Trial (α : Type)
  | joined (cursor : α)
  | refused (cursor : α)

def attempt (c : Cursor kind units)
    (look : Cursor kind units → Except Fault (Cursor kind units × Bool)) :
    Except Fault (Trial (Cursor kind units)) := do
  let c ← c.begin
  let (c, found) ← look c
  if found then return .joined (← c.commit) else return .refused (← c.rollback)

/-- One pass of a scan ends with going on to the next character or with a boundary. -/
inductive Step (α : Type)
  | again (cursor : α)
  | stop (cursor : α)

def Trial.orElse {α : Type} : Trial α → (α → Except Fault (Step α)) → Except Fault (Step α)
  | .joined c, _ => .ok (.again c)
  | .refused c, rules => rules c

def scan (pass : Cursor kind units → Except Fault (Step (Cursor kind units))) (rounds : Nat) (c : Cursor kind units) :
    Except Fault (Cursor kind units) :=
  if c.atEnd then .ok c
  else
    match rounds with
    | 0 => .error .endless
    | rounds + 1 => do
      match ← pass c with
      | .again c => scan pass rounds c
      | .stop c => return c

end Cursor
end TextBoundary
