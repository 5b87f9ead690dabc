import TextBoundary.Cursor

namespace TextBoundary.Break.Word

open Cursor WordBreak

variable {units : Units}

abbrev Scanner (units : Units) := Cursor .word units

def newlines : Mask := newline ||| cr ||| lf
def ahLetter : Mask := aLetter ||| hebrewLetter
def midNumLetQ : Mask := midNumLet ||| singleQuote
def ignored : Mask := extend ||| zwj ||| format

/-- WB3c, with the joiner still ahead. -/
def pictograph (c : Scanner units) : Except Fault (Trial (Scanner units)) :=
  if c.lookahead.meets zwj then
    c.attempt fun c => do
      let c ← c.advance
      return (c, c.lookahead.meets extendedPictographic)
  else .ok (.refused c)

def skipIgnored (rounds : Nat) (c : Scanner units) : Except Fault (Trial (Scanner units)) :=
  if c.lookahead.meets ignored then
    match rounds with
    | 0 => .error .endless
    | rounds + 1 => do
      let joiner := c.lookahead.meets zwj
      let c ← c.advance
      if joiner && c.lookahead.meets extendedPictographic then return .joined c
      else skipIgnored rounds c
  else .ok (.refused c)

def extenders (c : Scanner units) : Except Fault (Trial (Scanner units)) := do
  match ← skipIgnored c.remaining c with
  | .joined c => return .joined c
  | .refused skipped => return .refused (skipped.setCurrent c.current)

/-- WB6, WB7, WB11 and WB12: one middle character between two of `outer`. -/
def across (outer middle : Mask) (c : Scanner units) : Except Fault (Trial (Scanner units)) :=
  if c.current.meets outer && c.lookahead.meets middle then
    c.attempt fun c => do
      let c ← c.advance
      let c ← c.absorb ignored .empty
      return (c, c.lookahead.meets outer)
  else .ok (.refused c)

/-- WB7b and WB7c; the quote is taken without extenders of its own. -/
def acrossQuote (c : Scanner units) : Except Fault (Trial (Scanner units)) :=
  if c.current.meets hebrewLetter && c.lookahead.meets doubleQuote then
    c.attempt fun c => do
      let c ← c.advance
      return (c, c.lookahead.meets hebrewLetter)
  else .ok (.refused c)

def alphanumeric (current next : Mask) : Bool :=
  current.meets numeric && next.meets numeric
  || current.meets ahLetter && next.meets numeric
  || current.meets numeric && next.meets ahLetter

def connected (current next : Mask) : Bool :=
  current.meets katakana && next.meets katakana
  || current.meets (ahLetter ||| numeric ||| katakana ||| extendNumLet) && next.meets extendNumLet
  || current.meets extendNumLet && next.meets (ahLetter ||| numeric ||| katakana)

/-- WB13 to WB999. -/
def connectors (c : Scanner units) : Except Fault (Step (Scanner units)) := do
  if connected c.current c.lookahead then return .again c
  else if c.current.meets regionalIndicator && c.lookahead.meets regionalIndicator then
    return .stop (← (← c.advance).absorb ignored .empty)
  else return .stop c

def numbers (c : Scanner units) : Except Fault (Step (Scanner units)) := do
  if alphanumeric c.current c.lookahead then return .again c
  else (← across numeric (midNum ||| midNumLetQ) c).orElse connectors

/-- WB7a to WB7c. -/
def quotes (c : Scanner units) : Except Fault (Step (Scanner units)) := do
  if c.current.meets hebrewLetter && c.lookahead.meets singleQuote then return .again c
  else (← acrossQuote c).orElse numbers

def letters (c : Scanner units) : Except Fault (Step (Scanner units)) := do
  if c.current.meets ahLetter && c.lookahead.meets ahLetter then return .again c
  else (← across ahLetter (midLetter ||| midNumLetQ) c).orElse quotes

/-- WB3 to WB3d; WB3a breaks before a newline when anything was accepted, so the cursor goes back. -/
def pass (c : Scanner units) : Except Fault (Step (Scanner units)) := do
  let c ← c.advance
  if c.current.meets cr && c.lookahead.meets lf then return .stop (← c.advance)
  else if c.current.meets newlines then
    if c.hasAccepted then return .stop c.retreat else return .stop c
  else if c.current.meets zwj && c.lookahead.meets extendedPictographic then return .again c
  else
    (← pictograph c).orElse fun c => do
      if c.current.meets wSegSpace && c.lookahead.meets wSegSpace then return .again c
      else (← extenders c).orElse letters

end TextBoundary.Break.Word
