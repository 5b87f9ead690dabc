import TextBoundary.Cursor

namespace TextBoundary.Break.Sentence

open Cursor SentenceBreak

variable {units : Units}

abbrev Scanner (units : Units) := Cursor .sentence units

def paraSep : Mask := sep ||| cr ||| lf
def saTerm : Mask := sTerm ||| aTerm
def ignored : Mask := format ||| extend

def passable : Mask := .complement 15 (oLetter ||| upper ||| lower ||| paraSep ||| saTerm)

def closing (c : Scanner units) : Except Fault (Scanner units) := do
  (← c.absorb close ignored).absorb sp ignored

/-- SB7. -/
def initials (c : Scanner units) : Except Fault (Trial (Scanner units)) :=
  if c.current.meets (upper ||| lower) && c.lookahead.meets aTerm then
    c.attempt fun c => do
      let c ← c.advance
      let c ← c.absorb ignored .empty
      return (c, c.lookahead.meets upper)
  else .ok (.refused c)

/-- SB8. -/
def lowercase (c : Scanner units) : Except Fault (Trial (Scanner units)) :=
  if c.current.meets aTerm then
    c.attempt fun c => do
      let c ← closing c
      let c ← c.absorb passable .empty
      let c ← c.absorb ignored .empty
      if c.lookahead.meets lower then return (← c.absorb ignored .empty, true)
      else return (c, false)
  else .ok (.refused c)

/-- SB8a. -/
def continued (c : Scanner units) : Except Fault (Trial (Scanner units)) :=
  if c.current.meets saTerm then
    c.attempt fun c => do
      let c ← closing c
      return (c, c.lookahead.meets (sContinue ||| saTerm))
  else .ok (.refused c)

/-- SB9 to SB998; a separator after the terminator is left to SB3 and SB4 of the next pass. -/
def terminated (c : Scanner units) : Except Fault (Step (Scanner units)) := do
  if c.current.meets saTerm then
    let c ← closing c
    if c.lookahead.meets paraSep then return .again c else return .stop c
  else return .again c

def pass (c : Scanner units) : Except Fault (Step (Scanner units)) := do
  let c ← c.advance
  if c.current.meets cr && c.lookahead.meets lf then return .stop (← c.advance)
  else if c.current.meets paraSep then return .stop c
  else
    let c ← c.absorb ignored .empty
    if c.current.meets aTerm && c.lookahead.meets numeric then return .again c
    else
      (← initials c).orElse fun c => do
        (← lowercase c).orElse fun c => do
          (← continued c).orElse terminated

end TextBoundary.Break.Sentence
