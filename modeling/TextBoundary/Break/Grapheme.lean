import TextBoundary.Cursor

namespace TextBoundary.Break.Grapheme

open Cursor GraphemeBreak

variable {units : Units}

abbrev Scanner (units : Units) := Cursor .grapheme units

def controls : Mask := control ||| cr ||| lf

def syllable (current next : Mask) : Bool :=
  current.meets hangulL && next.meets (hangulL ||| hangulV ||| hangulLV ||| hangulLVT)
  || current.meets (hangulLV ||| hangulV) && next.meets (hangulV ||| hangulT)
  || current.meets (hangulLVT ||| hangulT) && next.meets hangulT

def conjunctJoiner : Mask := conjunctExtend ||| conjunctLinker

def skipJoiners (rounds : Nat) (linked : Bool) (c : Scanner units) : Except Fault (Scanner units × Bool) :=
  if c.lookahead.meets conjunctJoiner then
    match rounds with
    | 0 => .error .endless
    | rounds + 1 => do
      skipJoiners rounds (linked || c.lookahead.meets conjunctLinker) (← c.advance)
  else .ok (c, linked)

/-- GB9c: joiners with a linker lead from one consonant to another. -/
def conjunct (c : Scanner units) : Except Fault (Trial (Scanner units)) :=
  if c.current.meets conjunctConsonant && c.lookahead.meets conjunctJoiner then
    c.attempt fun c => do
      let (c, linked) ← skipJoiners c.remaining false c
      return (c, linked && c.lookahead.meets conjunctConsonant)
  else .ok (.refused c)

/-- GB11: extenders and a joiner lead from one pictograph to another. -/
def pictographs (c : Scanner units) : Except Fault (Trial (Scanner units)) :=
  if c.current.meets extendedPictographic && c.lookahead.meets (extend ||| zwj) then
    c.attempt fun c => do
      let c ← c.skipWhile extend c.remaining
      if c.lookahead.meets zwj then
        let c ← c.advance
        return (c, c.lookahead.meets extendedPictographic)
      else return (c, false)
  else .ok (.refused c)

/-- GB9, asked after GB9c and GB11 because linkers and joiners extend too, then GB12 and GB13. -/
def remaining (c : Scanner units) : Except Fault (Step (Scanner units)) := do
  if c.lookahead.meets (extend ||| zwj) then return .again c
  else if c.current.meets regionalIndicator && c.lookahead.meets regionalIndicator then
    let c ← c.advance
    -- GB9 and GB9a for the second indicator
    if c.lookahead.meets (extend ||| zwj ||| conjunctExtend ||| spacingMark) then return .again c
    else return .stop c
  else return .stop c

/-- GB3 and GB5 break before a control when anything was accepted, so the cursor goes back. -/
def pass (c : Scanner units) : Except Fault (Step (Scanner units)) := do
  let c ← c.advance
  if c.current.meets cr && c.lookahead.meets lf then
    if c.hasAccepted then return .stop c.retreat else return .stop (← c.advance)
  else if c.current.meets controls then
    if c.hasAccepted then return .stop c.retreat else return .stop c
  else if syllable c.current c.lookahead || c.lookahead.meets spacingMark || c.current.meets prepend then
    return .again c
  else
    (← conjunct c).orElse fun c => do
      (← pictographs c).orElse remaining

end TextBoundary.Break.Grapheme
