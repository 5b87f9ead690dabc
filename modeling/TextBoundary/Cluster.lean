import TextBoundary.Segment

namespace TextBoundary.Text

/-- Goes from cluster to cluster up to the end of the text and adds each, with `step`, to what it has. -/
def overClusters {α : Type} (step : α → Nat → Nat → α) (t : Text) (rounds offset : Nat) (a : α) :
    Except TextError α :=
  if t.length ≤ offset then .ok a
  else
    match rounds with
    | 0 => .error (.fault .endless)
    | rounds + 1 => do
      let stop ← t.breakFrom .grapheme offset
      overClusters step t rounds stop (step a offset stop)

def graphemeLength (t : Text) (offset : Nat) : Except TextError Nat := do
  t.checkOffset .graphemeLength offset
  t.overClusters (fun count _ _ => count + 1) (t.length - offset) offset 0

def graphemeWidth (t : Text) (offset : Nat) : Except TextError Nat := do
  t.checkOffset .graphemeWidth offset
  let add (width start stop : Nat) :=
    width + if anyCategory GeneralCategory.wide (t.slice start stop) then 2 else 1
  t.overClusters add (t.length - offset) offset 0

def clusterStops (t : Text) : Except TextError (List Nat) :=
  t.overClusters (fun stops _ stop => stops ++ [stop]) t.length 0 [0]

def clampIndex (length index : Int) : Int :=
  if index < 0 then max (index + length) 0 else min index length

/-- Where the clusters numbered from `start` to `stop` begin and end, scanning no further than `stop`; an
end that is not reached stays as it is in `ends`. -/
def clusterEnds (start stop : Int) (t : Text) (rounds : Nat) (count : Int) (offset : Nat) (ends : Nat × Nat) :
    Except TextError (Nat × Nat) :=
  if t.length ≤ offset then .ok ends
  else
    match rounds with
    | 0 => .error (.fault .endless)
    | rounds + 1 => do
      let offset ← t.breakFrom .grapheme offset
      let count := count + 1
      let first := if count = start then offset else ends.1
      if count = stop then return (first, offset)
      else clusterEnds start stop t rounds count offset (first, ends.2)

def part (t : Text) (start stop : Nat) : List Char :=
  if stop ≤ start then [] else t.slice start stop

/-- The clusters from index `start` to before `stop`. Indices that count from the beginning need one
scan up to `stop`; one that counts from the end needs every boundary first. -/
def graphemeSlice (t : Text) (start stop : Option Int) : Except TextError (List Char) := do
  let length : Int := t.length
  let start := start.getD 0
  let stop := stop.getD length
  if start > length ∨ start = stop ∨ stop = 0 ∨ (start > 0 ∧ stop ≥ 0 ∧ start ≥ stop) then
    return []
  else if start ≥ 0 ∧ stop ≥ 0 then
    let ends := (if start = 0 then 0 else t.length, t.length)
    let ends ← t.clusterEnds start stop t.length 0 0 ends
    return t.part ends.1 ends.2
  else
    let boundaries ← t.clusterStops
    let clusters : Int := boundaries.length - 1
    let first := clampIndex clusters start
    let last := clampIndex clusters stop
    if last ≤ first then return []
    else return t.part (boundaries.getD first.toNat 0) (boundaries.getD last.toNat 0)

end TextBoundary.Text
