import TextBoundary.Mask

namespace TextBoundary.Unicode

structure Run where
  first : Nat
  mask : Mask
  deriving DecidableEq, Repr, Inhabited

structure RunTable where
  ascii : Array Mask
  runs : Array Run

namespace RunTable

def ofData (ascii : List Nat) (runs : List (Nat × Nat)) : RunTable :=
  { ascii := (ascii.map Mask.mk).toArray
    runs := (runs.map fun (first, bits) => ⟨first, ⟨bits⟩⟩).toArray }

/-- The number of runs that start at or before a code point, by halving the window `[lo, hi)`;
`rounds` bounds the halvings. -/
def countStarted (runs : Array Run) (codePoint : Nat) : Nat → Nat → Nat → Nat
  | 0, lo, _ => lo
  | rounds + 1, lo, hi =>
    if lo < hi then
      let mid := (lo + hi) / 2
      if (runs.getD mid default).first ≤ codePoint then
        countStarted runs codePoint rounds (mid + 1) hi
      else
        countStarted runs codePoint rounds lo mid
    else lo

def search (runs : Array Run) (codePoint : Nat) : Mask :=
  (runs.getD (countStarted runs codePoint (runs.size + 1) 0 runs.size - 1) default).mask

def lookup (table : RunTable) (codePoint : Nat) : Mask :=
  if codePoint < 128 then table.ascii.getD codePoint default else search table.runs codePoint

end RunTable
end TextBoundary.Unicode
