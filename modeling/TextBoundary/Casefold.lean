import TextBoundary.Text
import TextBoundary.Unicode.FoldData

namespace TextBoundary.Casefold

inductive Folded
  | unchanged
  | single (c : Char)
  | expanded (cs : List Char)
  deriving DecidableEq, Repr, Inhabited

def simple : Array (Nat × Nat) := Unicode.FoldData.simple.toArray

def expanded : Array (Nat × List Nat) := Unicode.FoldData.expanded.toArray

/-- The value under a key in the window `[lo, hi)` of an array in increasing order of keys; `rounds`
bounds the halvings. -/
def find? {α : Type} (entries : Array (Nat × α)) (key : Nat) : Nat → Nat → Nat → Option α
  | 0, _, _ => none
  | rounds + 1, lo, hi =>
    if lo < hi then
      let mid := (lo + hi) / 2
      match entries[mid]? with
      | none => none
      | some (k, value) =>
        if k = key then some value
        else if k < key then find? entries key rounds (mid + 1) hi
        else find? entries key rounds lo mid
    else none

def foldChar (c : Char) : Folded :=
  if c.toNat < 128 then
    if c.isUpper then .single c.toLower else .unchanged
  else
    match find? simple c.toNat (simple.size + 1) 0 simple.size with
    | some n => .single (Char.ofNat n)
    | none =>
      match find? expanded c.toNat (expanded.size + 1) 0 expanded.size with
      | some ns => .expanded (ns.map Char.ofNat)
      | none => .unchanged

def Folded.replace : Folded → Char → List Char
  | unchanged, c => [c]
  | single d, _ => [d]
  | expanded ds, _ => ds

inductive Result
  | same
  | changed (chars : List Char)
  deriving DecidableEq, Repr

def Result.get : Result → List Char → List Char
  | same, chars => chars
  | changed chars, _ => chars

def Result.isSame : Result → Bool
  | same => true
  | changed _ => false

structure Measure where
  changed : Bool
  length : Nat
  deriving DecidableEq, Repr

def measure (units : Units) : List Char → Measure
  | [] => ⟨false, 0⟩
  | c :: cs =>
    let rest := measure units cs
    let folded := foldChar c
    ⟨folded != .unchanged || rest.changed, units.length (folded.replace c) + rest.length⟩

def replaceAll (cs : List Char) : List Char := cs.flatMap fun c => (foldChar c).replace c

def foldChars (cs : List Char) : Result :=
  if (measure .codePoints cs).changed then .changed (replaceAll cs) else .same

def foldAscii (cs : List Char) : Result :=
  if cs.any Char.isUpper then .changed (cs.map Char.toLower) else .same

/-- Folds a text, with a path of its own for ASCII. -/
def fold (cs : List Char) : Result :=
  if cs.all fun c => c.toNat < 128 then foldAscii cs
  else if (measure .bytes cs).changed then .changed (replaceAll cs)
  else .same

def casefold (text : String) : String := String.ofList ((fold text.toList).get text.toList)

end TextBoundary.Casefold
