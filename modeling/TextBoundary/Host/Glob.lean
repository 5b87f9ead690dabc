import TextBoundary.Files.Tree

/-! Patterns for paths. In a component `?` stands for one character, `*` for any number of them, and
brackets for one of a set; a component of two stars stands for directories below each other. -/

namespace TextBoundary.Host

open Files

namespace Glob

structure Range where
  low : Char
  high : Char
  deriving DecidableEq, Repr

inductive Piece
  | char (c : Char)
  | anyChar
  | anySequence
  | oneOf (ranges : List Range)
  | noneOf (ranges : List Range)
  | recursive
  deriving DecidableEq, Repr

def ranges : List Char → List Range
  | low :: '-' :: high :: cs => ⟨low, high⟩ :: ranges cs
  | c :: cs => ⟨c, c⟩ :: ranges cs
  | [] => []

def cutBracket? (cs : List Char) : Option (List Char × List Char) :=
  match cs.dropWhile (· != ']') with
  | [] => none
  | _ :: rest => some (cs.takeWhile (· != ']'), rest)

def set? : List Char → Option (Piece × List Char)
  | '!' :: c :: cs => do
    let (set, rest) ← cutBracket? cs
    return (.noneOf (ranges (c :: set)), rest)
  | '!' :: [] => none
  | c :: cs => do
    let (set, rest) ← cutBracket? cs
    return (.oneOf (ranges (c :: set)), rest)
  | [] => none

/-- Reads a pattern; two stars have to be a component of their own, and more are refused. -/
def pieces? : Nat → Bool → List Char → Option (List Piece)
  | 0, _, _ => none
  | _, _, [] => some []
  | fuel + 1, _, '?' :: cs => do return .anyChar :: (← pieces? fuel false cs)
  | _ + 1, _, '*' :: '*' :: '*' :: _ => none
  | fuel + 1, starts, '*' :: '*' :: cs =>
    if starts then
      match cs with
      | [] => some [.recursive]
      | '/' :: cs => do return .recursive :: (← pieces? fuel true cs)
      | _ => none
    else none
  | fuel + 1, _, '*' :: cs => do return .anySequence :: (← pieces? fuel false cs)
  | fuel + 1, _, '[' :: cs => do
    let (piece, rest) ← set? cs
    return piece :: (← pieces? fuel false rest)
  | fuel + 1, _, c :: cs => do return .char c :: (← pieces? fuel (c == '/') cs)

def inRanges (c : Char) (ranges : List Range) : Bool := ranges.any fun r => r.low ≤ c && c ≤ r.high

def Piece.accepts (c : Char) : Piece → Bool
  | char d => c == d
  | anyChar => true
  | oneOf rs => inRanges c rs
  | noneOf rs => !inRanges c rs
  | anySequence | recursive => false

def anySuffix (test : List Char → Bool) : List Char → Bool
  | [] => test []
  | c :: cs => test (c :: cs) || anySuffix test cs

def accepts : List Piece → List Char → Bool
  | [], name => name.isEmpty
  | .anySequence :: pieces, name => anySuffix (accepts pieces) name
  | .recursive :: pieces, name => anySuffix (accepts pieces) name
  | _ :: _, [] => false
  | piece :: pieces, c :: cs => piece.accepts c && accepts pieces cs

inductive Component
  | literal (name : String)
  | wildcard (pieces : List Piece)
  | recursive
  deriving DecidableEq, Repr

def literal? : List Piece → Option (List Char)
  | [] => some []
  | .char c :: pieces => (literal? pieces).map (c :: ·)
  | _ :: _ => none

def Component.ofPieces (pieces : List Piece) : Component :=
  if pieces = [.recursive] then .recursive
  else
    match literal? pieces with
    | some name => .literal (String.ofList name)
    | none => .wildcard pieces

def Component.accepts (name : String) : Component → Bool
  | literal other => name == other
  | wildcard pieces => Glob.accepts pieces name.toList
  | recursive => true

def read? (cs : List Char) : Option (List Piece) := pieces? (cs.length + 1) true cs

def collapse : List Component → List Component
  | .recursive :: .recursive :: cs => collapse (.recursive :: cs)
  | c :: cs => c :: collapse cs
  | [] => []

end Glob

structure Glob where
  start : String
  components : List Glob.Component
  deriving DecidableEq, Repr

namespace Glob

def terminated (cs : List Char) : List (List Char) :=
  match (Blank.splitOn '/' cs).reverse with
  | [] :: parts => parts.reverse
  | parts => parts.reverse

def parse? (pattern : String) : Option Glob := do
  let cs := pattern.toList
  let _ ← read? cs
  let (start, below) := match cs with
    | '/' :: cs => ("/", cs)
    | cs => (".", cs)
  let parts := if below = [] then [[]] else terminated below
  return ⟨start, collapse ((← parts.mapM read?).map Component.ofPieces)⟩

/-- The paths that a search looks at: one for each literal component before the first wildcard. The last
one is searched in depth if there is a wildcard. -/
def trail (path : String) : List Component → List String × Bool
  | .literal name :: cs =>
    let next := Path.join path name
    let (rest, deep) := trail next cs
    (next :: rest, deep)
  | cs => ([], !cs.isEmpty)

structure Found where
  path : String
  location : Location
  node : Node

def Found.isDirectory (f : Found) : Bool := f.node == .directory

def below (path part : String) : String :=
  if Path.components path = ["."] then part else Path.join path part

def Found.step? (t : Tree) (f : Found) (part : String) : Option Found := do
  let path := below f.path part
  if path = "" then none
  else
    match t.walk f.location f.node [part] with
    | .ok (location, node) => some ⟨path, location, node⟩
    | .error _ => none

def Found.children (t : Tree) (f : Found) : List Found :=
  if f.isDirectory then (t.children f.location).filterMap (f.step? t) else []

def Found.descendants (t : Tree) : Nat → Found → List Found
  | 0, _ => []
  | depth + 1, f => (f.children t).flatMap fun c => c :: descendants t depth c

def Found.name (f : Found) : String := f.location.getLastD ""

def Found.dots (t : Tree) (f : Found) (pieces : List Piece) : List Found :=
  if f.isDirectory ∧ pieces.head? = some (.char '.') then
    ([".", ".."].filter fun name => Glob.accepts pieces name.toList).filterMap fun name =>
      (f.step? t name).map fun g => { g with path := Path.join f.path name }
  else []

def depth (t : Tree) : Nat := (t.entries.map fun entry => entry.1.length).foldl max 0

def search (t : Tree) : List Component → Found → List Found
  | [], f => [f]
  | .literal name :: cs, f => (f.step? t name).toList.flatMap (search t cs)
  | .wildcard pieces :: cs, f =>
    ((f.children t).filter (fun c => Glob.accepts pieces c.name.toList) ++ f.dots t pieces).flatMap
      (search t cs)
  | [.recursive], f => (f.descendants t (depth t)).filter Found.isDirectory
  | .recursive :: c :: cs, f =>
    ((f.descendants t (depth t)).filter fun d => c.accepts d.name).flatMap (search t cs)

def paths (t : Tree) (pattern : String) : Option (List String) := do
  let glob ← parse? pattern
  let found := match t.locate glob.start with
    | .ok (location, node) => search t glob.components ⟨glob.start, location, node⟩
    | .error _ => []
  let found := if pattern.toList.getLast? = some '/' then found.filter Found.isDirectory else found
  return found.map Found.path

end Glob
end TextBoundary.Host
