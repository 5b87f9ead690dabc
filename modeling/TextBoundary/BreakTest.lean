import TextBoundary.Break
import TextBoundary.CodePoint.Details

/-! Lines that state the boundaries of a text, and whether a text has them.

A line gives the code points of a text in hexadecimal with a mark before, between and after them, which
says whether there is a boundary; a comment may follow. -/

namespace TextBoundary

structure BreakTest where
  line : Nat
  test : String
  chars : List Char
  breaks : List Nat
  deriving DecidableEq, Repr, Inhabited

namespace BreakTest

def breakMark : List Char := ['÷']

def noBreakMark : List Char := ['×']

inductive Flaw
  | unmarkedEnds
  | notHex (field : String)
  deriving DecidableEq, Repr

def Flaw.message : Flaw → String
  | unmarkedEnds => "must start and end with " ++ String.ofList breakMark
  | notHex field => "'" ++ field ++ "' is not a hex codepoint"

structure Malformed where
  line : Nat
  flaw : Flaw
  deriving DecidableEq, Repr

def Malformed.message (m : Malformed) : String := s!"Line {m.line}: {m.flaw.message}"

def strip (line : List Char) : List Char := Blank.trim (line.takeWhile (· != '#'))

def char? (digits : List Char) : Option Char := (CodePoint.readHex? digits).bind CodePoint.char?

def readFields (position : Nat) : List (List Char) → Except Flaw (List Char × List Nat)
  | [] => .ok ([], [])
  | field :: fields =>
    if field = breakMark then do
      let (chars, breaks) ← readFields position fields
      return (chars, position :: breaks)
    else if field = noBreakMark then readFields position fields
    else
      match char? field with
      | none => .error (.notHex (String.ofList field))
      | some c => do
        let (chars, breaks) ← readFields (position + 1) fields
        return (c :: chars, breaks)

/-- Reads the fields of a line; the first and the last have to be boundaries, and the first one is the
start of the text, which is not listed. -/
def readLine (number : Nat) (test : List Char) : Except Flaw BreakTest :=
  let fields := Blank.fields test
  if fields.head? = some breakMark ∧ fields.getLast? = some breakMark then do
    let (chars, breaks) ← readFields 0 fields.tail
    return ⟨number, String.ofList test, chars, breaks⟩
  else .error .unmarkedEnds

def readLines (number : Nat) : List (List Char) → Except Malformed (List BreakTest)
  | [] => .ok []
  | line :: lines =>
    let test := strip line
    if test = [] then readLines (number + 1) lines
    else
      match readLine number test with
      | .error flaw => .error ⟨number, flaw⟩
      | .ok t => do return t :: (← readLines (number + 1) lines)

def parse (content : String) : Except Malformed (List BreakTest) :=
  readLines 1 (Blank.splitOn '\n' content.toList)

inductive Verdict
  | passed
  | unexpected (seen : List Nat) (found : Nat)
  | missing (seen : List Nat)
  deriving DecidableEq, Repr, Inhabited

def judge (expected found : List Nat) : Verdict :=
  let seen := found.takeWhile expected.contains
  match found.dropWhile expected.contains with
  | next :: _ => .unexpected seen next
  | [] => if seen = expected then .passed else .missing seen

def run (kind : Kind) (t : BreakTest) : Except TextError Verdict := do
  return judge t.breaks (← Text.breaks kind ⟨.codePoints, t.chars⟩ 0)

def showBreaks (positions : List Nat) : String :=
  "[" ++ ", ".intercalate (positions.map toString) ++ "]"

structure Failure where
  line : Nat
  test : String
  expected : List Nat
  seen : List Nat
  message : String
  codePoints : List CodePoint.Details
  deriving DecidableEq, Repr, Inhabited

def failure? (t : BreakTest) (verdict : Verdict) : Except TextError (Option Failure) :=
  match verdict with
  | .passed => .ok none
  | .unexpected seen found => do
    let message := s!"got unexpected break at {found} - expected are {showBreaks t.breaks}"
    return some ⟨t.line, t.test, t.breaks, seen, message, ← CodePoint.Details.ofChars 0 t.chars⟩
  | .missing seen => do
    let message := s!"got breaks at {showBreaks seen} expected at {showBreaks t.breaks}"
    return some ⟨t.line, t.test, t.breaks, seen, message, ← CodePoint.Details.ofChars 0 t.chars⟩

structure Summary where
  kind : Kind
  passed : Nat
  failed : Nat
  failures : List Failure
  deriving DecidableEq, Repr, Inhabited

def summarize (kind : Kind) (failFast : Bool) : List BreakTest → Except TextError Summary
  | [] => .ok ⟨kind, 0, 0, []⟩
  | t :: ts => do
    match ← failure? t (← run kind t) with
    | none =>
      let rest ← summarize kind failFast ts
      return { rest with passed := rest.passed + 1 }
    | some failure =>
      if failFast then return ⟨kind, 0, 1, [failure]⟩
      else
        let rest ← summarize kind failFast ts
        return { rest with failed := rest.failed + 1, failures := failure :: rest.failures }

end BreakTest
end TextBoundary
