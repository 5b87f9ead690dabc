import TextBoundary.Benchmark
import TextBoundary.BreakTest
import TextBoundary.Tokenizer.Token

namespace TextBoundary.Listing

structure Segment where
  kind : Kind
  index : Nat
  offset : Nat
  start : Nat
  stop : Nat
  text : String
  codePoints : List CodePoint.Details
  deriving DecidableEq, Repr, Inhabited

inductive Record
  | note (text : String)
  | segment (segment : Segment)
  | codePoint (details : CodePoint.Details)
  | token (token : Tokenizer.Token)
  | breakTest (summary : BreakTest.Summary)
  | measurement (measurement : Benchmark.Measurement)
  deriving DecidableEq, Repr, Inhabited

def segments (kind : Kind) (index offset : Nat) : List Span → Except TextError (List Segment)
  | [] => .ok []
  | s :: spans => do
    let codePoints ← CodePoint.Details.ofChars s.start s.chars
    let rest ← segments kind (index + 1) s.stop spans
    return ⟨kind, index, offset, s.start, s.stop, String.ofList s.chars, codePoints⟩ :: rest

structure Style where
  width : Nat
  compact : Bool
  pretty : Bool
  deriving DecidableEq, Repr, Inhabited

def extend (line item : List Char) : List Char := if line = [] then item else line ++ ' ' :: item

/-- Ends a line where the next item would not fit; a line that is empty takes any item. -/
def fill (width : Nat) : List Char → List (List Char) → List (List Char)
  | line, [] => if line = [] then [] else [line]
  | line, item :: items =>
    if line ≠ [] ∧ width < line.length + 1 + item.length then line :: fill width item items
    else fill width (extend line item) items

def wrap (items : List String) (width : Nat) : List String :=
  (fill width [] (items.map String.toList)).map String.ofList

namespace Plain

def alternatives (names : List String) : String := " | ".intercalate names

def summary (style : Style) (kind : Kind) (number : Option Nat) (d : CodePoint.Details) : String :=
  if style.compact then CodePoint.compactHex d.codePoint
  else
    let counter := (number.map fun n => "#" ++ toString n ++ ":").getD ""
    "\x7b" ++ counter ++ CodePoint.hex d.codePoint ++ " (" ++ d.category ++ " " ++ d.description
      ++ ") : " ++ alternatives (d.breakCategories kind) ++ "\x7d"

def segment (style : Style) (s : Segment) : List String :=
  s!"#{s.index} offset {s.offset} span {s.start}-{s.stop} codepoints {s.stop - s.start} value: {s.text}"
    :: wrap (s.codePoints.map (summary style s.kind none)) style.width

def codePoint (d : CodePoint.Details) : List String :=
  let shown := (d.character.map String.singleton).getD ""
  [s!"#{d.index} " ++ CodePoint.hex d.codePoint ++ " - " ++ shown,
    "category " ++ d.category ++ ": " ++ d.description]
    ++ (d.folded.map ("casefold: " ++ ·)).toList
    ++ ["TR29 grapheme: " ++ alternatives d.grapheme ++ "   word: " ++ alternatives d.word
      ++ "   sentence: " ++ alternatives d.sentence, ""]

def token (t : Tokenizer.Token) : List String :=
  let texts := alternatives t.texts
  match t.span with
  | some span => [s!"{span.start}-{span.stop} " ++ texts]
  | none => [texts]

def numbered (style : Style) (kind : Kind) (number : Nat) : List CodePoint.Details → List String
  | [] => []
  | d :: ds => summary style kind (some number) d :: numbered style kind (number + 1) ds

def failure (style : Style) (kind : Kind) (f : BreakTest.Failure) : List String :=
  f.test :: s!"Line {f.line} {f.message}"
    :: wrap (numbered style kind 0 f.codePoints) style.width ++ [""]

def breakTest (style : Style) (s : BreakTest.Summary) : List String :=
  if s.failed = 0 then [s!"{s.passed} passed"]
  else s!"{s.failed} tests failed, {s.passed} passed:" :: s.failures.flatMap (failure style s.kind)

def alignRight (width : Nat) (text : String) : String :=
  String.ofList (List.replicate (width - text.length) ' ') ++ text

def measurement (m : Benchmark.Measurement) : List String :=
  [alignRight 8 m.kind.name ++ " chars per second: " ++ alignRight 12 (toString m.charsPerSecond)
    ++ "    segments: " ++ alignRight 11 (toString m.segments)]

def lines (style : Style) : Record → List String
  | .note text => [text]
  | .segment s => segment style s
  | .codePoint d => codePoint d
  | .token t => token t
  | .breakTest s => breakTest style s
  | .measurement m => measurement m

def join (lines : List String) : String := String.join (lines.map (· ++ "\n"))

def render (style : Style) (records : List Record) : String := join (records.flatMap (lines style))

end Plain
end TextBoundary.Listing
