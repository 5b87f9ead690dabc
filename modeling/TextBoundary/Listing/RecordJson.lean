import TextBoundary.Json
import TextBoundary.Listing.Plain
import TextBoundary.Tokenizer.TokenJson

namespace TextBoundary

def CodePoint.Details.toJson (d : CodePoint.Details) : Json := .object (
  [("index", .nat d.index), ("codepoint", .nat d.codePoint),
    ("hex", .string (CodePoint.hex d.codePoint))]
    ++ (d.character.map fun c => ("character", .string (String.singleton c))).toList
    ++ [("category", .string d.category), ("description", .string d.description),
      ("grapheme", .strings d.grapheme), ("word", .strings d.word), ("sentence", .strings d.sentence),
      ("wide", .bool d.wide)]
    ++ (d.folded.map fun text => ("casefold", .string text)).toList)

namespace BreakTest

def Failure.toJson (f : Failure) : Json := .object [
  ("line", .nat f.line), ("test", .string f.test), ("expected", .nats f.expected),
  ("seen", .nats f.seen), ("message", .string f.message),
  ("codepoints", .array (f.codePoints.map CodePoint.Details.toJson))]

def Summary.toJson (s : Summary) : Json := .object [
  ("kind", .string s.kind.name), ("passed", .nat s.passed), ("failed", .nat s.failed),
  ("failures", .array (s.failures.map Failure.toJson))]

end BreakTest

def Benchmark.Measurement.toJson (m : Benchmark.Measurement) : Json := .object [
  ("kind", .string m.kind.name), ("unicode_version", .string CodePoint.unicodeVersion),
  ("chars", .nat m.chars), ("segments", .nat m.segments), ("seconds", .float m.seconds),
  ("chars_per_second", .nat m.charsPerSecond)]

namespace Listing

def Segment.toJson (s : Segment) : Json := .object [
  ("kind", .string s.kind.name), ("index", .nat s.index), ("offset", .nat s.offset),
  ("start", .nat s.start), ("end", .nat s.stop), ("text", .string s.text),
  ("codepoints", .array (s.codePoints.map CodePoint.Details.toJson))]

def Record.toJson? : Record → Option Json
  | .note _ => none
  | .segment s => some s.toJson
  | .codePoint d => some d.toJson
  | .token t => some t.toJson
  | .breakTest s => some s.toJson
  | .measurement m => some m.toJson

def renderJson (style : Style) (records : List Record) : String :=
  let all := Json.array (records.filterMap Record.toJson?)
  (if style.pretty then all.indented 0 else all.compact) ++ "\n"

inductive Format
  | text
  | json
  deriving DecidableEq, Repr, Inhabited

namespace Format

def name : Format → String
  | text => "text"
  | json => "json"

def ofName? (name : String) : Option Format := [text, json].find? (·.name == name)

end Format

def render (format : Format) (style : Style) (records : List Record) : String :=
  match format with
  | .text => Plain.render style records
  | .json => renderJson style records

end Listing
end TextBoundary
