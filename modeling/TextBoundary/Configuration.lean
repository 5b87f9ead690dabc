import TextBoundary.Json
import TextBoundary.Listing.RecordJson
import TextBoundary.Tokenizer.Builtin
import TextBoundary.Toml.Document

namespace TextBoundary

structure Configuration where
  wordCategories : String
  compactCodePoints : Bool
  format : Listing.Format
  width : Nat
  prettyJson : Bool
  tokenizer : String
  tokenizerArgs : List String
  deriving DecidableEq, Repr, Inhabited

namespace Configuration

def default : Configuration where
  wordCategories := "letter,number"
  compactCodePoints := false
  format := .text
  width := 80
  prettyJson := true
  tokenizer := Tokenizer.Words.name
  tokenizerArgs := []

inductive Flaw
  | unreadable
  | deepKey
  | noWidth
  deriving DecidableEq, Repr

def Flaw.message : Flaw → String
  | unreadable => "Configuration error: TOML parse error"
  | deepKey => "Configuration error: recursion limit\n"
  | noWidth => "Configuration error: output.width must be positive"

inductive Part
  | named (fields : Toml.Fields)
  | ordered (items : List Toml)

def Part.field? : Part → Nat → String → Option Toml
  | named fields, _, name => fields.find? name
  | ordered items, index, _ => items[index]?

def part? (root : Toml.Fields) (name : String) : Option Part :=
  match root.find? name with
  | none | some .moment => some (.named [])
  | some (.table _ fields) => some (.named fields)
  | some (.array items) => some (.ordered items)
  | some (.tables newest) => some (.ordered (newest.reverse.map (.table .header)))
  | some _ => none

def valueOr {α : Type} (missing : α) (read : Toml → Option α) : Option Toml → Option α
  | none => some missing
  | some value => read value

def text? : Toml → Option String
  | .string s => some s
  | _ => none

def boolean? : Toml → Option Bool
  | .boolean b => some b
  | _ => none

def width? : Toml → Option Nat
  | .integer n => if 0 ≤ n ∧ n < UInt64.size then some n.toNat else none
  | _ => none

def texts? : Toml → Option (List String)
  | .array items => items.mapM text?
  | _ => none

def isVoid : Toml → Bool
  | .array [] => true
  | .table _ [] => true
  | _ => false

def format? : Toml → Option Listing.Format
  | .string name => Listing.Format.ofName? name
  | .table _ [(name, content)] => if isVoid content then Listing.Format.ofName? name else none
  | _ => none

def partNames : List String := ["segmentation", "output", "tokenizer"]

/-- Whether every number has a value, apart from those after the fields of a part that is an array,
which nothing looks at. -/
def isReadable (root : Toml.Fields) : Bool :=
  root.all fun (name, value) =>
    match value with
    | .array _ => partNames.contains name || value.isRepresentable
    | _ => value.isRepresentable

def ofFields? (root : Toml.Fields) : Option Configuration := do
  guard (isReadable root)
  let segmentation ← part? root "segmentation"
  let output ← part? root "output"
  let tokenizer ← part? root "tokenizer"
  return {
    wordCategories := ← valueOr default.wordCategories text? (segmentation.field? 0 "word_categories")
    compactCodePoints :=
      ← valueOr default.compactCodePoints boolean? (segmentation.field? 1 "compact_codepoints")
    format := ← valueOr default.format format? (output.field? 0 "format")
    width := ← valueOr default.width width? (output.field? 1 "width")
    prettyJson := ← valueOr default.prettyJson boolean? (output.field? 2 "pretty_json")
    tokenizer := ← valueOr default.tokenizer text? (tokenizer.field? 0 "name")
    tokenizerArgs := ← valueOr default.tokenizerArgs texts? (tokenizer.field? 1 "args") }

def parse (text : String) : Except Flaw Configuration :=
  match Toml.parse text with
  | .error .deepKey => .error .deepKey
  | .error .malformed => .error .unreadable
  | .ok root =>
    match ofFields? root with
    | none => .error .unreadable
    | some c => if c.width = 0 then .error .noWidth else .ok c

def toJson (c : Configuration) : Json := .object [
  ("segmentation", .object [("word_categories", .string c.wordCategories),
    ("compact_codepoints", .bool c.compactCodePoints)]),
  ("output", .object [("format", .string c.format.name), ("width", .nat c.width),
    ("pretty_json", .bool c.prettyJson)]),
  ("tokenizer", .object [("name", .string c.tokenizer), ("args", .strings c.tokenizerArgs)])]

def style (c : Configuration) : Listing.Style := ⟨c.width, c.compactCodePoints, c.prettyJson⟩

end Configuration
end TextBoundary
