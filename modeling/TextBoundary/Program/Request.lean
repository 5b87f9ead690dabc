import TextBoundary.Listing.RecordJson
import TextBoundary.Number.Digits
import TextBoundary.Number.Literal
import TextBoundary.Program.Arguments
import TextBoundary.Tokenizer.Reason

namespace TextBoundary.Program

structure ShowOptions where
  kind : Kind
  texts : List String
  inputs : List String
  categories : Option String
  width : Option Nat
  compact : Bool
  deriving DecidableEq, Repr

structure BreakTestOptions where
  kind : Kind
  file : String
  failFast : Bool
  deriving DecidableEq, Repr

structure TokenizeOptions where
  texts : List String
  inputs : List String
  tokenizer : Option String
  args : List String
  reason : String
  offsets : Bool
  colocated : Bool
  list : Bool
  deriving DecidableEq, Repr

structure BenchmarkOptions where
  file : String
  size : Number.Literal
  seed : Nat
  deriving DecidableEq, Repr

inductive Command
  | show (options : ShowOptions)
  | breakTest (options : BreakTestOptions)
  | codePoint (arguments : List String)
  | tokenize (options : TokenizeOptions)
  | benchmark (options : BenchmarkOptions)
  deriving DecidableEq, Repr

structure Request where
  configuration : Option String
  format : Option Listing.Format
  command : Command
  deriving DecidableEq, Repr

namespace Request

def defaultReason : String := Tokenizer.Reason.document.name

def defaultSize : Number.Literal := .finite ((Number.Binary64.ofRatio false 50 1).getD default)

def usage : String :=
  "usage: textboundary [-c FILE] [-f text|json] [-q] [-v] COMMAND\n" ++
  "  show KIND [TEXT...] [-i PATTERN] [--categories LIST] [--width N] [--compact]\n" ++
  "  breaktest KIND FILE [--fail-fast]\n" ++
  "  codepoint TEXT...\n" ++
  "  tokenize [TEXT...] [-i PATTERN] [-t NAME] [-a ARG] [-r REASON] [--no-offsets]\n" ++
  "    [--no-colocated] [--list]\n" ++
  "  benchmark FILE [-s MILLIONS] [--seed N]\n"

def usageCode : UInt32 := 2

def number? (text : String) : Option Nat := Number.readNat? 10 UInt64.size text.toList

def path? (text : String) : Option String := if text = "" then none else some text

def read? {α : Type} (read : String → Option α) (a : Arguments) (s : Switch) : Option (Option α) :=
  match a.value? s with
  | none => some none
  | some value => (read value).map some

def showOptions? (a : Arguments) : Option Command := do
  let kind :: texts := a.operands | none
  return .show {
    kind := ← Kind.ofName? kind
    texts
    inputs := a.values .input
    categories := a.value? .categories
    width := ← read? number? a .width
    compact := a.isGiven .compact }

def breakTestOptions? (a : Arguments) : Option Command := do
  let [kind, file] := a.operands | none
  return .breakTest ⟨← Kind.ofName? kind, ← path? file, a.isGiven .failFast⟩

def codePoints? (a : Arguments) : Option Command :=
  if a.operands = [] then none else some (.codePoint a.operands)

def tokenizeOptions (a : Arguments) : Command := .tokenize {
  texts := a.operands
  inputs := a.values .input
  tokenizer := a.value? .tokenizer
  args := a.values .argument
  reason := (a.value? .reason).getD defaultReason
  offsets := !a.isGiven .noOffsets
  colocated := !a.isGiven .noColocated
  list := a.isGiven .list }

def benchmarkOptions? (a : Arguments) : Option Command := do
  let [file] := a.operands | none
  return .benchmark {
    file := ← path? file
    size := (← read? Number.Literal.parse? a .size).getD defaultSize
    seed := (← read? number? a .seed).getD 0 }

def command? : Action → Arguments → Option Command
  | .show, a => showOptions? a
  | .breakTest, a => breakTestOptions? a
  | .codePoint, a => codePoints? a
  | .tokenize, a => some (tokenizeOptions a)
  | .benchmark, a => benchmarkOptions? a

/-- Reads a command line: common options, the name of a command, then its options and operands. Of a
common option given on both sides the later one counts. -/
def parse? (words : List String) : Option Request := do
  let (outer, action :: words) ← Arguments.scan Switch.common true words ⟨[], []⟩ | none
  let action ← Action.ofName? action
  let (inner, _) ← Arguments.scan (Switch.common ++ action.switches) false words ⟨[], []⟩
  if !(outer.isSingle && inner.isSingle) then none
  let outerPath ← read? path? outer .configuration
  let innerPath ← read? path? inner .configuration
  let outerFormat ← read? Listing.Format.ofName? outer .format
  let innerFormat ← read? Listing.Format.ofName? inner .format
  return ⟨innerPath <|> outerPath, innerFormat <|> outerFormat, ← command? action inner⟩

end Request
end TextBoundary.Program
