import TextBoundary.Benchmark
import TextBoundary.Program.Outcome
import TextBoundary.Program.Request
import TextBoundary.Tokenizer.Run

namespace TextBoundary.Program

/-- What a run gets from outside: the files, the paths that a pattern matches, the orders that follow from
seeds, and the time that the segments of a kind take. -/
structure Environment where
  files : Files.Tree
  glob : String → Option (List String)
  shuffle : Nat → Benchmark.Shuffle
  seconds : Kind → Number.Binary64

namespace ShowOptions

def filter (o : ShowOptions) (c : Configuration) : Except TextError (Option WordFilter) :=
  match o.kind with
  | .word => do return some (← WordFilter.parse (o.categories.getD c.wordCategories))
  | _ => .ok none

def style (o : ShowOptions) (s : Listing.Style) : Listing.Style :=
  { s with width := (o.width.map (max 1)).getD s.width, compact := s.compact || o.compact }

def records (o : ShowOptions) (e : Environment) (c : Configuration) :
    Except Failure (List Listing.Record) := do
  let text ← (Files.gather e.glob e.files Action.show.name o.inputs o.texts).mapError .input
  let filter ← (o.filter c).mapError .text
  let spans ← (Text.segments o.kind ⟨.codePoints, text.toList⟩ 0 filter).mapError .text
  return (← (Listing.segments o.kind 0 0 spans).mapError .text).map .segment

def run (o : ShowOptions) (e : Environment) (c : Context) : Outcome :=
  c.listAll (o.style c.style) (o.records e c.configuration)

end ShowOptions

namespace BreakTestOptions

def summary (o : BreakTestOptions) (t : Files.Tree) : Except Failure BreakTest.Summary := do
  let content ← (Files.readText t o.file).mapError .input
  let tests ← (BreakTest.parse content).mapError .malformedTest
  (BreakTest.summarize o.kind o.failFast tests).mapError .text

def run (o : BreakTestOptions) (t : Files.Tree) (c : Context) : Outcome :=
  match o.summary t with
  | .error failure => .failed "" failure
  | .ok summary =>
    let listed := Listing.render c.format c.style [.breakTest summary]
    if summary.failed = 0 then ⟨0, listed, ""⟩ else ⟨testFailureCode, "", listed⟩

end BreakTestOptions

namespace CodePointListing

def records (index : Nat) : List Nat → List Listing.Record × Except Failure Unit
  | [] => ([], .ok ())
  | codePoint :: rest =>
    match CodePoint.Details.of index codePoint with
    | .error e => ([], .error (.text e))
    | .ok details =>
      let (records, ended) := records (index + 1) rest
      (.codePoint details :: records, ended)

def run (arguments : List String) (c : Context) : Outcome :=
  let (records, ended) := records 0 (CodePoint.ofArguments arguments)
  c.list c.style records ended

end CodePointListing

namespace TokenizeOptions

open Tokenizer

def listNames (format : Listing.Format) : Outcome :=
  let names := (Registry.registerBuiltins .empty).names
  match format with
  | .text => ⟨0, Listing.Plain.join names, ""⟩
  | .json => ⟨0, (Json.strings names).compact ++ "\n", ""⟩

/-- The arguments of the configuration go with its tokenizer, unless there are others. -/
def argsWith (o : TokenizeOptions) (c : Configuration) : List String :=
  if o.tokenizer.isSome ∨ o.args ≠ [] then o.args else c.tokenizerArgs

def sources (o : TokenizeOptions) (e : Environment) :
    Except Files.InputError (List (String × List UInt8)) := do
  let files ← (← Files.resolve e.glob e.files o.inputs).mapM fun path => do
    return (path, ← Files.readBytes e.files path)
  let own := if o.texts = [] then [] else [("arguments", Utf8.encode (" ".intercalate o.texts))]
  if files ++ own = [] then throw (.noInput Action.tokenize.name)
  return files ++ own

def records (options : Options) (reason : Reason) :
    Handle → Registry → List (String × List UInt8) → List Listing.Record × Except Failure Unit
  | _, _, [] => ([], .ok ())
  | h, r, (source, bytes) :: rest =>
    let out := h.tokenize r bytes reason options
    match out.result with
    | .error e => ([], .error (.tokenizing source e))
    | .ok tokens =>
      let (records, ended) := records options reason out.handle out.registry rest
      (tokens.map .token ++ records, ended)

def prepare (o : TokenizeOptions) (e : Environment) (c : Configuration) :
    Except Failure (Reason × Handle × Registry × List (String × List UInt8)) := do
  let name := o.tokenizer.getD c.tokenizer
  let args := o.argsWith c
  let reason ← (Reason.parse o.reason).mapError .reason
  let (registry, loaded) := (Registry.registerBuiltins .empty).load name args
  let handle ← loaded.mapError (.creation name args)
  let sources ← (o.sources e).mapError .input
  return (reason, handle, registry, sources)

def run (o : TokenizeOptions) (e : Environment) (c : Context) : Outcome :=
  if o.list then listNames c.format
  else
    match o.prepare e c.configuration with
    | .error failure => .failed "" failure
    | .ok (reason, handle, registry, sources) =>
      let (records, ended) := records ⟨o.offsets, o.colocated⟩ reason handle registry sources
      c.list c.style records ended

end TokenizeOptions

namespace BenchmarkOptions

def target (o : BenchmarkOptions) : Nat := max 1 (o.size.scaled (UInt64.size - 1) 1000000)

def workload (o : BenchmarkOptions) (e : Environment) (c : Configuration) :
    Except Failure (List Char × WordFilter) := do
  if !o.size.isPositive then throw .sizeNotPositive
  let base ← (Files.readText e.files o.file).mapError .input
  if base = "" then throw (.emptyFile o.file)
  let filter ← (WordFilter.parse c.wordCategories).mapError .text
  return (Benchmark.expand (e.shuffle o.seed) base.toList o.target, filter)

def records (o : BenchmarkOptions) (e : Environment) (c : Configuration) :
    Except Failure (List Listing.Record) := do
  let (text, filter) ← o.workload e c
  let measurements ← (Benchmark.kinds.mapM (Benchmark.measure e.seconds text filter)).mapError .text
  return .note ("Unicode rules version " ++ CodePoint.unicodeVersion) :: measurements.map .measurement

def run (o : BenchmarkOptions) (e : Environment) (c : Context) : Outcome :=
  c.listAll c.style (o.records e c.configuration)

end BenchmarkOptions

def Command.run (command : Command) (e : Environment) (c : Context) : Outcome :=
  match command with
  | .show o => o.run e c
  | .breakTest o => o.run e.files c
  | .codePoint arguments => CodePointListing.run arguments c
  | .tokenize o => o.run e c
  | .benchmark o => o.run e c

namespace Request

def context (r : Request) (t : Files.Tree) : Except Failure Context := do
  let configuration ← match r.configuration with
    | none => .ok Configuration.default
    | some path => loadConfiguration t path
  return ⟨configuration, r.format.getD configuration.format⟩

def run (r : Request) (e : Environment) : Outcome :=
  match r.context e.files with
  | .error failure => .failed "" failure
  | .ok c => r.command.run e c

end Request
end TextBoundary.Program
