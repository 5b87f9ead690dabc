import TextBoundary.BreakTest
import TextBoundary.Configuration
import TextBoundary.Files.Input

namespace TextBoundary.Program

inductive Failure
  | text (error : TextError)
  | reason (error : TokenizerError)
  | creation (name : String) (args : List String) (error : TokenizerError)
  | tokenizing (source : String) (error : TokenizerError)
  | input (error : Files.InputError)
  | malformedTest (malformed : BreakTest.Malformed)
  | missingConfiguration (path : String) (fault : Files.Fault)
  | badConfiguration (path : String) (flaw : Configuration.Flaw)
  | sizeNotPositive
  | emptyFile (path : String)
  deriving DecidableEq, Repr

namespace Failure

def message : Failure → String
  | text e => e.message
  | reason e => e.message
  | creation name args e =>
    "Failed to create tokenizer '" ++ name ++ "' with " ++ Quoted.list args ++ ": " ++ e.message
  | tokenizing source e => "Failed to tokenize " ++ source ++ ": " ++ e.message
  | input e => e.message
  | malformedTest m => m.message
  | missingConfiguration path fault =>
    "Failed to read config file: " ++ path ++ ": " ++ fault.message
  | badConfiguration path flaw => "Failed to load config file: " ++ path ++ ": " ++ flaw.message
  | sizeNotPositive => "--size must be positive"
  | emptyFile path => path ++ " is empty"

end Failure

def loadConfiguration (t : Files.Tree) (path : String) : Except Failure Configuration := do
  let text ← (t.readText path).mapError (.missingConfiguration path)
  (Configuration.parse text).mapError (.badConfiguration path)

structure Outcome where
  code : Nat
  output : String
  errors : String
  deriving DecidableEq, Repr, Inhabited

def failureCode : Nat := 1

def testFailureCode : Nat := 2

def Outcome.failed (output : String) (failure : Failure) : Outcome :=
  ⟨failureCode, output, "Error: " ++ failure.message ++ "\n"⟩

structure Context where
  configuration : Configuration
  format : Listing.Format
  deriving DecidableEq, Repr, Inhabited

namespace Context

def style (c : Context) : Listing.Style := c.configuration.style

/-- Lists records. Plain records are written one by one, so those before a failure stand. -/
def list (c : Context) (style : Listing.Style) (records : List Listing.Record) :
    Except Failure Unit → Outcome
  | .ok () => ⟨0, Listing.render c.format style records, ""⟩
  | .error failure =>
    match c.format with
    | .text => .failed (Listing.Plain.render style records) failure
    | .json => .failed "" failure

def listAll (c : Context) (style : Listing.Style) : Except Failure (List Listing.Record) → Outcome
  | .ok records => c.list style records (.ok ())
  | .error failure => .failed "" failure

end Context

end TextBoundary.Program
