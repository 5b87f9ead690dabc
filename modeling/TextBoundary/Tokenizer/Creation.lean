import TextBoundary.Json
import TextBoundary.Segment.Filter
import TextBoundary.Tokenizer.Reason
import TextBoundary.Tokenizer.Token

namespace TextBoundary.Tokenizer

inductive Wrapper
  | casefold (colocate : Bool)
  | delegate
  deriving DecidableEq, Repr, Inhabited

mutual

/-- The work of a factory on one list of arguments. -/
inductive Creation
  | ready (leaf : Leaf)
  | wrap (wrapper : Wrapper)
  | refuse (error : TokenizerError)
  | load (name : String) (args : List String) (failed : TokenizerError → Creation)
      (next : Creation)
  | register (name : String) (factory : List String → Creation) (next : Creation)
  | unregister (name : String) (next : Bool → Creation)
  | generation (name : String) (next : Option Nat → Creation)
  | names (next : List String → Creation)

inductive Leaf
  | words (filter : WordFilter)
  /-- a function of the calls before, the last of them first, and of the text and the reason of this one -/
  | function (call : List (String × Reason) → String → Reason → Routine)
  | reports (reports : List Report)

/-- The work of one call of a tokenizer function. -/
inductive Routine
  | values (values : List Json)
  | fail (message : String)
  | load (name : String) (args : List String) (next : Option TokenizerError → Routine)
  | register (name : String) (factory : List String → Creation) (next : Routine)
  | unregister (name : String) (next : Bool → Routine)
  | generation (name : String) (next : Option Nat → Routine)
  | names (next : List String → Routine)

end

abbrev Factory := List String → Creation

instance : Inhabited Leaf := ⟨.reports []⟩

instance : Inhabited Creation := ⟨.ready default⟩

end TextBoundary.Tokenizer
