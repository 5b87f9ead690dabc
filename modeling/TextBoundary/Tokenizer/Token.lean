import TextBoundary.Tokenizer.Error

namespace TextBoundary.Tokenizer

def colocatedFlag : Int := 1

def maxLength : Nat := 1 <<< 31 - 1

structure Report where
  flags : Int
  text : String
  start : Nat
  stop : Nat
  deriving DecidableEq, Repr, Inhabited

/-- Takes reports one by one; its state stays when it refuses one. -/
abbrev Sink (σ : Type) := Report → ExceptT TokenizerError (StateM σ) Unit

structure TokenSpan where
  start : Nat
  stop : Nat
  deriving DecidableEq, Repr, Inhabited

structure Token where
  text : String
  span : Option TokenSpan
  colocated : List String
  deriving DecidableEq, Repr, Inhabited

def Token.texts (t : Token) : List String := t.text :: t.colocated

structure Options where
  includeOffsets : Bool
  includeColocated : Bool
  deriving DecidableEq, Repr, Inhabited

def Options.default : Options := ⟨true, true⟩

structure Collector where
  length : Nat
  options : Options
  newest : List Token
  deriving DecidableEq, Repr

namespace Collector

def empty (length : Nat) (options : Options) : Collector := ⟨length, options, []⟩

def tokens (c : Collector) : List Token := c.newest.reverse

/-- Checks the flags, then the span, then that a colocated text has a token to go with. -/
def add (c : Collector) (r : Report) : Except TokenizerError Collector :=
  if r.flags ≠ 0 ∧ r.flags ≠ colocatedFlag then .error (.invalidFlags r.flags)
  else if r.stop < r.start ∨ c.length < r.stop then
    .error (.invalidSpan r.start r.stop c.length)
  else if r.flags = colocatedFlag then
    match c.newest with
    | [] => .error .colocatedWithoutToken
    | last :: earlier =>
      if c.options.includeColocated then
        .ok { c with newest := { last with colocated := last.colocated ++ [r.text] } :: earlier }
      else .ok c
  else
    let span := if c.options.includeOffsets then some ⟨r.start, r.stop⟩ else none
    .ok { c with newest := ⟨r.text, span, []⟩ :: c.newest }

def sink : Sink Collector := fun r => do
  match (← get).add r with
  | .ok c => set c
  | .error e => throw e

end Collector

def checkLength (length : Nat) : Except TokenizerError Unit :=
  if maxLength < length then .error (.bufferTooLarge length) else .ok ()

end TextBoundary.Tokenizer
