import TextBoundary.Casefold
import TextBoundary.Tokenizer.Registry

namespace TextBoundary.Tokenizer

namespace Words

def name : String := "unicode_words"

def filterOf : WordFilter → List String → Except TokenizerError WordFilter
  | f, [] => .ok f
  | _, "categories" :: list :: args =>
    match WordFilter.parse list with
    | .error e => .error (.invalidArgument (.category e))
    | .ok f =>
      if f = .none then .error (.invalidArgument .noCategory) else filterOf f args
  | _, arg :: _ =>
    if arg = "categories" then .error (.invalidArgument .missingCategories)
    else .error (.invalidArgument (.unknown arg))

def options (args : List String) : Except TokenizerError WordFilter := filterOf .default args

def factory : Factory := fun args =>
  match options args with
  | .ok f => .ready (.words f)
  | .error e => .refuse e

end Words

namespace Fold

def name : String := "casefold"

def wrapping (colocate : Bool) : List String → Creation
  | [] => .load Words.name [] .refuse (.wrap (.casefold colocate))
  | inner :: args => .load inner args .refuse (.wrap (.casefold colocate))

def factory : Factory
  | "colocate" :: args => wrapping true args
  | args => wrapping false args

end Fold

def Registry.registerBuiltins (r : Registry) : Registry :=
  (r.register Words.name Words.factory).register Fold.name Fold.factory

/-- The sink through which a wrapper sees the reports of the tokenizer it wraps. With colocated forms
the folded text follows the report where it differs. -/
def Wrapper.sink {σ : Type} : Wrapper → Sink σ → Sink σ
  | .delegate, sink => sink
  | .casefold false, sink => fun r => sink { r with text := Casefold.casefold r.text }
  | .casefold true, sink => fun r => do
    sink r
    let folded := Casefold.casefold r.text
    if folded ≠ r.text then sink { r with flags := colocatedFlag, text := folded }

end TextBoundary.Tokenizer
