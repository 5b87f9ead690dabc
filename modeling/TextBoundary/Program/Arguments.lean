import TextBoundary.Program.Switch

namespace TextBoundary.Program

structure Arguments where
  options : List (Switch × String)
  operands : List String
  deriving DecidableEq, Repr, Inhabited

namespace Arguments

def add (a : Arguments) (more : List (Switch × String)) : Arguments :=
  { a with options := a.options ++ more }

def values (a : Arguments) (s : Switch) : List String :=
  (a.options.filter (·.1 == s)).map Prod.snd

def value? (a : Arguments) (s : Switch) : Option String := (a.values s).getLast?

def isGiven (a : Arguments) (s : Switch) : Bool := (a.value? s).isSome

def byLetter? (known : List Switch) (letter : Char) : Option Switch :=
  known.find? (·.letter? == some letter)

def byName? (known : List Switch) (name : String) : Option Switch := known.find? (·.name == name)

structure Word where
  options : List (Switch × String)
  pending : Option Switch
  deriving DecidableEq, Repr

/-- A word of letters after a hyphen; what follows a letter that takes a value is the value. -/
def letters? (known : List Switch) : List Char → Option Word
  | [] => some ⟨[], none⟩
  | c :: cs => do
    let s ← byLetter? known c
    match s.operand, cs with
    | .nothing, cs =>
      let word ← letters? known cs
      return { word with options := (s, "") :: word.options }
    | _, [] => return ⟨[], some s⟩
    | _, '=' :: value => return ⟨[(s, String.ofList value)], none⟩
    | _, value => return ⟨[(s, String.ofList value)], none⟩

def long? (known : List Switch) (cs : List Char) : Option Word := do
  let s ← byName? known (String.ofList (cs.takeWhile (· != '=')))
  match s.operand, cs.dropWhile (· != '=') with
  | .nothing, [] => return ⟨[(s, "")], none⟩
  | .nothing, _ => none
  | _, [] => return ⟨[], some s⟩
  | _, _ :: value => return ⟨[(s, String.ofList value)], none⟩

def isHyphenated (word : String) : Bool :=
  match word.toList with
  | '-' :: _ :: _ => true
  | _ => false

def word? (known : List Switch) (word : String) : Option Word :=
  match word.toList with
  | '-' :: '-' :: cs => long? known cs
  | '-' :: cs => letters? known cs
  | _ => none

/-- Reads words up to the end or, where asked, to the first operand. After two hyphens all words are
operands. -/
def scan (known : List Switch) (untilOperand : Bool) :
    List String → Arguments → Option (Arguments × List String)
  | [], a => some (a, [])
  | word :: words, a =>
    if word = "--" then
      if untilOperand then none else some ({ a with operands := a.operands ++ words }, [])
    else if isHyphenated word then
      match word? known word, words with
      | none, _ => none
      | some ⟨options, none⟩, words => scan known untilOperand words (a.add options)
      | some ⟨_, some _⟩, [] => none
      | some ⟨options, some s⟩, value :: words =>
        if isHyphenated value ∧ s.operand ≠ .anyValue then none
        else scan known untilOperand words (a.add (options ++ [(s, value)]))
    else if untilOperand then some (a, word :: words)
    else scan known untilOperand words { a with operands := a.operands ++ [word] }

def isSingle (a : Arguments) : Bool :=
  a.options.all fun (s, _) => s.repeats || (a.values s).length == 1

end Arguments
end TextBoundary.Program
