import TextBoundary.Toml.Outline
import TextBoundary.Toml.Scalar

/-! Documents read from their outlines. Keys and values are read in the order in which they are
written, so that the first fault in that order counts; a table in double brackets joins the others when
all of it has been read. -/

namespace TextBoundary.Toml

def orMalformed {α : Type} : Option α → Except Fault α
  | some a => .ok a
  | none => .error .malformed

def names (key : List Lexeme) : Except Fault (List String) := do
  let names ← orMalformed (key.mapM name?)
  if maxDepth < names.length then throw .deepKey
  return names

mutual

def Written.read : Written → Except Fault Toml
  | .scalar l => orMalformed (scalar? l)
  | .array items => do return array (← readItems items)
  | .table entries => do return table .inline (← readEntries entries [])

def readItems : List Written → Except Fault (List Toml)
  | [] => .ok []
  | item :: items => do
    let value ← item.read
    return value :: (← readItems items)

def readEntries : List (List Lexeme × Written) → Fields → Except Fault Fields
  | [], fields => .ok fields
  | (key, written) :: entries, fields => do
    let key ← names key
    let value ← written.read
    readEntries entries (← put value key fields)

end

def Section.addTo (root : Fields) (s : Section) : Except Fault Fields := do
  let key ← names s.header.key
  let name := key.getLastD ""
  if s.header.double then
    change (addItem (← readEntries s.entries []) name) key.dropLast root
  else change (openTable (readEntries s.entries) name) key.dropLast root

def Outline.read (outline : Outline) : Except Fault Fields := do
  outline.sections.foldlM Section.addTo (← readEntries outline.top [])

def parse (text : String) : Except Fault Fields := do
  let cs := match text.toList with
    | '\ufeff' :: cs => cs
    | cs => cs
  let outline ← orMalformed ((Token.list? cs).bind Outline.ofTokens?)
  outline.read

end TextBoundary.Toml
