import TextBoundary.Blank
import TextBoundary.GeneralCategory
import TextBoundary.Json
import TextBoundary.TextError

namespace TextBoundary

structure WordFilter where
  letter : Bool
  number : Bool
  emoji : Bool
  regionalIndicator : Bool
  deriving DecidableEq, Repr, Inhabited

namespace WordFilter

def none : WordFilter := ⟨false, false, false, false⟩

def default : WordFilter := ⟨true, true, false, false⟩

def union (a b : WordFilter) : WordFilter :=
  ⟨a.letter || b.letter, a.number || b.number, a.emoji || b.emoji,
    a.regionalIndicator || b.regionalIndicator⟩

def mask (f : WordFilter) : Mask :=
  (if f.letter then GeneralCategory.letter else .empty)
    ||| (if f.number then GeneralCategory.number else .empty)
    ||| (if f.emoji then GeneralCategory.extendedPictographic else .empty)
    ||| (if f.regionalIndicator then GeneralCategory.regionalIndicator else .empty)

def select? (f : WordFilter) (name : String) : Option WordFilter :=
  if name = "letter" then some { f with letter := true }
  else if name = "number" then some { f with number := true }
  else if name = "emoji" then some { f with emoji := true }
  else if name = "regional_indicator" then some { f with regionalIndicator := true }
  else Option.none

def selectAll : WordFilter → List (List Char) → Except TextError WordFilter
  | f, [] => .ok f
  | f, name :: names =>
    let name := String.ofList (Blank.trim name)
    if name = "" then selectAll f names
    else
      match f.select? name with
      | some f => selectAll f names
      | Option.none => .error (.unknownWordCategory name)

/-- Reads names separated by commas; blanks around a name and empty names do not count. -/
def parse (list : String) : Except TextError WordFilter :=
  selectAll none (Blank.splitOn ',' list.toList)

def selected (f : WordFilter) : List String :=
  (if f.letter then ["letter"] else []) ++ (if f.number then ["number"] else [])
    ++ (if f.emoji then ["emoji"] else [])
    ++ (if f.regionalIndicator then ["regional_indicator"] else [])

def render (f : WordFilter) : String := ",".intercalate f.selected

def accepts (f : WordFilter) (chars : List Char) : Bool :=
  chars.any fun c => (GeneralCategory.of c.toNat).meets f.mask

def toJson (f : WordFilter) : Json := .object [
  ("letter", .bool f.letter), ("number", .bool f.number), ("emoji", .bool f.emoji),
  ("regional_indicator", .bool f.regionalIndicator)]

def flag? (value : Json) (name : String) (missing : Bool) : Option Bool :=
  match value.field? name with
  | Option.none => some missing
  | some (.bool b) => some b
  | some _ => Option.none

/-- Missing fields are those of the default filter; unknown ones do not count. -/
def ofJson? (value : Json) : Option WordFilter := do
  return {
    letter := ← flag? value "letter" default.letter
    number := ← flag? value "number" default.number
    emoji := ← flag? value "emoji" default.emoji
    regionalIndicator := ← flag? value "regional_indicator" default.regionalIndicator }

end WordFilter
end TextBoundary
