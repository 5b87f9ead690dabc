import TextBoundary.Blank

namespace TextBoundary.Files

namespace Path

def parts (path : String) : List String := (Blank.splitOn '/' path.toList).map String.ofList

def isAbsolute (path : String) : Bool := path.toList.head? == some '/'

/-- The parts of a path that mean something: the root, a dot that begins the path, and all other parts
that are neither empty nor a dot. -/
def components (path : String) : List String :=
  let named := (parts path).filter fun part => part ≠ "" ∧ part ≠ "."
  if isAbsolute path then "/" :: named
  else if (parts path).head? = some "." then "." :: named
  else named

def same (a b : String) : Bool := components a == components b

def join (path part : String) : String :=
  if path = "" ∨ path.toList.getLast? = some '/' then path ++ part else path ++ "/" ++ part

def rank (component : String) : Nat :=
  if component = "/" then 0 else if component = "." then 1 else if component = ".." then 2 else 3

def componentsLe : List String → List String → Bool
  | [], _ => true
  | _ :: _, [] => false
  | a :: as, b :: bs =>
    if a = b then componentsLe as bs
    else rank a < rank b || (rank a == rank b && a < b)

def le (a b : String) : Bool := componentsLe (components a) (components b)

end Path
end TextBoundary.Files
