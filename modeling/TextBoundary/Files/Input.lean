import TextBoundary.Files.Tree

namespace TextBoundary.Files

inductive InputError
  | notFound (path : String)
  | invalidPattern (pattern : String)
  | unreadable (path : String) (fault : Fault)
  | noInput (command : String)
  deriving DecidableEq, Repr

def InputError.message : InputError → String
  | notFound path => "File not found: " ++ path
  | invalidPattern pattern => "Invalid file pattern: " ++ pattern
  | unreadable path fault => "Failed to read file: " ++ path ++ ": " ++ fault.message
  | noInput command => command ++ ": give text arguments or at least one --input file"

def readBytes (t : Tree) (path : String) : Except InputError (List UInt8) :=
  if t.exists? path then (t.readBytes path).mapError (.unreadable path) else .error (.notFound path)

def readText (t : Tree) (path : String) : Except InputError String :=
  if t.exists? path then (t.readText path).mapError (.unreadable path) else .error (.notFound path)

def merge : List String → List String → List String
  | found, [] => found
  | found, path :: paths =>
    if found.any (Path.same path) then merge found paths else merge (found ++ [path]) paths

/-- The files that patterns match, in the order of the patterns and sorted for each of them. Every
pattern has to match a file. -/
def resolveFrom (glob : String → Option (List String)) (isFile : String → Bool) :
    List String → List String → Except InputError (List String)
  | found, [] => .ok found
  | found, pattern :: patterns =>
    match glob pattern with
    | none => .error (.invalidPattern pattern)
    | some paths =>
      match paths.filter isFile with
      | [] => .error (.notFound pattern)
      | files => resolveFrom glob isFile (merge found (files.mergeSort Path.le)) patterns

def resolve (glob : String → Option (List String)) (t : Tree) (patterns : List String) :
    Except InputError (List String) :=
  resolveFrom glob t.isFile [] patterns

def gather (glob : String → Option (List String)) (t : Tree) (command : String)
    (patterns arguments : List String) : Except InputError String := do
  if patterns = [] ∧ arguments = [] then throw (.noInput command)
  let texts ← (← resolve glob t patterns).mapM (readText t)
  let own := if arguments = [] then [] else [" ".intercalate arguments]
  return " ".intercalate (texts ++ own)

end TextBoundary.Files
