import TextBoundary.Files.Path
import TextBoundary.Utf8

namespace TextBoundary.Files

inductive Node
  | file (bytes : List UInt8)
  | directory
  deriving DecidableEq, Repr, Inhabited

/-- The names that lead to a place from the working directory, or from the root if the first is a
slash. -/
abbrev Location := List String

structure Tree where
  entries : List (Location × Node)
  deriving Inhabited, Repr

inductive Fault
  | notFound
  | notDirectory
  | isDirectory
  | notUtf8
  | nameTooLong
  | nameWithNul
  deriving DecidableEq, Repr

def Fault.message : Fault → String
  | notFound => "No such file or directory (os error 2)"
  | notDirectory => "Not a directory (os error 20)"
  | isDirectory => "Is a directory (os error 21)"
  | notUtf8 => "stream did not contain valid UTF-8"
  | nameTooLong => "File name too long (os error 36)"
  | nameWithNul => "file name contained an unexpected NUL byte"

def maxName : Nat := 255

def pathLimit : Nat := 4096

namespace Location

def parent (location : Location) : Location :=
  if location = ["/"] then location
  else if location.all (· == "..") then location ++ [".."]
  else location.dropLast

def ofPath (path : String) : Location :=
  (Path.parts path).foldl (fun location part =>
    if part = "" ∨ part = "." then location
    else if part = ".." then parent location
    else location ++ [part]) (if Path.isAbsolute path then ["/"] else [])

def isFixed (location : Location) : Bool := location == ["/"] || location.all (· == "..")

end Location

namespace Tree

def node? (t : Tree) (location : Location) : Option Node :=
  if Location.isFixed location then some .directory
  else
    match t.entries.find? (·.1 == location) with
    | some (_, node) => some node
    | none => if t.entries.any fun entry => location.isPrefixOf entry.1 then some .directory else none

def children (t : Tree) (location : Location) : List String :=
  let names := t.entries.filterMap fun entry =>
    if location.isPrefixOf entry.1 then entry.1[location.length]? else none
  (names.filter fun name => name ≠ "/" ∧ name ≠ "..").eraseDups

def walk (t : Tree) : Location → Node → List String → Except Fault (Location × Node)
  | location, node, [] => .ok (location, node)
  | _, .file _, _ :: _ => .error .notDirectory
  | location, .directory, part :: parts =>
    if part = "" ∨ part = "." then t.walk location .directory parts
    else if part = ".." then t.walk (Location.parent location) .directory parts
    else if maxName < part.utf8ByteSize then .error .nameTooLong
    else
      match t.node? (location ++ [part]) with
      | none => .error .notFound
      | some node => t.walk (location ++ [part]) node parts

def locate (t : Tree) (path : String) : Except Fault (Location × Node) :=
  if path.toList.contains '\x00' then .error .nameWithNul
  else if path = "" then .error .notFound
  else if pathLimit ≤ path.utf8ByteSize then .error .nameTooLong
  else t.walk (if Path.isAbsolute path then ["/"] else []) .directory (Path.parts path)

def exists? (t : Tree) (path : String) : Bool := (t.locate path).toOption.isSome

def isFile (t : Tree) (path : String) : Bool :=
  match t.locate path with
  | .ok (_, .file _) => true
  | _ => false

def isDirectory (t : Tree) (path : String) : Bool :=
  match t.locate path with
  | .ok (_, .directory) => true
  | _ => false

def readBytes (t : Tree) (path : String) : Except Fault (List UInt8) :=
  match t.locate path with
  | .ok (_, .file bytes) => .ok bytes
  | .ok (_, .directory) => .error .isDirectory
  | .error fault => .error fault

def readText (t : Tree) (path : String) : Except Fault String := do
  match Utf8.decode (← t.readBytes path) with
  | .ok text => return text
  | .error _ => throw .notUtf8

end Tree
end TextBoundary.Files
