import TextBoundary.Number.Digits
import TextBoundary.Tokenizer.Error

namespace TextBoundary.Tokenizer

inductive Reason
  | document
  | query
  | queryPrefix
  | aux
  deriving DecidableEq, Repr, Inhabited

namespace Reason

def all : List Reason := [document, query, queryPrefix, aux]

/-- A query has bit 0, one by its first letters bit 1 too; a document has bit 2, a helper bit 3. -/
def flags : Reason → Int
  | document => 4
  | query => 1
  | queryPrefix => 3
  | aux => 8

def isQuery : Reason → Bool
  | query | queryPrefix => true
  | _ => false

def name : Reason → String
  | document => "document"
  | query => "query"
  | queryPrefix => "query_prefix"
  | aux => "aux"

def ofFlags (flags : Int) : Except TokenizerError Reason :=
  match all.find? (·.flags == flags) with
  | some reason => .ok reason
  | none => .error (.invalidReason flags)

def ofName? (name : String) : Option Reason :=
  if name = "prefix" then some queryPrefix else all.find? (·.name == name)

def parse (text : String) : Except TokenizerError Reason :=
  let normal := text.toList.map fun c => if c = '-' then '_' else c.toLower
  match ofName? (String.ofList normal) with
  | some reason => .ok reason
  | none =>
    match Number.readInt? 10 (1 <<< 31) text.toList with
    | some flags => ofFlags flags
    | none => .error (.invalidArgument (.unknownReason text))

end Reason
end TextBoundary.Tokenizer
