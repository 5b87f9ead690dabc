import TextBoundary.Json
import TextBoundary.Tokenizer.Token

/-! Tokens and options as JSON. A record is read from an object, where unknown fields do not count, or
from an array of its fields in order, where the last ones may be missing if they need not be given. -/

namespace TextBoundary.Tokenizer

def nat? : Json → Option Nat
  | .int n => if 0 ≤ n then some n.toNat else none
  | _ => none

def string? : Json → Option String
  | .string s => some s
  | _ => none

def bool? : Json → Option Bool
  | .bool b => some b
  | _ => none

def strings? : Json → Option (List String)
  | .array items => items.mapM string?
  | _ => none

namespace TokenSpan

def toJson (s : TokenSpan) : Json := .object [("start", .nat s.start), ("end", .nat s.stop)]

def ofJson? : Json → Option TokenSpan
  | .array [start, stop] => return ⟨← nat? start, ← nat? stop⟩
  | .object fields => do
    let value := Json.object fields
    return ⟨← nat? (← value.field? "start"), ← nat? (← value.field? "end")⟩
  | _ => none

end TokenSpan

namespace Token

def toJson (t : Token) : Json := .object (
  [("token", .string t.text)]
    ++ (t.span.map fun s => ("span", s.toJson)).toList
    ++ (if t.colocated.isEmpty then [] else [("colocated", .strings t.colocated)]))

def span? : Option Json → Option (Option TokenSpan)
  | none | some .null => some none
  | some value => (TokenSpan.ofJson? value).map some

def colocated? : Option Json → Option (List String)
  | none => some []
  | some value => strings? value

def ofParts? (token span colocated : Option Json) : Option Token := do
  return ⟨← string? (← token), ← span? span, ← colocated? colocated⟩

def ofJson? : Json → Option Token
  | .array items =>
    if items.length ≤ 3 then ofParts? items[0]? items[1]? items[2]? else none
  | .object fields =>
    let value := Json.object fields
    ofParts? (value.field? "token") (value.field? "span") (value.field? "colocated")
  | _ => none

end Token

namespace Options

def flag? : Option Json → Option Bool
  | none => some true
  | some value => bool? value

def ofJson? : Json → Option Options
  | .array items =>
    if items.length ≤ 2 then return ⟨← flag? items[0]?, ← flag? items[1]?⟩ else none
  | .object fields => do
    let value := Json.object fields
    return ⟨← flag? (value.field? "include_offsets"), ← flag? (value.field? "include_colocated")⟩
  | _ => none

end Options
end TextBoundary.Tokenizer
