import TextBoundary.Number.Shortest

namespace TextBoundary

inductive Json
  | null
  | bool (value : Bool)
  | int (value : Int)
  | float (value : Number.Binary64)
  | string (value : String)
  | array (items : List Json)
  | object (fields : List (String × Json))
  deriving Inhabited, Repr

namespace Json

def nat (n : Nat) : Json := .int n

def strings (items : List String) : Json := .array (items.map .string)

def nats (items : List Nat) : Json := .array (items.map nat)

def escapes : List (Char × Char) := [
  ('"', '"'), ('\\', '\\'), ('\n', 'n'), ('\r', 'r'), ('\t', 't'), ('\x08', 'b'), ('\x0c', 'f')]

def field? : Json → String → Option Json
  | .object fields, name => (fields.find? (·.1 == name)).map Prod.snd
  | _, _ => none

def escapeChar (c : Char) : List Char :=
  match escapes.lookup c with
  | some letter => ['\\', letter]
  | none =>
    if c.toNat < 32 then
      ['\\', 'u', '0', '0', Nat.digitChar (c.toNat / 16), Nat.digitChar (c.toNat % 16)]
    else [c]

def quote (s : String) : String := String.ofList ('"' :: s.toList.flatMap escapeChar ++ ['"'])

def zeros (n : Nat) : List Char := List.replicate n '0'

def exponentText (power : Int) : List Char :=
  'e' :: (if power < 0 then '-' else '+') :: Nat.toDigits 10 power.natAbs

/-- The digits of a positive decimal with its point: positional with the point at least four zeros
before and at most sixteen digits after the start, else with an exponent. -/
def layOut (digits : List Char) (exponent : Int) : List Char :=
  let point : Int := digits.length + exponent
  if 0 ≤ exponent ∧ point ≤ 16 then digits ++ zeros exponent.toNat ++ ['.', '0']
  else if 0 < point ∧ point ≤ 16 then
    digits.take point.toNat ++ '.' :: digits.drop point.toNat
  else if -5 < point ∧ point ≤ 0 then ['0', '.'] ++ zeros (-point).toNat ++ digits
  else
    let tail := exponentText (point - 1)
    match digits with
    | [] => tail
    | [d] => d :: tail
    | d :: ds => d :: '.' :: ds ++ tail

def floatText (x : Number.Binary64) : String :=
  let sign := if x.negative then ['-'] else []
  if x.mantissa = 0 then String.ofList (sign ++ ['0', '.', '0'])
  else
    let d := x.shortest
    String.ofList (sign ++ layOut (Nat.toDigits 10 d.digits) d.exponent)

mutual

def compact : Json → String
  | .null => "null"
  | .bool true => "true"
  | .bool false => "false"
  | .int n => toString n
  | .float x => floatText x
  | .string s => quote s
  | .array items => "[" ++ ",".intercalate (compactItems items) ++ "]"
  | .object fields => "\x7b" ++ ",".intercalate (compactFields fields) ++ "\x7d"

def compactItems : List Json → List String
  | [] => []
  | item :: items => item.compact :: compactItems items

def compactFields : List (String × Json) → List String
  | [] => []
  | (name, value) :: fields => (quote name ++ ":" ++ value.compact) :: compactFields fields

end

def newline (depth : Nat) : String := "\n" ++ String.ofList (List.replicate (2 * depth) ' ')

def block (opening closing : String) (depth : Nat) : List String → String
  | [] => opening ++ closing
  | items =>
    opening ++ newline (depth + 1) ++ ("," ++ newline (depth + 1)).intercalate items
      ++ newline depth ++ closing

mutual

def indented (depth : Nat) : Json → String
  | .null => "null"
  | .bool true => "true"
  | .bool false => "false"
  | .int n => toString n
  | .float x => floatText x
  | .string s => quote s
  | .array items => block "[" "]" depth (indentedItems (depth + 1) items)
  | .object fields => block "\x7b" "\x7d" depth (indentedFields (depth + 1) fields)

def indentedItems (depth : Nat) : List Json → List String
  | [] => []
  | item :: items => item.indented depth :: indentedItems depth items

def indentedFields (depth : Nat) : List (String × Json) → List String
  | [] => []
  | (name, value) :: fields =>
    (quote name ++ ": " ++ value.indented depth) :: indentedFields depth fields

end

def insertField (field : String × Json) : List (String × Json) → List (String × Json)
  | [] => [field]
  | other :: fields =>
    if field.1 < other.1 then field :: other :: fields else other :: insertField field fields

mutual

def sorted : Json → Json
  | .array items => .array (sortedItems items)
  | .object fields => .object (sortedFields fields)
  | value => value

def sortedItems : List Json → List Json
  | [] => []
  | item :: items => item.sorted :: sortedItems items

def sortedFields : List (String × Json) → List (String × Json)
  | [] => []
  | (name, value) :: fields => insertField (name, value.sorted) (sortedFields fields)

end

end Json
end TextBoundary
