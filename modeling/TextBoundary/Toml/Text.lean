import TextBoundary.Number.Digits
import TextBoundary.Toml.Token

namespace TextBoundary.Toml

def between? (quotes raw : List Char) : Option (List Char) :=
  let cs := raw.drop quotes.length
  if quotes.isPrefixOf raw ∧ quotes.isSuffixOf cs then some (cs.take (cs.length - quotes.length))
  else none

def code? (digits : Nat) (cs : List Char) : Option (Char × List Char) := do
  let ds := cs.take digits
  let n ← Number.readDigits? 16 ds
  if ds.length = digits ∧ n.isValidChar then some (Char.ofNat n, cs.drop digits) else none

def escape? : List Char → Option (Char × List Char)
  | 'b' :: cs => some (Char.ofNat 8, cs)
  | 't' :: cs => some ('\t', cs)
  | 'n' :: cs => some ('\n', cs)
  | 'f' :: cs => some (Char.ofNat 12, cs)
  | 'r' :: cs => some ('\r', cs)
  | 'e' :: cs => some (Char.ofNat 27, cs)
  | '"' :: cs => some ('"', cs)
  | '\\' :: cs => some ('\\', cs)
  | 'x' :: cs => code? 2 cs
  | 'u' :: cs => code? 4 cs
  | 'U' :: cs => code? 8 cs
  | _ => none

def newline? : List Char → Option (List Char)
  | '\n' :: cs => some cs
  | '\r' :: '\n' :: cs => some cs
  | _ => none

def skipLines : List Char → List Char
  | '\n' :: cs => skipLines cs
  | '\r' :: '\n' :: cs => skipLines cs
  | c :: cs => if isGap c then skipLines cs else c :: cs
  | [] => []

def foldLines? (cs : List Char) : Option (List Char) :=
  (newline? (cs.dropWhile isGap)).map skipLines

/-- The text with its escapes replaced, after what is done in reverse; a text of several lines keeps
its ends of lines as they are and may be folded. -/
def unescape? (several : Bool) : Nat → List Char → List Char → Option String
  | _, done, [] => some (String.ofList done.reverse)
  | 0, _, _ => none
  | fuel + 1, done, '\\' :: cs =>
    match if several then foldLines? cs else none with
    | some rest => unescape? several fuel done rest
    | none => do
      let (c, rest) ← escape? cs
      unescape? several fuel (c :: done) rest
  | fuel + 1, done, '\r' :: '\n' :: cs =>
    if several then unescape? several fuel ('\n' :: '\r' :: done) cs else none
  | fuel + 1, done, c :: cs =>
    if isControl c ∧ ¬(several ∧ c = '\n') then none else unescape? several fuel (c :: done) cs

def isLiteral (several : Bool) : List Char → Bool
  | [] => true
  | '\r' :: '\n' :: cs => several && isLiteral several cs
  | c :: cs => (!isControl c || several && c == '\n') && isLiteral several cs

def openLines (cs : List Char) : List Char := (newline? cs).getD cs

def text? (raw : List Char) : Option String :=
  let literal (several : Bool) (cs : List Char) : Option String :=
    if isLiteral several cs then some (String.ofList cs) else none
  if ['"', '"', '"'].isPrefixOf raw then do
    let cs := openLines (← between? ['"', '"', '"'] raw)
    unescape? true cs.length [] cs
  else if ['\'', '\'', '\''].isPrefixOf raw then do
    literal true (openLines (← between? ['\'', '\'', '\''] raw))
  else if raw.head? = some '"' then do
    let cs ← between? ['"'] raw
    unescape? false cs.length [] cs
  else do literal false (← between? ['\''] raw)

def isBare (c : Char) : Bool := c.isAlphanum || c == '_' || c == '-'

def name? : Lexeme → Option String
  | .word raw => if raw ≠ [] ∧ raw.all isBare then some (String.ofList raw) else none
  | .quoted raw =>
    if ['"', '"', '"'].isPrefixOf raw ∨ ['\'', '\'', '\''].isPrefixOf raw then none else text? raw

end TextBoundary.Toml
