import TextBoundary.Toml

/-! The tokens of a document. A quoted token keeps its quotes and a word everything up to the next
separator, so that cutting a document up never looks into them; comments leave no token. -/

namespace TextBoundary.Toml

inductive Lexeme
  | quoted (raw : List Char)
  | word (raw : List Char)
  deriving DecidableEq, Repr, Inhabited

def Lexeme.missing : Lexeme := .word []

inductive Token
  | dot
  | equals
  | comma
  | openBracket
  | closeBracket
  | openBrace
  | closeBrace
  | gap (blanks : List Char)
  | newline
  | lexeme (lexeme : Lexeme)
  deriving DecidableEq, Repr, Inhabited

def isGap (c : Char) : Bool := c == ' ' || c == '\t'

def isControl (c : Char) : Bool := (c.toNat < 32 && c != '\t') || c.toNat == 127

def isWord (c : Char) : Bool :=
  !isGap c && c != '\r' && c != '\n' && c != '#' && c != '.' && c != '=' && c != ','
    && c != '[' && c != ']' && c != '\x7b' && c != '\x7d'

namespace Token

def scanLine (quote : Char) : List Char → List Char → List Char × List Char
  | done, [] => (done.reverse, [])
  | done, '\\' :: c :: cs =>
    if quote = '"' ∧ (c = '"' ∨ c = '\\') then scanLine quote (c :: '\\' :: done) cs
    else scanLine quote ('\\' :: done) (c :: cs)
  | done, c :: cs =>
    if c = quote then ((c :: done).reverse, cs)
    else if c = '\n' then (done.reverse, c :: cs)
    else scanLine quote (c :: done) cs

/-- The rest of a quoted token of several lines, which goes to the end of the document if nothing
closes it. The closing quotes may have two more before them. -/
def scanLines (quote : Char) : List Char → List Char → List Char × List Char
  | done, [] => (done.reverse, [])
  | done, '\\' :: c :: cs =>
    if quote = '"' ∧ (c = '"' ∨ c = '\\') then scanLines quote (c :: '\\' :: done) cs
    else scanLines quote ('\\' :: done) (c :: cs)
  | done, c :: cs =>
    if [quote, quote, quote].isPrefixOf (c :: cs) then
      let quotes := ((c :: cs).take 5).takeWhile (· == quote)
      (done.reverse ++ quotes, (c :: cs).drop quotes.length)
    else scanLines quote (c :: done) cs

def scanQuoted (quote : Char) (cs : List Char) : List Char × List Char :=
  if [quote, quote].isPrefixOf cs then scanLines quote [quote, quote, quote] (cs.drop 2)
  else scanLine quote [quote] cs

/-- The token at the front, or none for a comment, and the characters after it. Neither a control
character in a comment nor a carriage return on its own is allowed. -/
def front? (c : Char) (cs : List Char) : Option (Option Token × List Char) :=
  match c with
  | '.' => some (some dot, cs)
  | '=' => some (some equals, cs)
  | ',' => some (some comma, cs)
  | '[' => some (some openBracket, cs)
  | ']' => some (some closeBracket, cs)
  | '\x7b' => some (some openBrace, cs)
  | '\x7d' => some (some closeBrace, cs)
  | '\n' => some (some newline, cs)
  | '\r' =>
    match cs with
    | '\n' :: cs => some (some newline, cs)
    | _ => none
  | '#' =>
    let rest := cs.dropWhile (!isControl ·)
    match rest with
    | [] | '\n' :: _ | '\r' :: _ => some (none, rest)
    | _ => none
  | _ =>
    if isGap c then some (some (gap (c :: cs.takeWhile isGap)), cs.dropWhile isGap)
    else if c = '"' ∨ c = '\'' then
      let (raw, rest) := scanQuoted c cs
      some (some (lexeme (.quoted raw)), rest)
    else some (some (lexeme (.word (c :: cs.takeWhile isWord))), cs.dropWhile isWord)

def listWithin : Nat → List Char → Option (List Token)
  | _, [] => some []
  | 0, _ => none
  | fuel + 1, c :: cs => do
    let (token, rest) ← front? c cs
    return token.toList ++ (← listWithin fuel rest)

def list? (cs : List Char) : Option (List Token) := listWithin cs.length cs

end Token
end TextBoundary.Toml
