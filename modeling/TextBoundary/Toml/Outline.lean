import TextBoundary.Toml.Token

namespace TextBoundary.Toml

inductive Written
  | scalar (lexeme : Lexeme)
  | array (items : List Written)
  | table (fields : List (List Lexeme × Written))
  deriving Inhabited, Repr

abbrev Entry := List Lexeme × Written

structure Header where
  double : Bool
  key : List Lexeme
  deriving Repr

structure Section where
  header : Header
  entries : List Entry
  deriving Repr

structure Outline where
  top : List Entry
  sections : List Section
  deriving Repr

def maxDepth : Nat := 80

namespace Outline

def skipGap : List Token → List Token
  | .gap _ :: ts => skipGap ts
  | ts => ts

def skipBlank : List Token → List Token
  | .gap _ :: ts => skipBlank ts
  | .newline :: ts => skipBlank ts
  | ts => ts

def endLine? (ts : List Token) : Option (List Token) :=
  match skipGap ts with
  | [] => some []
  | .newline :: ts => some ts
  | _ => none

def keyTail : List Token → List Lexeme × List Token
  | .gap _ :: ts => keyTail ts
  | .dot :: .gap _ :: .lexeme l :: ts => let (ls, rest) := keyTail ts; (l :: ls, rest)
  | .dot :: .lexeme l :: ts => let (ls, rest) := keyTail ts; (l :: ls, rest)
  | .dot :: ts => let (ls, rest) := keyTail ts; (.missing :: ls, rest)
  | ts => ([], ts)

def key (ts : List Token) : List Lexeme × List Token :=
  match skipGap ts with
  | .lexeme l :: ts => let (ls, rest) := keyTail ts; (l :: ls, rest)
  | ts => let (ls, rest) := keyTail ts; (.missing :: ls, rest)

/-- The words and dots of a value without quotes. A date and a time may have blanks between them, so
words with blanks between them are taken together. -/
def plain : List Token → List Char × List Token
  | .dot :: ts => let (cs, rest) := plain ts; ('.' :: cs, rest)
  | .lexeme (.word raw) :: ts => let (cs, rest) := plain ts; (raw ++ cs, rest)
  | .gap blanks :: .lexeme (.word raw) :: ts =>
    let (cs, rest) := plain ts; (blanks ++ raw ++ cs, rest)
  | ts => ([], ts)

mutual

def value? : Nat → Nat → List Token → Option (Written × List Token)
  | 0, _, _ => none
  | fuel + 1, levels, ts =>
    match ts, levels with
    | .openBracket :: ts, levels + 1 => items? fuel levels [] (skipBlank ts)
    | .openBrace :: ts, levels + 1 => fields? fuel levels [] (skipBlank ts)
    | .lexeme (.quoted raw) :: ts, _ => some (.scalar (.quoted raw), ts)
    | .lexeme (.word _) :: _, _ | .dot :: _, _ =>
      let (raw, rest) := plain ts
      some (.scalar (.word raw), rest)
    | _, _ => none

def items? : Nat → Nat → List Written → List Token → Option (Written × List Token)
  | 0, _, _, _ => none
  | _, _, done, .closeBracket :: ts => some (.array done.reverse, ts)
  | fuel + 1, levels, done, ts => do
    let (item, rest) ← value? fuel levels ts
    match skipBlank rest with
    | .comma :: rest => items? fuel levels (item :: done) (skipBlank rest)
    | .closeBracket :: rest => return (.array (item :: done).reverse, rest)
    | _ => none

def fields? : Nat → Nat → List Entry → List Token → Option (Written × List Token)
  | 0, _, _, _ => none
  | _, _, done, .closeBrace :: ts => some (.table done.reverse, ts)
  | fuel + 1, levels, done, ts => do
    let (key, rest) := key ts
    let .equals :: rest := skipBlank rest | none
    let (value, rest) ← value? fuel levels (skipBlank rest)
    match skipBlank rest with
    | .comma :: rest => fields? fuel levels ((key, value) :: done) (skipBlank rest)
    | .closeBrace :: rest => return (.table ((key, value) :: done).reverse, rest)
    | _ => none

end

def entry? (ts : List Token) : Option (Entry × List Token) := do
  let (key, .equals :: rest) := key ts | none
  let rest := skipGap rest
  match rest with
  | [] | .newline :: _ => return ((key, .scalar .missing), ← endLine? rest)
  | _ =>
    let (value, rest) ← value? (2 * rest.length + 2) maxDepth rest
    return ((key, value), ← endLine? rest)

def header? (ts : List Token) : Option (Header × List Token) := do
  match ts with
  | .openBracket :: ts =>
    let (key, .closeBracket :: .closeBracket :: rest) := key ts | none
    return (⟨true, key⟩, ← endLine? rest)
  | ts =>
    let (key, .closeBracket :: rest) := key ts | none
    return (⟨false, key⟩, ← endLine? rest)

def lines? : Nat → List Token → Option Outline
  | 0, _ => none
  | fuel + 1, ts =>
    match skipBlank ts with
    | [] => some ⟨[], []⟩
    | .openBracket :: ts => do
      let (header, rest) ← header? ts
      let outline ← lines? fuel rest
      return ⟨[], ⟨header, outline.top⟩ :: outline.sections⟩
    | ts => do
      let (entry, rest) ← entry? ts
      let outline ← lines? fuel rest
      return ⟨entry :: outline.top, outline.sections⟩

def ofTokens? (ts : List Token) : Option Outline := lines? (ts.length + 1) ts

end Outline
end TextBoundary.Toml
