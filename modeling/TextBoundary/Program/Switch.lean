namespace TextBoundary.Program

inductive Switch
  | configuration
  | format
  | quiet
  | verbose
  | input
  | categories
  | width
  | compact
  | failFast
  | tokenizer
  | argument
  | reason
  | noOffsets
  | noColocated
  | list
  | size
  | seed
  deriving DecidableEq, Repr

inductive Operand
  | nothing
  | value
  | anyValue
  deriving DecidableEq, Repr

namespace Switch

def name : Switch → String
  | configuration => "config"
  | format => "format"
  | quiet => "quiet"
  | verbose => "verbose"
  | input => "input"
  | categories => "categories"
  | width => "width"
  | compact => "compact"
  | failFast => "fail-fast"
  | tokenizer => "tokenizer"
  | argument => "arg"
  | reason => "reason"
  | noOffsets => "no-offsets"
  | noColocated => "no-colocated"
  | list => "list"
  | size => "size"
  | seed => "seed"

def letter? : Switch → Option Char
  | configuration => some 'c'
  | format => some 'f'
  | quiet => some 'q'
  | verbose => some 'v'
  | input => some 'i'
  | tokenizer => some 't'
  | argument => some 'a'
  | reason => some 'r'
  | size => some 's'
  | _ => none

def operand : Switch → Operand
  | quiet | verbose | compact | failFast | noOffsets | noColocated | list => .nothing
  | argument => .anyValue
  | _ => .value

def repeats : Switch → Bool
  | verbose | input | argument => true
  | _ => false

def common : List Switch := [configuration, format, quiet, verbose]

end Switch

inductive Action
  | show
  | breakTest
  | codePoint
  | tokenize
  | benchmark
  deriving DecidableEq, Repr

namespace Action

def name : Action → String
  | .show => "show"
  | .breakTest => "breaktest"
  | .codePoint => "codepoint"
  | .tokenize => "tokenize"
  | .benchmark => "benchmark"

def ofName? (name : String) : Option Action :=
  [Action.show, .breakTest, .codePoint, .tokenize, .benchmark].find? (·.name == name)

def switches : Action → List Switch
  | .show => [.input, .categories, .width, .compact]
  | .breakTest => [.failFast]
  | .codePoint => []
  | .tokenize => [.input, .tokenizer, .argument, .reason, .noOffsets, .noColocated, .list]
  | .benchmark => [.size, .seed]

end Action
end TextBoundary.Program
