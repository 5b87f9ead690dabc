import TextBoundary.TextError

namespace TextBoundary.Tokenizer

inductive ArgumentError
  | missingCategories
  | noCategory
  | category (error : TextError)
  | unknown (argument : String)
  | unknownReason (text : String)
  deriving DecidableEq, Repr

namespace ArgumentError

def subject : ArgumentError → String
  | unknownReason _ => "reason"
  | _ => "unicode_words"

def message : ArgumentError → String
  | missingCategories => "categories needs a value"
  | noCategory => "categories is empty"
  | category e => e.message
  | unknown argument => "unknown argument '" ++ argument ++ "'"
  | unknownReason text => "unknown reason '" ++ text ++ "'"

end ArgumentError

inductive Offset
  | start
  | stop
  deriving DecidableEq, Repr

def Offset.name : Offset → String
  | start => "start"
  | stop => "end"

inductive ValueError
  | notTextOrArray (kind : String)
  | empty
  | tooShort (length : Nat)
  | badOffset (offset : Offset) (shown : String)
  | notText (index : Nat) (kind : String)
  deriving DecidableEq, Repr

def ValueError.message : ValueError → String
  | notTextOrArray kind => "expected a string or an array, not " ++ kind
  | empty => "array is empty"
  | tooShort length =>
    s!"array isn't long enough ({length}), should be at least two integers and a string"
  | badOffset offset shown =>
    offset.name ++ " should be a non-negative integer, not " ++ shown
  | notText index kind => s!"expected item {index} to be a string, not {kind}"

end Tokenizer

inductive TokenizerError
  | text (error : TextError)
  | invalidReason (flags : Int)
  | invalidFlags (flags : Int)
  | invalidSpan (start stop length : Nat)
  | colocatedWithoutToken
  | bufferTooLarge (length : Nat)
  | tokenTooLong (length : Nat)
  | invalidUtf8 (position : Nat)
  | notFound (name : String)
  | changed (name : String)
  | removed (name : String)
  | failed (message : String)
  | invalidValue (error : Tokenizer.ValueError)
  | invalidArgument (error : Tokenizer.ArgumentError)
  | nestedTooDeep (name : String) (depth : Nat)
  deriving DecidableEq, Repr

def TokenizerError.message : TokenizerError → String
  | text e => "segmentation error: " ++ e.message
  | invalidReason flags => s!"reason is not an allowed value ({flags})"
  | invalidFlags flags => s!"invalid tokenize flags ({flags})"
  | invalidSpan start stop length =>
    s!"invalid start ({start}) or end ({stop}) of token for input buffer size ({length})"
  | colocatedWithoutToken => "colocated token reported when there is no previous token"
  | bufferTooLarge length => s!"utf8 buffer is too large ({length} bytes)"
  | tokenTooLong length => s!"token is too long ({length} bytes)"
  | invalidUtf8 position => s!"invalid UTF-8 at position {position}"
  | notFound name => "no tokenizer named '" ++ name ++ "'"
  | changed name => "tokenizer '" ++ name ++ "' has been changed since it was loaded"
  | removed name => "tokenizer '" ++ name ++ "' has been removed since it was loaded"
  | failed message => "tokenizer failed: " ++ message
  | invalidValue e => "invalid reported token: " ++ e.message
  | invalidArgument e =>
    "invalid arguments for tokenizer '" ++ e.subject ++ "': " ++ e.message
  | nestedTooDeep name depth => "tokenizer '" ++ name ++ s!"' nested {depth} levels deep"

end TextBoundary
