import TextBoundary.Json
import TextBoundary.Tokenizer.Token

namespace TextBoundary.Tokenizer.Value

variable {σ : Type}

def kind : Json → String
  | .null => "null"
  | .bool _ => "bool"
  | .int _ | .float _ => "number"
  | .string _ => "string"
  | .array _ => "array"
  | .object _ => "object"

def isNumber : Json → Bool
  | .int _ | .float _ => true
  | _ => false

def text (index : Nat) : Json → Except TokenizerError String
  | .string s =>
    if maxLength < s.utf8ByteSize then .error (.tokenTooLong s.utf8ByteSize) else .ok s
  | value => .error (.invalidValue (.notText index (kind value)))

def offset (which : Offset) (value : Json) : Except TokenizerError Nat :=
  let bad := .error (.invalidValue (.badOffset which value.sorted.compact))
  match value with
  | .int n => if 0 ≤ n then .ok n.toNat else bad
  | _ => bad

/-- The span and the texts of an array, for an input of `length` bytes; `first` is the place of the
first text. -/
structure Shape where
  first : Nat
  span : TokenSpan
  texts : List Json

def shape (length : Nat) : List Json → Except TokenizerError Shape
  | [] => .error (.invalidValue .empty)
  | value :: items =>
    if isNumber value then
      match items with
      | stop :: text :: texts => do
        let start ← offset .start value
        let stop ← offset .stop stop
        if stop < start ∨ length < stop then throw (.invalidSpan start stop length)
        return ⟨2, ⟨start, stop⟩, text :: texts⟩
      | _ => .error (.invalidValue (.tooShort (items.length + 1)))
    else .ok ⟨0, ⟨0, 0⟩, value :: items⟩

def reportTexts (sink : Sink σ) (span : TokenSpan) :
    Int → Nat → List Json → ExceptT TokenizerError (StateM σ) Unit
  | _, _, [] => pure ()
  | flags, index, value :: values => do
    let s ← liftExcept (text index value)
    sink ⟨flags, s, span.start, span.stop⟩
    reportTexts sink span colocatedFlag (index + 1) values
where
  liftExcept {α : Type} (r : Except TokenizerError α) : ExceptT TokenizerError (StateM σ) α :=
    match r with
    | .ok a => pure a
    | .error e => throw e

def report (sink : Sink σ) (length : Nat) (value : Json) :
    ExceptT TokenizerError (StateM σ) Unit :=
  match value with
  | .string _ => reportTexts sink ⟨0, 0⟩ 0 0 [value]
  | .array items =>
    match shape length items with
    | .ok shape => reportTexts sink shape.span 0 shape.first shape.texts
    | .error e => throw e
  | other => throw (.invalidValue (.notTextOrArray (kind other)))

def reportAll (sink : Sink σ) (length : Nat) : List Json → ExceptT TokenizerError (StateM σ) Unit
  | [] => pure ()
  | value :: values => do
    report sink length value
    reportAll sink length values

end TextBoundary.Tokenizer.Value
