namespace TextBoundary

inductive Units
  | bytes
  | codePoints
  deriving DecidableEq, Repr, Inhabited

namespace Units

def size : Units → Char → Nat
  | bytes, c => c.utf8Size
  | codePoints, _ => 1

theorem size_pos (u : Units) (c : Char) : 0 < u.size c := by
  cases u
  · exact c.utf8Size_pos
  · exact Nat.one_pos

def length (u : Units) : List Char → Nat
  | [] => 0
  | c :: cs => u.size c + u.length cs

/-- What is left of the characters after `n` units, none if a character lies across the cut. -/
def drop? (u : Units) : List Char → Nat → Option (List Char)
  | cs, 0 => some cs
  | [], _ + 1 => none
  | c :: cs, n + 1 => if u.size c ≤ n + 1 then u.drop? cs (n + 1 - u.size c) else none

def take (u : Units) : List Char → Nat → List Char
  | [], _ => []
  | c :: cs, n => if u.size c ≤ n then c :: u.take cs (n - u.size c) else []

@[simp] theorem length_append (u : Units) (s t : List Char) :
    u.length (s ++ t) = u.length s + u.length t := by
  induction s with
  | nil => simp [length]
  | cons c s ih => simp [length, ih, Nat.add_assoc]

end Units

structure Text where
  units : Units
  chars : List Char
  deriving DecidableEq, Repr, Inhabited

namespace Text

def length (t : Text) : Nat := t.units.length t.chars

def isEmpty (t : Text) : Bool := t.length == 0

/-- The characters from a position on, none unless a character starts there or the text ends. -/
def suffix? (t : Text) (position : Nat) : Option (List Char) :=
  t.units.drop? t.chars position

def charAt? (t : Text) (position : Nat) : Option Char :=
  (t.suffix? position).bind List.head?

def isBoundary (t : Text) (position : Nat) : Bool := (t.suffix? position).isSome

def slice (t : Text) (start stop : Nat) : List Char :=
  t.units.take ((t.suffix? start).getD []) (stop - start)

end Text
end TextBoundary
