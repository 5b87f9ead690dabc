namespace TextBoundary

structure Mask where
  bits : Nat
  deriving DecidableEq, Repr, Inhabited

namespace Mask

def empty : Mask := ⟨0⟩

def bit (n : Nat) : Mask := ⟨1 <<< n⟩

instance : OrOp Mask := ⟨fun a b => ⟨a.bits ||| b.bits⟩⟩

def complement (width : Nat) (a : Mask) : Mask := ⟨(1 <<< width - 1) - (a.bits &&& (1 <<< width - 1))⟩

def meets (a b : Mask) : Bool := a.bits &&& b.bits != 0

def contains (a b : Mask) : Bool := a.bits &&& b.bits == b.bits

@[simp] theorem bits_or (a b : Mask) : (a ||| b).bits = a.bits ||| b.bits := rfl

@[simp] theorem empty_meets (b : Mask) : empty.meets b = false := by
  simp [meets, empty]

@[simp] theorem meets_empty (a : Mask) : a.meets empty = false := by
  simp [meets, empty]

theorem meets_or (a b c : Mask) : a.meets (b ||| c) = (a.meets b || a.meets c) := by
  simp only [meets, bits_or, Nat.and_or_distrib_left]
  rw [Bool.eq_iff_iff]
  simp [Nat.or_eq_zero_iff]
  grind

theorem contains_iff {a b : Mask} : a.contains b ↔ ∀ i, b.bits.testBit i → a.bits.testBit i := by
  rw [contains, beq_iff_eq]
  constructor
  · intro h i hi
    rw [← h, Nat.testBit_and, Bool.and_eq_true] at hi
    exact hi.1
  · intro h
    refine Nat.eq_of_testBit_eq fun i => ?_
    rw [Nat.testBit_and]
    cases hi : b.bits.testBit i with
    | false => rw [Bool.and_false]
    | true => rw [h i hi, Bool.and_true]

theorem testBit_bit {n i : Nat} : (bit n).bits.testBit i ↔ i = n := by
  rw [bit, Nat.one_shiftLeft, Nat.testBit_two_pow, decide_eq_true_iff, eq_comm]

end Mask
end TextBoundary
