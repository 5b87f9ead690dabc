import TextBoundary.Kind
import TextBoundary.Proofs.RunSearch

/-! Which masks the tables give. A vocabulary has few of them, so that facts about all characters, such
as that no character has two given properties, are settled by looking at its values. -/

namespace TextBoundary

open Unicode.RunTable

namespace GraphemeBreak

def values : List Mask := [cr, lf, control, extend, zwj ||| conjunctExtend, regionalIndicator,
  prepend, spacingMark, hangulL, hangulV, hangulT, hangulLV, hangulLVT, extendedPictographic,
  extend ||| conjunctLinker, conjunctConsonant, extend ||| conjunctExtend, other]

end GraphemeBreak

namespace WordBreak

def values : List Mask := [cr, lf, newline, extend, zwj, regionalIndicator, format, katakana,
  hebrewLetter, aLetter, singleQuote, doubleQuote, midNumLet, midLetter, midNum, numeric,
  extendNumLet, wSegSpace, extendedPictographic, aLetter ||| extendedPictographic, other]

end WordBreak

namespace SentenceBreak

def values : List Mask := [cr, lf, extend, sep, format, sp, lower, upper, oLetter, numeric,
  aTerm, sContinue, sTerm, close, other]

end SentenceBreak

def listed (values : List Mask) (bits : Nat) : Bool := values.any fun v => Nat.beq v.bits bits

theorem mem_of_listed {values : List Mask} {mask : Mask} (h : listed values mask.bits) : mask ∈ values := by
  obtain ⟨v, hv, hbits⟩ := List.any_eq_true.mp h
  have heq : v = mask := congrArg Mask.mk (Nat.eq_of_beq_eq_true hbits)
  exact heq ▸ hv

namespace Kind

def table : Kind → Unicode.RunTable
  | grapheme => GraphemeBreak.table
  | word => WordBreak.table
  | sentence => SentenceBreak.table

def values : Kind → List Mask
  | grapheme => GraphemeBreak.values
  | word => WordBreak.values
  | sentence => SentenceBreak.values

theorem category_eq (kind : Kind) : kind.category = kind.table.lookup := by
  cases kind <;> rfl

theorem exact_table (kind : Kind) : kind.table.Exact := by
  cases kind <;> exact exact_ofData (by decide +kernel) rfl rfl (by decide +kernel) (by decide +kernel)

theorem category_mem (kind : Kind) (codePoint : Nat) : kind.category codePoint ∈ kind.values := by
  have hexact := kind.exact_table
  apply mem_of_listed
  rw [category_eq]
  cases kind <;> exact forall_lookup_ofData hexact (by decide +kernel) codePoint

theorem category_ne_empty (kind : Kind) (codePoint : Nat) : kind.category codePoint ≠ .empty := by
  have hall : ∀ value ∈ kind.values, value ≠ .empty := by
    cases kind <;> decide
  exact hall _ (kind.category_mem codePoint)

def has (kind : Kind) (mask : Mask) (c : Char) : Bool := (kind.category c.toNat).meets mask

@[simp] theorem has_or (kind : Kind) (a b : Mask) (c : Char) :
    kind.has (a ||| b) c = (kind.has a c || kind.has b c) := Mask.meets_or _ a b

@[simp] theorem has_empty (kind : Kind) (c : Char) : kind.has .empty c = false := Mask.meets_empty _

/-- Whether no value of the vocabulary meets both masks. -/
def apart (kind : Kind) (a b : Mask) : Bool := kind.values.all fun v => !(v.meets a && v.meets b)

def within (kind : Kind) (a b : Mask) : Bool := kind.values.all fun v => !v.meets a || v.meets b

theorem not_has_of_apart {kind : Kind} {a b : Mask} (h : kind.apart a b) {c : Char}
    (ha : kind.has a c) : kind.has b c = false := by
  have := List.all_eq_true.mp h _ (kind.category_mem c.toNat)
  simp_all [has]

theorem has_of_within {kind : Kind} {a b : Mask} (h : kind.within a b) {c : Char}
    (ha : kind.has a c) : kind.has b c := by
  have := List.all_eq_true.mp h _ (kind.category_mem c.toNat)
  simp_all [has]

theorem not_has_of_within {kind : Kind} {a b : Mask} (h : kind.within a b) {c : Char}
    (hb : kind.has b c = false) : kind.has a c = false :=
  Bool.eq_false_iff.mpr fun ha => Bool.eq_false_iff.mp hb (has_of_within h ha)

end Kind
end TextBoundary
