import Mathlib.Data.Nat.Digits.Defs
import TextBoundary.Blank
import TextBoundary.CodePoint.Details

namespace TextBoundary.CodePoint

def digits : List (Char × Nat) := [('0', 0), ('1', 1), ('2', 2), ('3', 3), ('4', 4), ('5', 5), ('6', 6), ('7', 7),
  ('8', 8), ('9', 9), ('a', 10), ('b', 11), ('c', 12), ('d', 13), ('e', 14), ('f', 15),
  ('A', 10), ('B', 11), ('C', 12), ('D', 13), ('E', 14), ('F', 15)]

/-- A word of digits and the number that it writes. -/
structure Spells (word : List Char) (number : Nat) : Prop where
  ne_nil : word ≠ []
  digits : ∃ values, List.Forall₂ (fun c value => (c, value) ∈ digits) word values
    ∧ Nat.ofDigits 16 values.reverse = number

variable {c : Char} {word : List Char} {values : List Nat} {n value : Nat}

theorem digitValue?_eq (h : (c, value) ∈ digits) : Number.digitValue? 16 c = some value := by
  have hall : ∀ digit ∈ digits, Number.digitValue? 16 digit.1 = some digit.2 := by decide +kernel
  exact hall (c, value) h

theorem plain_of_mem_digits (h : (c, value) ∈ digits) : isBlank c = false ∧ c ∉ ['#', '+', '÷', '×'] := by
  have hall : ∀ digit ∈ digits, isBlank digit.1 = false ∧ digit.1 ∉ ['#', '+', '÷', '×'] := by decide +kernel
  exact hall (c, value) h

theorem Spells.plain (h : Spells word n) : ∀ c ∈ word, isBlank c = false ∧ c ∉ ['#', '+', '÷', '×'] := by
  obtain ⟨-, values, hdigits, -⟩ := h
  induction hdigits with
  | nil => exact fun _ h => nomatch h
  | cons hc _ ih => exact List.forall_mem_cons.mpr ⟨plain_of_mem_digits hc, ih⟩

theorem readDigitsFrom?_eq (h : List.Forall₂ (fun c value => (c, value) ∈ digits) word values) (n : Nat) :
    Number.readDigitsFrom? 16 n word = some (n * 16 ^ values.length + Nat.ofDigits 16 values.reverse) := by
  induction h generalizing n with
  | nil => simp [Number.readDigitsFrom?]
  | @cons c value word values hc _ ih =>
    have hvalue : (n * 16 + value) * 16 ^ values.length + Nat.ofDigits 16 values.reverse
        = n * 16 ^ (value :: values).length + Nat.ofDigits 16 (value :: values).reverse := by
      simp only [List.reverse_cons, Nat.ofDigits_append, List.length_reverse, List.length_cons,
        Nat.ofDigits_singleton, Nat.pow_succ]
      ring
    rw [Number.readDigitsFrom?, digitValue?_eq hc, ← hvalue]
    exact ih _

theorem mem_digits (h : Number.digitValue? 16 c = some value) : (c, value) ∈ digits := by
  have hall : ∀ n < 128, ∀ value ∈ Number.digitValue? 16 (Char.ofNat n), (Char.ofNat n, value) ∈ digits := by
    decide +kernel
  have hlt : c.toNat < 128 := by
    by_contra hge
    have hnumber : ¬(48 ≤ c.toNat ∧ c.toNat ≤ 57) := by omega
    have hlower : ¬(97 ≤ c.toNat ∧ c.toNat ≤ 102) := by omega
    have hupper : ¬(65 ≤ c.toNat ∧ c.toNat ≤ 70) := by omega
    simp [Number.digitValue?, hnumber, hlower, hupper] at h
  have hmem := hall c.toNat hlt value
  rw [Char.ofNat_toNat] at hmem
  exact hmem h

theorem exists_values (h : Number.readDigitsFrom? 16 n word = some value) :
    ∃ values, List.Forall₂ (fun c value => (c, value) ∈ digits) word values := by
  induction word generalizing n with
  | nil => exact ⟨[], .nil⟩
  | cons c word ih =>
    cases hc : Number.digitValue? 16 c with
    | none => simp [Number.readDigitsFrom?, hc] at h
    | some first =>
      rw [Number.readDigitsFrom?, hc] at h
      obtain ⟨values, hvalues⟩ := ih h
      exact ⟨first :: values, .cons (mem_digits hc) hvalues⟩

theorem readDigits?_eq_some_iff : Number.readDigits? 16 word = some n ↔ Spells word n := by
  cases word with
  | nil => exact ⟨nofun, fun h => absurd rfl h.ne_nil⟩
  | cons c word =>
    have hread : Number.readDigits? 16 (c :: word) = Number.readDigitsFrom? 16 0 (c :: word) := rfl
    rw [hread]
    constructor
    · intro h
      obtain ⟨values, hvalues⟩ := exists_values h
      have heq := (readDigitsFrom?_eq hvalues 0).symm.trans h
      exact ⟨List.cons_ne_nil c word, values, hvalues, by simpa using heq⟩
    · rintro ⟨-, values, hvalues, rfl⟩
      simp [readDigitsFrom?_eq hvalues]

theorem readHex?_of_unsigned (h : ∀ digits, word ≠ '+' :: digits) :
    readHex? word = (Number.readDigits? 16 word).bind fun n => if n < UInt32.size then some n else none := by
  rw [readHex?, Number.readNat?]
  · rfl
  · exact h

theorem readHex?_eq_some_iff : readHex? word = some n
    ↔ (Spells word n ∨ ∃ digits, word = '+' :: digits ∧ Spells digits n) ∧ n < UInt32.size := by
  have hbind (digits : List Char) : ((Number.readDigits? 16 digits).bind fun n =>
      if n < UInt32.size then some n else none) = some n ↔ Spells digits n ∧ n < UInt32.size := by
    simp only [Option.bind_eq_some_iff, readDigits?_eq_some_iff, Option.ite_none_right_eq_some, Option.some.injEq]
    exact ⟨fun ⟨m, hm, hlt, heq⟩ => heq ▸ ⟨hm, hlt⟩, fun ⟨hn, hlt⟩ => ⟨n, hn, hlt, rfl⟩⟩
  by_cases hplus : ∃ digits, word = '+' :: digits
  · obtain ⟨digits, rfl⟩ := hplus
    refine (hbind digits).trans (and_congr_left' ⟨fun h => .inr ⟨digits, rfl, h⟩, ?_⟩)
    rintro (h | ⟨others, heq, h⟩)
    · exact absurd (h.plain '+' (.head _)).2 (by decide)
    · exact (List.cons.inj heq).2 ▸ h
  · rw [readHex?_of_unsigned (not_exists.mp hplus), hbind]
    refine and_congr_left' ⟨.inl, ?_⟩
    rintro (h | ⟨digits, rfl, -⟩)
    · exact h
    · exact absurd ⟨digits, rfl⟩ hplus

theorem readHex?_eq (h : Spells word n) (hn : n < UInt32.size) : readHex? word = some n :=
  readHex?_eq_some_iff.mpr ⟨.inl h, hn⟩

theorem char?_iff : char? n = some c ↔ n = c.toNat := by
  rw [char?]
  constructor
  · intro h
    obtain ⟨hvalid, heq⟩ := Option.ite_none_right_eq_some.mp h
    rw [← Option.some.inj heq, Char.ofNat, dif_pos hvalid]
    rfl
  · rintro rfl
    have hvalid : c.toNat.isValidChar := c.valid
    rw [if_pos hvalid, Char.ofNat_toNat]

end TextBoundary.CodePoint
