import Mathlib.Data.List.Forall2
import TextBoundary.Proofs.HexWords

namespace TextBoundary.CodePoint

def upperDigits : List Char := "0123456789ABCDEF".toList

def lowerDigits : List Char := "0123456789abcdef".toList

/-- A number behind a mark, with at least four digits, and no more zeros before it than that takes. -/
inductive Prints (alphabet : List Char) : String → Nat → Prop
  | intro {word : List Char} {n : Nat} (hword : Spells word n) (halphabet : ∀ c ∈ word, c ∈ alphabet)
    (hfour : 4 ≤ word.length) (hlong : 4 < word.length → 16 ^ (word.length - 1) ≤ n) :
    Prints alphabet (String.ofList ('U' :: '+' :: word)) n

def marks : List (List Char) := [['U', '+'], ['u', '+'], ['0', 'x'], ['0', 'X']]

inductive Unmarks : List Char → List Char → Prop
  | marked {mark rest : List Char} (h : mark ∈ marks) : Unmarks (mark ++ rest) rest
  | plain {argument : List Char} (h : ∀ mark ∈ marks, ¬mark <+: argument) : Unmarks argument argument

/-- An argument that is no number: without a mark it is empty, or it has a character that is no digit and no plus sign. -/
def Worded (argument : String) : Prop :=
  ∃ rest, Unmarks argument.toList rest ∧ (rest = [] ∨ ∃ c ∈ rest, c ∉ digits.map Prod.fst ∧ c ≠ '+')

inductive Argument
  | hex (codePoint : UInt32)
  | compactHex (codePoint : UInt32)
  | word (text : String) (h : Worded text)

namespace Argument

def text : Argument → String
  | hex codePoint => CodePoint.hex codePoint.toNat
  | compactHex codePoint => CodePoint.compactHex codePoint.toNat
  | word text _ => text

def codePoints : Argument → List Nat
  | hex codePoint => [codePoint.toNat]
  | compactHex codePoint => [codePoint.toNat]
  | word text _ => text.toList.map Char.toNat

end Argument

variable {c : Char} {word argument rest : List Char} {alphabet : List Char} {text : String} {n value : Nat}

theorem mem_digitChar (h : value < 16) :
    (Nat.digitChar value, value) ∈ digits ∧ Nat.digitChar value ∈ lowerDigits := by
  have hall : ∀ value < 16, (Nat.digitChar value, value) ∈ digits ∧ Nat.digitChar value ∈ lowerDigits := by decide
  exact hall value h

theorem mem_digits_toUpper (h : (c, value) ∈ digits) : (c.toUpper, value) ∈ digits := by
  have hall : ∀ digit ∈ digits, (digit.1.toUpper, digit.2) ∈ digits := by decide +kernel
  exact hall (c, value) h

theorem toUpper_mem_upperDigits (h : c ∈ lowerDigits) : c.toUpper ∈ upperDigits := by
  -- decided over the list, as the same of all characters takes too long
  have hall : lowerDigits.all (·.toUpper ∈ upperDigits) := by decide +kernel
  simpa using List.all_eq_true.mp hall c h

theorem spells_digit (h : (c, value) ∈ digits) : Spells [c] value :=
  ⟨List.cons_ne_nil c [], [value], .cons h .nil, Nat.ofDigits_singleton⟩

theorem spells_snoc (h : Spells word n) (hc : (c, value) ∈ digits) : Spells (word ++ [c]) (16 * n + value) := by
  obtain ⟨-, values, hvalues, rfl⟩ := h
  refine ⟨by simp, values ++ [value], List.rel_append hvalues (.cons hc .nil), ?_⟩
  rw [List.reverse_append, List.reverse_singleton, List.singleton_append, Nat.ofDigits_cons]
  exact Nat.add_comm _ _

theorem Spells.zeros_append (h : Spells word n) (k : Nat) : Spells (List.replicate k '0' ++ word) n := by
  induction k with
  | zero => exact h
  | succ k ih =>
    obtain ⟨-, values, hvalues, rfl⟩ := ih
    refine ⟨List.cons_ne_nil _ _, 0 :: values, .cons (.head _) hvalues, ?_⟩
    rw [List.reverse_cons, Nat.ofDigits_append_zero]

theorem Spells.map_toUpper (h : Spells word n) : Spells (word.map Char.toUpper) n := by
  obtain ⟨hne, values, hvalues, rfl⟩ := h
  refine ⟨mt List.map_eq_nil_iff.mp hne, values, ?_, rfl⟩
  exact List.forall₂_map_left_iff.mpr (hvalues.imp fun _ _ => mem_digits_toUpper)

theorem Spells.mem_fst_digits (h : Spells word n) : ∀ c ∈ word, c ∈ CodePoint.digits.map Prod.fst := by
  obtain ⟨-, values, hvalues, -⟩ := h
  induction hvalues with
  | nil => exact fun _ h => nomatch h
  | cons hc _ ih => exact List.forall_mem_cons.mpr ⟨List.mem_map_of_mem hc, ih⟩

theorem spells_toDigits (n : Nat) : Spells (Nat.toDigits 16 n) n ∧ ∀ c ∈ Nat.toDigits 16 n, c ∈ lowerDigits := by
  induction n using Nat.strongRecOn with
  | ind n ih =>
    rcases Nat.lt_or_ge n 16 with hlt | hge
    · rw [Nat.toDigits_of_lt_base hlt]
      obtain ⟨hdigit, hlower⟩ := mem_digitChar hlt
      exact ⟨spells_digit hdigit, List.forall_mem_singleton.mpr hlower⟩
    · obtain ⟨hquotient, hlowers⟩ := ih (n / 16) (by omega)
      obtain ⟨hdigit, hlower⟩ := mem_digitChar (Nat.mod_lt n (by decide : 16 > 0))
      have hspells := spells_snoc hquotient hdigit
      rw [Nat.div_add_mod] at hspells
      rw [Nat.toDigits_of_base_le (by decide) hge]
      exact ⟨hspells, List.forall_mem_append.mpr ⟨hlowers, List.forall_mem_singleton.mpr hlower⟩⟩

theorem spells_hexDigits (n : Nat) : Spells (hexDigits n) n := (spells_toDigits n).1.zeros_append _

theorem mem_hexDigits (hc : c ∈ hexDigits n) : c ∈ lowerDigits := by
  rcases List.mem_append.mp hc with hzero | hdigit
  · rw [List.eq_of_mem_replicate hzero]
    decide
  · exact (spells_toDigits n).2 c hdigit

theorem length_hexDigits (n : Nat) : (hexDigits n).length = max 4 (Nat.toDigits 16 n).length := by
  rw [hexDigits, List.length_append, List.length_replicate]
  omega

theorem four_le_length_hexDigits (n : Nat) : 4 ≤ (hexDigits n).length := by
  rw [length_hexDigits]
  exact Nat.le_max_left _ _

theorem le_of_length_hexDigits (h : 4 < (hexDigits n).length) : 16 ^ ((hexDigits n).length - 1) ≤ n := by
  rw [length_hexDigits] at h
  have hlength : (hexDigits n).length = (Nat.toDigits 16 n).length := by
    rw [length_hexDigits]
    omega
  rw [hlength]
  by_contra hlt
  have hle := (Nat.length_toDigits_le_iff (by decide) (by omega)).mpr (Nat.lt_of_not_le hlt)
  omega

theorem prints_compactHex (n : Nat) : Prints lowerDigits (compactHex n) n :=
  .intro (spells_hexDigits n) (fun _ => mem_hexDigits) (four_le_length_hexDigits n) le_of_length_hexDigits

theorem prints_hex (n : Nat) : Prints upperDigits (hex n) n := by
  have hlength : ((hexDigits n).map Char.toUpper).length = (hexDigits n).length := List.length_map ..
  refine .intro (spells_hexDigits n).map_toUpper ?_ ?_ ?_
  · intro c hc
    obtain ⟨d, hd, rfl⟩ := List.mem_map.mp hc
    exact toUpper_mem_upperDigits (mem_hexDigits hd)
  · rw [hlength]
    exact four_le_length_hexDigits n
  · rw [hlength]
    exact le_of_length_hexDigits

theorem Unmarks.unmarked_eq (h : Unmarks argument rest) : unmarked argument = rest := by
  cases h with
  | marked h =>
    simp only [marks, List.mem_cons, List.not_mem_nil, or_false] at h
    rcases h with rfl | rfl | rfl | rfl <;> rfl
  | plain h =>
    fun_cases unmarked argument with
    | case1 digits => exact absurd (List.prefix_append ['U', '+'] digits) (h _ (by decide))
    | case2 digits => exact absurd (List.prefix_append ['u', '+'] digits) (h _ (by decide))
    | case3 digits => exact absurd (List.prefix_append ['0', 'x'] digits) (h _ (by decide))
    | case4 digits => exact absurd (List.prefix_append ['0', 'X'] digits) (h _ (by decide))
    | case5 => rfl

theorem Prints.ofArgument_eq (h : Prints alphabet text n) (hn : n < UInt32.size) : ofArgument text = [n] := by
  obtain ⟨hword, -, -, -⟩ := h
  rw [ofArgument, String.toList_ofList, unmarked, readHex?_eq hword hn]

theorem Worded.readHex?_eq_none (h : Worded text) : readHex? (unmarked text.toList) = none := by
  obtain ⟨rest, hrest, hword⟩ := h
  rw [hrest.unmarked_eq, Option.eq_none_iff_forall_ne_some]
  intro n hread
  rcases (readHex?_eq_some_iff.mp hread).1 with hspells | ⟨digits, rfl, hspells⟩
  · rcases hword with rfl | ⟨c, hc, hdigit, -⟩
    · exact hspells.ne_nil rfl
    · exact hdigit (hspells.mem_fst_digits c hc)
  · rcases hword with hnil | ⟨c, hc, hdigit, hplus⟩
    · exact List.cons_ne_nil _ _ hnil
    · rcases List.mem_cons.mp hc with rfl | hc
      · exact hplus rfl
      · exact hdigit (hspells.mem_fst_digits c hc)

theorem ofArgument_printed (codePoint : UInt32) :
    ofArgument (hex codePoint.toNat) = [codePoint.toNat] ∧ ofArgument (compactHex codePoint.toNat) = [codePoint.toNat] :=
  ⟨(prints_hex _).ofArgument_eq codePoint.toNat_lt, (prints_compactHex _).ofArgument_eq codePoint.toNat_lt⟩

theorem Argument.ofArgument_text (a : Argument) : ofArgument a.text = a.codePoints := by
  cases a with
  | hex codePoint => exact (ofArgument_printed codePoint).1
  | compactHex codePoint => exact (ofArgument_printed codePoint).2
  | word text h => rw [Argument.text, ofArgument, h.readHex?_eq_none, codePoints]

/-- A code point is printed as a mark and at least four digits, in upper case or, in the compact form, in lower case.
Read again, any of these forms gives the code point, and words between them give their own characters, with the
mark that they may have. -/
theorem printed_code_points_are_read :
    (∀ n, Prints upperDigits (hex n) n ∧ Prints lowerDigits (compactHex n) n)
    ∧ (∀ shown : List (UInt32 × Bool), ofArguments (shown.map fun (codePoint, compact) =>
        if compact then compactHex codePoint.toNat else hex codePoint.toNat)
      = shown.map fun (codePoint, _) => codePoint.toNat)
    ∧ ∀ arguments : List Argument, ofArguments (arguments.map Argument.text) = arguments.flatMap Argument.codePoints := by
  refine ⟨fun n => ⟨prints_hex n, prints_compactHex n⟩, fun shown => ?_, fun arguments => ?_⟩
  · rw [ofArguments, List.flatMap_map, List.map_eq_flatMap]
    refine List.flatMap_congr fun (codePoint, compact) _ => ?_
    cases compact with
    | false => exact (ofArgument_printed codePoint).1
    | true => exact (ofArgument_printed codePoint).2
  · rw [ofArguments, List.flatMap_map]
    exact List.flatMap_congr fun a _ => a.ofArgument_text

example : ofArguments [hex 0x1F600, "U+", "0xhe", compactHex 0xE9, "-1"]
    = [0x1F600, 0x55, 0x2B, 0x30, 0x78, 0x68, 0x65, 0xE9, 0x2D, 0x31] := by decide +kernel

end TextBoundary.CodePoint
