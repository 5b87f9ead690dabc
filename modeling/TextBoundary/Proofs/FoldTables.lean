import Mathlib
import TextBoundary.Casefold

namespace TextBoundary.Casefold

def bits : List Nat → Nat
  | [] => 0
  | n :: ns => 2 ^ n ||| bits ns

theorem testBit_bits (ns : List Nat) (m : Nat) : (bits ns).testBit m = decide (m ∈ ns) := by
  induction ns with
  | nil => exact Nat.zero_testBit m
  | cons n ns ih => simp [bits, Nat.testBit_two_pow, ih, eq_comm]

def keys : List Nat := Unicode.FoldData.simple.map Prod.fst ++ Unicode.FoldData.expanded.map Prod.fst

def values : List Nat :=
  (List.range 26).map (97 + ·) ++ Unicode.FoldData.simple.map Prod.snd
    ++ Unicode.FoldData.expanded.flatMap Prod.snd

/-- A character that is no key of the tables and no capital letter of ASCII. -/
structure Settled (n : Nat) : Prop where
  valid : n.isValidChar
  not_upper : ¬(65 ≤ n ∧ n ≤ 90)
  not_key : n ∉ keys

theorem settled_of_mem_values {n : Nat} (h : n ∈ values) : Settled n := by
  -- as the bits of one number all keys are looked at in one step
  have hall : values.all fun n =>
      decide n.isValidChar && !(65 ≤ n && n ≤ 90) && !(bits keys).testBit n := by
    decide +kernel
  have hn := List.all_eq_true.mp hall n h
  simp only [testBit_bits, Bool.and_eq_true, Bool.not_eq_true', decide_eq_true_eq, decide_eq_false_iff_not,
    Bool.and_eq_false_iff] at hn
  obtain ⟨⟨hvalid, hupper⟩, hkey⟩ := hn
  exact ⟨hvalid, by omega, hkey⟩

theorem mem_of_find? {α : Type} {entries : Array (Nat × α)} {key rounds lo hi : Nat} {value : α}
    (h : find? entries key rounds lo hi = some value) : (key, value) ∈ entries := by
  fun_induction find? entries key rounds lo hi with
  | case1 => exact nomatch h
  | case2 => exact nomatch h
  | case3 lo hi rounds hlt mid v hget =>
    obtain rfl := Option.some.inj h
    exact Array.mem_of_getElem? hget
  | case4 lo hi rounds hlt mid k v hget hne hless ih => exact ih h
  | case5 lo hi rounds hlt mid k v hget hne hless ih => exact ih h
  | case6 => exact nomatch h

theorem isUpper_iff (c : Char) : c.isUpper ↔ 65 ≤ c.toNat ∧ c.toNat ≤ 90 := by
  simp [Char.isUpper, UInt32.le_iff_toNat_le]

/-- What comes of one character, with the entry of the table that says so. -/
inductive FoldCases (c : Char) : Folded → Prop
  | unchanged : FoldCases c .unchanged
  | lower (h : 65 ≤ c.toNat ∧ c.toNat ≤ 90) : FoldCases c (.single c.toLower)
  | single {n : Nat} (h : (c.toNat, n) ∈ Unicode.FoldData.simple) : FoldCases c (.single (Char.ofNat n))
  | expanded {ns : List Nat} (h : (c.toNat, ns) ∈ Unicode.FoldData.expanded) :
    FoldCases c (.expanded (ns.map Char.ofNat))

theorem foldCases (c : Char) : FoldCases c (foldChar c) := by
  rw [foldChar]
  by_cases hascii : c.toNat < 128
  case pos =>
    rw [if_pos hascii]
    by_cases hupper : c.isUpper
    · rw [if_pos hupper]
      exact .lower ((isUpper_iff c).mp hupper)
    · rw [if_neg hupper]
      exact .unchanged
  rw [if_neg hascii]
  cases hsimple : find? simple c.toNat (simple.size + 1) 0 simple.size with
  | some n => exact .single (List.mem_toArray.mp (mem_of_find? hsimple))
  | none =>
    dsimp only
    cases hexpanded : find? expanded c.toNat (expanded.size + 1) 0 expanded.size with
    | some ns => exact .expanded (List.mem_toArray.mp (mem_of_find? hexpanded))
    | none => exact .unchanged

theorem foldChar_of_settled {c : Char} (h : Settled c.toNat) : foldChar c = .unchanged := by
  have hkey := List.mem_append.not.mp h.not_key
  have hcases := foldCases c
  generalize foldChar c = folded at hcases ⊢
  cases hcases with
  | unchanged => rfl
  | lower hupper => exact absurd hupper h.not_upper
  | single hentry => exact absurd (.inl (List.mem_map_of_mem hentry)) hkey
  | expanded hentry => exact absurd (.inr (List.mem_map_of_mem hentry)) hkey

theorem settled_ofNat {n : Nat} (h : n ∈ values) : Settled (Char.ofNat n).toNat := by
  have hn := settled_of_mem_values h
  rwa [Char.toNat_ofNat, if_pos hn.valid]

theorem foldChar_of_mem_replace {c d : Char} (h : d ∈ (foldChar c).replace c) :
    foldChar d = .unchanged := by
  have hcases := foldCases c
  generalize hfolded : foldChar c = folded at hcases h
  cases hcases with
  | unchanged =>
    obtain rfl := List.mem_singleton.mp h
    exact hfolded
  | lower hupper =>
    obtain rfl := List.mem_singleton.mp h
    have hvalue : c.toNat + 32 ∈ values :=
      List.mem_append_left _ (List.mem_append_left _ (List.mem_map.mpr
        ⟨c.toNat - 65, List.mem_range.mpr (by omega), by omega⟩))
    rw [Char.toLower_eq_of_isUpper ((isUpper_iff c).mpr hupper)]
    exact foldChar_of_settled (settled_ofNat hvalue)
  | single hentry =>
    obtain rfl := List.mem_singleton.mp h
    exact foldChar_of_settled (settled_ofNat
      (List.mem_append_left _ (List.mem_append_right _ (List.mem_map_of_mem hentry))))
  | expanded hentry =>
    obtain ⟨n, hn, rfl⟩ := List.mem_map.mp h
    exact foldChar_of_settled (settled_ofNat
      (List.mem_append_right _ (List.mem_flatMap_of_mem hentry hn)))

theorem replaceAll_of_unchanged {cs : List Char} (h : ∀ c ∈ cs, foldChar c = .unchanged) : replaceAll cs = cs := by
  induction cs with
  | nil => rfl
  | cons c cs ih =>
    obtain ⟨hc, hcs⟩ := List.forall_mem_cons.mp h
    rw [replaceAll, List.flatMap_cons, ← replaceAll, ih hcs, hc]
    rfl

theorem replaceAll_replaceAll (cs : List Char) : replaceAll (replaceAll cs) = replaceAll cs := by
  refine replaceAll_of_unchanged fun d hd => ?_
  obtain ⟨c, -, hd⟩ := List.mem_flatMap.mp hd
  exact foldChar_of_mem_replace hd

theorem measure_changed (units : Units) (cs : List Char) :
    (measure units cs).changed = cs.any (foldChar · != .unchanged) := by
  induction cs with
  | nil => rfl
  | cons c cs ih => rw [List.any_cons, ← ih, measure]

theorem get_of_measure (units : Units) (cs : List Char) :
    (if (measure units cs).changed then Result.changed (replaceAll cs) else .same).get cs
      = replaceAll cs := by
  split
  case isTrue => rfl
  case isFalse hsame =>
    rw [measure_changed, List.any_eq_true] at hsame
    exact (replaceAll_of_unchanged fun c hc => by_contra fun hne => hsame ⟨c, hc, bne_iff_ne.mpr hne⟩).symm

theorem replace_of_ascii {c : Char} (h : c.toNat < 128) : (foldChar c).replace c = [c.toLower] := by
  rw [foldChar, if_pos h]
  by_cases hupper : c.isUpper
  · rw [if_pos hupper]
    rfl
  · rw [if_neg hupper, Char.toLower_eq_of_not_isUpper hupper]
    rfl

theorem replaceAll_of_ascii {cs : List Char} (h : ∀ c ∈ cs, c.toNat < 128) :
    replaceAll cs = cs.map Char.toLower := by
  induction cs with
  | nil => rfl
  | cons c cs ih =>
    obtain ⟨hc, hcs⟩ := List.forall_mem_cons.mp h
    rw [replaceAll, List.flatMap_cons, ← replaceAll, ih hcs, replace_of_ascii hc]
    rfl

theorem get_foldAscii {cs : List Char} (h : ∀ c ∈ cs, c.toNat < 128) :
    (foldAscii cs).get cs = replaceAll cs := by
  rw [replaceAll_of_ascii h, foldAscii]
  split
  case isTrue => rfl
  case isFalse hlower =>
    rw [List.any_eq_true] at hlower
    have hsame : ∀ c ∈ cs, c.toLower = id c :=
      fun c hc => Char.toLower_eq_of_not_isUpper fun hupper => hlower ⟨c, hc, hupper⟩
    exact ((List.map_congr_left hsame).trans (List.map_id cs)).symm

theorem get_fold (cs : List Char) : (fold cs).get cs = replaceAll cs := by
  rw [fold]
  split
  case isTrue hascii => exact get_foldAscii (by simpa using hascii)
  case isFalse => exact get_of_measure .bytes cs

theorem toList_casefold (s : String) : (casefold s).toList = replaceAll s.toList := by
  rw [casefold, String.toList_ofList, get_fold]

@[simp] theorem casefold_casefold (s : String) : casefold (casefold s) = casefold s := by
  rw [← String.toList_inj, toList_casefold, toList_casefold, replaceAll_replaceAll]

end TextBoundary.Casefold
