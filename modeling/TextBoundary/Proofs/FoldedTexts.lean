import TextBoundary.Proofs.FoldSearch
import TextBoundary.Proofs.Utf8Bytes

namespace TextBoundary.Casefold

variable {cs : List Char}

theorem get_foldChars (cs : List Char) : (foldChars cs).get cs = replaceAll cs := get_of_measure .codePoints cs

theorem replaceAll_append (a b : List Char) : replaceAll (a ++ b) = replaceAll a ++ replaceAll b :=
  List.flatMap_append

theorem length_measure (units : Units) (cs : List Char) :
    (measure units cs).length = units.length (replaceAll cs) := by
  induction cs with
  | nil => rfl
  | cons c cs ih => rw [replaceAll, List.flatMap_cons, ← replaceAll, Units.length_append, ← ih, measure]

theorem replaceAll_eq_self_iff : replaceAll cs = cs ↔ ∀ c ∈ cs, foldChar c = .unchanged := by
  refine ⟨fun h c hc => ?_, replaceAll_of_unchanged⟩
  -- a character of a folded text comes from one that folds to it
  rw [← h] at hc
  obtain ⟨d, -, hd⟩ := List.mem_flatMap.mp hc
  exact foldChar_of_mem_replace hd

theorem foldChar_of_ascii {c : Char} (h : c.toNat < 128) : foldChar c = .unchanged ↔ ¬c.isUpper := by
  rw [foldChar, if_pos h]
  cases c.isUpper <;> simp

theorem foldAscii_eq_same_iff (h : ∀ c ∈ cs, c.toNat < 128) : foldAscii cs = .same ↔ replaceAll cs = cs := by
  rw [replaceAll_eq_self_iff, foldAscii]
  have hupper : (∀ c ∈ cs, foldChar c = .unchanged) ↔ ¬cs.any Char.isUpper := by
    rw [List.any_eq_true, not_exists]
    exact forall_congr' fun c => ⟨fun hc hand => (foldChar_of_ascii (h c hand.1)).mp (hc hand.1) hand.2,
      fun hc hmem => (foldChar_of_ascii (h c hmem)).mpr fun hupper => hc ⟨hmem, hupper⟩⟩
  rw [hupper]
  cases cs.any Char.isUpper <;> simp

theorem measured_eq_same_iff (units : Units) :
    (if (measure units cs).changed then Result.changed (replaceAll cs) else .same) = .same
      ↔ replaceAll cs = cs := by
  rw [replaceAll_eq_self_iff, measure_changed]
  have hchanged : (∀ c ∈ cs, foldChar c = .unchanged) ↔ ¬cs.any (foldChar · != .unchanged) := by simp
  rw [hchanged]
  cases cs.any (foldChar · != .unchanged) <;> simp

theorem fold_eq_same_iff : fold cs = .same ↔ replaceAll cs = cs := by
  rw [fold]
  split
  case isTrue hascii => exact foldAscii_eq_same_iff (by simpa using hascii)
  case isFalse => exact measured_eq_same_iff .bytes

theorem foldChars_eq_same_iff : foldChars cs = .same ↔ replaceAll cs = cs := measured_eq_same_iff .codePoints

theorem isSame_iff {r : Result} : r.isSame ↔ r = .same := by
  cases r <;> simp [Result.isSame]

theorem casefold_eq_self_iff {s : String} : casefold s = s ↔ replaceAll s.toList = s.toList := by
  rw [← String.toList_inj, toList_casefold]

theorem casefold_append (a b : String) : casefold (a ++ b) = casefold a ++ casefold b := by
  rw [← String.toList_inj]
  simp only [String.toList_append, toList_casefold, replaceAll_append]

/-- A text is folded by putting for each character what the tables have for it, with or without the way for ASCII,
as bytes or as code points. It counts as the same exactly when it is, and has the length that was measured. -/
theorem texts_fold_by_characters :
    (∀ c d, foldChar c = .single d ↔ (65 ≤ c.toNat ∧ c.toNat ≤ 90) ∧ d = c.toLower
      ∨ ∃ n, (c.toNat, n) ∈ Unicode.FoldData.simple ∧ d = Char.ofNat n)
    ∧ (∀ c ds, foldChar c = .expanded ds
      ↔ ∃ ns, (c.toNat, ns) ∈ Unicode.FoldData.expanded ∧ ds = ns.map Char.ofNat)
    ∧ (∀ s : String, (casefold s).toList = s.toList.flatMap (fun c => (foldChar c).replace c)
      ∧ ((fold s.toList).isSame ↔ casefold s = s)
      ∧ (measure .bytes s.toList).length = (Utf8.encode (casefold s)).length)
    ∧ (∀ cs : List Char, (foldChars cs).get cs = cs.flatMap (fun c => (foldChar c).replace c)
      ∧ ((foldChars cs).isSame ↔ (foldChars cs).get cs = cs)
      ∧ (measure .codePoints cs).length = Units.codePoints.length ((foldChars cs).get cs))
    ∧ ∀ a b : String, casefold (a ++ b) = casefold a ++ casefold b := by
  refine ⟨fun _ _ => foldChar_eq_single_iff, fun _ _ => foldChar_eq_expanded_iff, fun s => ?_, fun cs => ?_,
    casefold_append⟩
  · refine ⟨toList_casefold s, ?_, ?_⟩
    · rw [isSame_iff, fold_eq_same_iff, casefold_eq_self_iff]
    · rw [length_measure, Utf8.length_encode, toList_casefold]
  · refine ⟨get_foldChars cs, ?_, ?_⟩
    · rw [isSame_iff, foldChars_eq_same_iff, get_foldChars]
    · rw [length_measure, get_foldChars]

/-- Folding a folded text gives the text itself back. -/
theorem folded_texts_stay :
    (∀ s : String, casefold (casefold s) = casefold s ∧ (fold (casefold s).toList).isSame)
    ∧ ∀ cs : List Char, let folded := (foldChars cs).get cs
      (foldChars folded).get folded = folded ∧ (foldChars folded).isSame := by
  refine ⟨fun s => ⟨casefold_casefold s, ?_⟩, fun cs => ?_⟩
  · rw [isSame_iff, fold_eq_same_iff, toList_casefold, replaceAll_replaceAll]
  · have hfolded : replaceAll ((foldChars cs).get cs) = (foldChars cs).get cs := by
      rw [get_foldChars, replaceAll_replaceAll]
    exact ⟨(get_foldChars _).trans hfolded, isSame_iff.mpr (foldChars_eq_same_iff.mpr hfolded)⟩

end TextBoundary.Casefold
