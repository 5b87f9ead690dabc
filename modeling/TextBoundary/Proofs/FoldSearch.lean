import TextBoundary.Proofs.FoldTables

namespace TextBoundary.Casefold

abbrev Rising {α : Type} (entries : List (Nat × α)) : Prop := (entries.map Prod.fst).IsChain (· < ·)

variable {α : Type} {entries : List (Nat × α)} {e f : Nat × α} {key rounds lo hi i j : Nat} {value other : α}

theorem Rising.lt_of_lt (h : Rising entries) (hi : entries[i]? = some e) (hj : entries[j]? = some f)
    (hlt : i < j) : e.1 < f.1 := by
  obtain ⟨hi', rfl⟩ := List.getElem?_eq_some_iff.mp hi
  obtain ⟨hj', rfl⟩ := List.getElem?_eq_some_iff.mp hj
  exact List.pairwise_iff_getElem.mp (List.pairwise_map.mp (List.isChain_iff_pairwise.mp h)) i j hi' hj' hlt

theorem Rising.lt_iff (h : Rising entries) (hi : entries[i]? = some e) (hj : entries[j]? = some f) :
    e.1 < f.1 ↔ i < j := by
  refine ⟨fun hlt => ?_, h.lt_of_lt hi hj⟩
  rcases Nat.lt_trichotomy i j with hij | rfl | hji
  · exact hij
  · rw [Option.some.inj (hi.symm.trans hj)] at hlt
    exact absurd hlt (Nat.lt_irrefl _)
  · exact absurd hlt (Nat.lt_asymm (h.lt_of_lt hj hi hji))

theorem Rising.find?_eq (h : Rising entries) (hentry : entries[i]? = some (key, value)) (hlo : lo ≤ i)
    (hhi : i < hi) (hsize : hi ≤ entries.length) (hrounds : hi - lo < rounds) :
    find? entries.toArray key rounds lo hi = some value := by
  fun_induction find? entries.toArray key rounds lo hi with
  | case1 => omega
  | case2 lo hi rounds hlt mid hnone =>
    rw [List.getElem?_toArray, List.getElem?_eq_none_iff] at hnone
    omega
  | case3 lo hi rounds hlt mid v hmid =>
    rw [List.getElem?_toArray] at hmid
    have hbefore := h.lt_iff hentry hmid
    have hbehind := h.lt_iff hmid hentry
    obtain rfl : i = mid := by omega
    cases hentry.symm.trans hmid
    rfl
  | case4 lo hi rounds hlt mid k v hmid hne hless ih =>
    rw [List.getElem?_toArray] at hmid
    have hbehind := (h.lt_iff hmid hentry).mp hless
    exact ih hbehind hhi hsize (by omega)
  | case5 lo hi rounds hlt mid k v hmid hne hless ih =>
    rw [List.getElem?_toArray] at hmid
    have hbefore := h.lt_iff hentry hmid
    exact ih hlo (by omega) (by omega) (by omega)
  | case6 => omega

/-- Halving a whole table finds its entries, and nothing else. -/
theorem Rising.find?_eq_some_iff (h : Rising entries) :
    find? entries.toArray key (entries.toArray.size + 1) 0 entries.toArray.size = some value
      ↔ (key, value) ∈ entries := by
  constructor
  · intro hfound
    exact List.mem_toArray.mp (mem_of_find? hfound)
  · intro hmem
    obtain ⟨i, hentry⟩ := List.mem_iff_getElem?.mp hmem
    obtain ⟨hlt, -⟩ := List.getElem?_eq_some_iff.mp hentry
    rw [List.size_toArray]
    exact h.find?_eq hentry (Nat.zero_le i) hlt (Nat.le_refl _) (by omega)

theorem Rising.find?_eq_none (h : Rising entries) (hkey : key ∉ entries.map Prod.fst) :
    find? entries.toArray key (entries.toArray.size + 1) 0 entries.toArray.size = none := by
  cases hfound : find? entries.toArray key (entries.toArray.size + 1) 0 entries.toArray.size with
  | none => rfl
  | some value => exact absurd (List.mem_map_of_mem (h.find?_eq_some_iff.mp hfound)) hkey

theorem rising_simple : Rising Unicode.FoldData.simple := by
  decide +kernel

theorem rising_expanded : Rising Unicode.FoldData.expanded := by
  decide +kernel

theorem le_of_mem_keys {n : Nat} (h : n ∈ keys) : 128 ≤ n := by
  have hall : keys.all fun n => decide (128 ≤ n) := by decide +kernel
  simpa using List.all_eq_true.mp hall n h

theorem not_mem_simple {n : Nat} (h : n ∈ Unicode.FoldData.expanded.map Prod.fst) :
    n ∉ Unicode.FoldData.simple.map Prod.fst := by
  have hall : (Unicode.FoldData.expanded.map Prod.fst).all fun n =>
      !(bits (Unicode.FoldData.simple.map Prod.fst)).testBit n := by
    decide +kernel
  simpa [testBit_bits] using List.all_eq_true.mp hall n h

theorem foldChar_of_simple {c : Char} {n : Nat} (h : (c.toNat, n) ∈ Unicode.FoldData.simple) :
    foldChar c = .single (Char.ofNat n) := by
  have hkey : 128 ≤ c.toNat := le_of_mem_keys (List.mem_append_left _ (List.mem_map_of_mem h))
  rw [foldChar, if_neg (Nat.not_lt.mpr hkey), simple, rising_simple.find?_eq_some_iff.mpr h]

theorem foldChar_of_expanded {c : Char} {ns : List Nat} (h : (c.toNat, ns) ∈ Unicode.FoldData.expanded) :
    foldChar c = .expanded (ns.map Char.ofNat) := by
  have hexpanded : c.toNat ∈ Unicode.FoldData.expanded.map Prod.fst := List.mem_map_of_mem h
  have hkey : 128 ≤ c.toNat := le_of_mem_keys (List.mem_append_right _ hexpanded)
  rw [foldChar, if_neg (Nat.not_lt.mpr hkey), simple, rising_simple.find?_eq_none (not_mem_simple hexpanded),
    expanded, rising_expanded.find?_eq_some_iff.mpr h]

theorem foldChar_of_upper {c : Char} (h : 65 ≤ c.toNat ∧ c.toNat ≤ 90) : foldChar c = .single c.toLower := by
  rw [foldChar, if_pos (by omega), if_pos ((isUpper_iff c).mpr h)]

theorem foldChar_eq_single_iff {c d : Char} : foldChar c = .single d
    ↔ (65 ≤ c.toNat ∧ c.toNat ≤ 90) ∧ d = c.toLower
      ∨ ∃ n, (c.toNat, n) ∈ Unicode.FoldData.simple ∧ d = Char.ofNat n := by
  constructor
  · intro h
    have hcases := foldCases c
    rw [h] at hcases
    cases hcases with
    | lower hupper => exact .inl ⟨hupper, rfl⟩
    | single hentry => exact .inr ⟨_, hentry, rfl⟩
  · rintro (⟨hupper, rfl⟩ | ⟨n, hentry, rfl⟩)
    · exact foldChar_of_upper hupper
    · exact foldChar_of_simple hentry

theorem foldChar_eq_expanded_iff {c : Char} {ds : List Char} : foldChar c = .expanded ds
    ↔ ∃ ns, (c.toNat, ns) ∈ Unicode.FoldData.expanded ∧ ds = ns.map Char.ofNat := by
  constructor
  · intro h
    have hcases := foldCases c
    rw [h] at hcases
    cases hcases with
    | expanded hentry => exact ⟨_, hentry, rfl⟩
  · rintro ⟨ns, hentry, rfl⟩
    exact foldChar_of_expanded hentry

end TextBoundary.Casefold
