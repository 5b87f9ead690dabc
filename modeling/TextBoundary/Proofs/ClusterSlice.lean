import TextBoundary.Proofs.Listings

namespace TextBoundary

variable {units : Units} {runs : List (List Char)}

theorem take_append_middle (runs : List (List Char)) {a b : Nat} (h : a ≤ b) :
    runs.take a ++ (runs.take b).drop a = runs.take b := by
  have htake : (runs.take b).take a = runs.take a := by rw [List.take_take, Nat.min_eq_left h]
  rw [← htake, List.take_append_drop]

namespace Span

theorem getD_lay (offset k : Nat) (h : k ≤ runs.length) :
    (offset :: (lay units offset runs).map stop).getD k 0
      = offset + units.length (runs.take k).flatten := by
  induction runs generalizing offset k with
  | nil =>
    obtain rfl := Nat.le_zero.mp h
    rfl
  | cons run runs ih =>
    cases k with
    | zero => rfl
    | succ k =>
      rw [lay, List.map_cons, List.getD_cons_succ, ih _ _ (Nat.le_of_succ_le_succ h),
        List.take_succ_cons, List.flatten_cons, Units.length_append, Nat.add_assoc]

end Span

namespace Text

variable {t : Text}

theorem isBoundary_take (ht : t.chars = runs.flatten) (a : Nat) :
    t.isBoundary (t.units.length (runs.take a).flatten) := by
  have hcut : t.chars = (runs.take a).flatten ++ (runs.drop a).flatten := by
    rw [← List.flatten_append, List.take_append_drop, ht]
  exact isBoundary_eq hcut

theorem flatten_take_append {a b : Nat} (h : a ≤ b) :
    (runs.take a).flatten ++ ((runs.take b).drop a).flatten = (runs.take b).flatten := by
  rw [← List.flatten_append, take_append_middle runs h]

theorem length_take_le_length_take (units : Units) {a b : Nat} (h : a ≤ b) :
    units.length (runs.take a).flatten ≤ units.length (runs.take b).flatten := by
  rw [← flatten_take_append h, Units.length_append]
  exact Nat.le_add_right _ _

theorem slice_take (ht : t.chars = runs.flatten) {a b : Nat} (h : a ≤ b) :
    t.slice (t.units.length (runs.take a).flatten) (t.units.length (runs.take b).flatten)
      = ((runs.take b).drop a).flatten := by
  have hchars : t.chars = (runs.take a).flatten
      ++ (((runs.take b).drop a).flatten ++ (runs.drop b).flatten) := by
    rw [← List.append_assoc, flatten_take_append h, ← List.flatten_append, List.take_append_drop, ht]
  rw [← flatten_take_append h, slice_eq hchars]

theorem part_eq (ht : t.chars = runs.flatten) (a b : Nat) :
    t.part (t.units.length (runs.take a).flatten) (t.units.length (runs.take b).flatten)
      = ((runs.take b).drop a).flatten := by
  rcases Nat.le_total a b with h | h
  · rw [part]
    split
    case isTrue hle =>
      rw [← flatten_take_append h, Units.length_append] at hle
      exact (Units.length_eq_zero.mp (Nat.le_zero.mp (Nat.le_of_add_le_add_left hle))).symm
    case isFalse => exact slice_take ht h
  · have hnil : (runs.take b).drop a = [] :=
      List.drop_eq_nil_of_le (Nat.le_trans (List.length_take_le b runs) h)
    rw [part, if_pos (length_take_le_length_take t.units h), hnil]
    rfl

theorem runs_le_length (h : Kind.grapheme.Parts runs) (ht : t.chars = runs.flatten) :
    (runs.length : Int) ≤ t.length := by
  rw [length, ht]
  exact Int.ofNat_le.mpr (h.length_le_units t.units)

/-- The clusters numbered from `start` to before `stop`, each index brought into range. -/
def pick (runs : List (List Char)) (start stop : Int) : List Char :=
  ((runs.take (clampIndex runs.length stop).toNat).drop (clampIndex runs.length start).toNat).flatten

theorem clampIndex_le {length : Nat} (index : Int) : clampIndex length index ≤ length := by
  rw [clampIndex]
  split <;> omega

theorem clampIndex_nonneg {length : Nat} (index : Int) : 0 ≤ clampIndex length index := by
  rw [clampIndex]
  split <;> omega

theorem clampIndex_of_nonneg {length : Nat} {index : Int} (h : 0 ≤ index) :
    clampIndex length index = min index length :=
  if_neg (Int.not_lt.mpr h)

theorem pick_eq_nil {start stop : Int}
    (h : clampIndex runs.length stop ≤ clampIndex runs.length start) : pick runs start stop = [] := by
  have hlength := List.length_take_le (clampIndex runs.length stop).toNat runs
  rw [pick, List.drop_eq_nil_of_le (by omega)]
  rfl

theorem pick_of_nonneg {start stop : Int} (hstart : 0 ≤ start) (hstop : 0 ≤ stop) :
    pick runs start stop = ((runs.take stop.toNat).drop start.toNat).flatten := by
  have htake : runs.take (min stop runs.length).toNat = runs.take stop.toNat := by
    rcases Int.le_total stop runs.length with h | h
    · rw [Int.min_eq_left h]
    · rw [Int.min_eq_right h, Int.toNat_natCast, List.take_length, List.take_of_length_le (by omega)]
  rw [pick, clampIndex_of_nonneg hstart, clampIndex_of_nonneg hstop, htake]
  rcases Int.le_total start runs.length with h | h
  · rw [Int.min_eq_left h]
  · have hlength := List.length_take_le' stop.toNat runs
    rw [Int.min_eq_right h, Int.toNat_natCast, List.drop_eq_nil_of_le hlength,
      List.drop_eq_nil_of_le (Nat.le_trans hlength (by omega))]

def endOf (units : Units) (offset : Nat) (count : Int) (runs : List (List Char)) (index : Int)
    (missing : Nat) : Nat :=
  if count < index ∧ index ≤ count + runs.length then
    offset + units.length (runs.take (index - count).toNat).flatten
  else missing

theorem endOf_of_le {offset missing : Nat} {count index : Int} (h : index ≤ count) :
    endOf units offset count runs index missing = missing :=
  if_neg fun hlt => by omega

theorem endOf_nil {offset missing : Nat} {count index : Int} :
    endOf units offset count [] index missing = missing := by
  apply if_neg
  rw [List.length_nil]
  omega

theorem endOf_cons {offset missing : Nat} {count index : Int} {run : List Char} :
    endOf units offset count (run :: runs) index missing
      = endOf units (offset + units.length run) (count + 1) runs index
        (if count + 1 = index then offset + units.length run else missing) := by
  rcases Int.lt_trichotomy (count + 1) index with hlt | rfl | hgt
  · obtain ⟨k, hk⟩ : ∃ k : Nat, (index - count).toNat = k + 1 := ⟨(index - (count + 1)).toNat, by omega⟩
    have hk' : (index - (count + 1)).toNat = k := by omega
    have hiff : (count < index ∧ index ≤ count + (run :: runs).length) ↔
        (count + 1 < index ∧ index ≤ count + 1 + runs.length) := by
      rw [List.length_cons]
      omega
    rw [endOf, endOf, if_neg (Int.ne_of_lt hlt), hk, hk', List.take_succ_cons, List.flatten_cons,
      Units.length_append, Nat.add_assoc]
    simp only [hiff]
  · have hone : (count + 1 - count).toNat = 1 := by omega
    rw [endOf_of_le (Int.le_refl _), if_pos rfl, endOf, hone, if_pos (by rw [List.length_cons]; omega)]
    simp
  · rw [endOf_of_le (by omega), endOf_of_le (by omega), if_neg (by omega)]

theorem clusterEnds_eq (h : Kind.grapheme.Parts runs) {before : List Char} (ht : t.chars = before ++ runs.flatten)
    {start stop count : Int} {rounds : Nat} (hr : runs.length ≤ rounds) (hlt : start < stop) (hcount : count < stop)
    (ends : Nat × Nat) :
    t.clusterEnds start stop rounds count (t.units.length before) ends = .ok
      (endOf t.units (t.units.length before) count runs start ends.1,
        endOf t.units (t.units.length before) count runs stop ends.2) := by
  induction h generalizing before rounds count ends with
  | nil =>
    rw [clusterEnds.eq_def, if_pos (show t.length ≤ t.units.length before from Nat.le_of_eq (length_eq ht)),
      endOf_nil, endOf_nil]
  | @cons run runs hleads hparts ih =>
    obtain ⟨rounds, rfl⟩ := Nat.exists_eq_add_of_le' (Nat.lt_of_lt_of_le (Nat.succ_pos _) hr)
    have hbreak := breakFrom_parts (hparts.cons hleads) ht
    rw [List.flatten_cons] at ht
    rw [clusterEnds, if_neg (Nat.not_le.mpr (lt_length_of_leads hleads ht)), hbreak, List.headD_cons, ok_bind,
      endOf_cons, endOf_cons, ← Units.length_append]
    by_cases hdone : count + 1 = stop
    · -- the scan stops here, past the end of `start`
      rw [endOf_of_le (show start ≤ count + 1 by omega), endOf_of_le (Int.le_of_eq hdone.symm)]
      simp only [hdone, ↓reduceIte]
      rfl
    · simp only [hdone, ↓reduceIte]
      exact ih (by rw [ht, List.append_assoc]) (Nat.le_of_succ_le_succ hr) (by omega) _

theorem endOf_start {index : Int} (h : 0 ≤ index) :
    endOf units 0 0 runs index (if index = 0 then 0 else units.length runs.flatten)
      = units.length (runs.take index.toNat).flatten := by
  rcases Int.lt_or_eq_of_le h with hpos | rfl
  · rcases Int.le_total index runs.length with hle | hge
    · rw [endOf, if_pos (by omega), Int.sub_zero, Nat.zero_add]
    · rw [List.take_of_length_le (by omega), if_neg (by omega), endOf]
      split
      case isTrue hlast => rw [List.take_of_length_le (by omega), Nat.zero_add]
      case isFalse => rfl
  · rw [endOf_of_le (Int.le_refl _), if_pos rfl]
    rfl

theorem clampIndex_le_clampIndex {length : Nat} {bound start stop : Int} (h : (length : Int) ≤ bound)
    (hout : start > bound ∨ start = stop ∨ stop = 0 ∨ (start > 0 ∧ stop ≥ 0 ∧ start ≥ stop)) :
    clampIndex length stop ≤ clampIndex length start := by
  have hstop : clampIndex length stop ≤ length := clampIndex_le stop
  have hstart : 0 ≤ clampIndex length start := clampIndex_nonneg start
  rcases hout with hout | rfl | rfl | ⟨hpos, hnonneg, hge⟩
  · rw [clampIndex_of_nonneg (show 0 ≤ start by omega)]
    omega
  · exact Int.le_refl _
  · rw [clampIndex_of_nonneg (Int.le_refl 0)]
    omega
  · rw [clampIndex_of_nonneg hnonneg, clampIndex_of_nonneg (Int.le_of_lt hpos)]
    omega

theorem pick_getD {start bound : Int} (stop : Option Int) (h : (runs.length : Int) ≤ bound) :
    pick runs start (stop.getD bound) = pick runs start (stop.getD runs.length) := by
  cases stop with
  | some stop => rfl
  | none =>
    have hclamp : clampIndex runs.length bound = clampIndex runs.length runs.length := by
      rw [clampIndex_of_nonneg (by omega), clampIndex_of_nonneg (by omega)]
      omega
    rw [Option.getD_none, Option.getD_none, pick, pick, hclamp]

theorem clusterEnds_of_nonneg (h : Kind.grapheme.Parts runs) (ht : t.chars = runs.flatten) {start stop : Int}
    (hstart : 0 ≤ start) (hlt : start < stop) :
    t.clusterEnds start stop t.length 0 0 (if start = 0 then 0 else t.length, t.length)
      = .ok (t.units.length (runs.take start.toNat).flatten, t.units.length (runs.take stop.toNat).flatten) := by
  have hlength : t.length = t.units.length runs.flatten := by rw [length, ht]
  have hstop : endOf t.units 0 0 runs stop t.length = t.units.length (runs.take stop.toNat).flatten := by
    rw [← endOf_start (show 0 ≤ stop by omega), if_neg (show ¬stop = 0 by omega), hlength]
  have ht' : t.chars = [] ++ runs.flatten := ht
  have hends := clusterEnds_eq h ht' (show runs.length ≤ t.length from length_le_rounds h ht') hlt
    (show 0 < stop by omega) (if start = 0 then 0 else t.length, t.length)
  dsimp only [Units.length] at hends
  rw [hstop] at hends
  rw [hlength] at hends ⊢
  rwa [endOf_start hstart] at hends

theorem clusterStops_eq (h : Kind.grapheme.Parts runs) (ht : t.chars = runs.flatten) :
    t.clusterStops = .ok (0 :: (Span.lay t.units 0 runs).map Span.stop) := by
  have hfold (spans : List Span) (stops : List Nat) :
      spans.foldl (fun stops s => stops ++ [s.stop]) stops = stops ++ spans.map Span.stop := by
    induction spans generalizing stops with
    | nil => rw [List.foldl_nil, List.map_nil, List.append_nil]
    | cons s spans ih => rw [List.foldl_cons, ih, List.map_cons, List.append_assoc, List.singleton_append]
  have ht' : t.chars = [] ++ runs.flatten := ht
  have hstops := overClusters_eq (fun stops _ stop => stops ++ [stop]) h ht' (length_le_rounds h ht') [0]
  rw [hfold] at hstops
  exact hstops

/-- Both ways of slicing pick the same clusters. -/
theorem graphemeSlice_eq (h : Kind.grapheme.Parts runs) (ht : t.chars = runs.flatten)
    (start stop : Option Int) :
    t.graphemeSlice start stop = .ok (pick runs (start.getD 0) (stop.getD runs.length)) := by
  have hle := runs_le_length h ht
  rw [← pick_getD stop hle, graphemeSlice]
  dsimp only
  generalize start.getD 0 = start
  generalize stop.getD (t.length : Int) = stop
  split
  case isTrue hout =>
    rw [pick_eq_nil (clampIndex_le_clampIndex hle hout)]
    rfl
  case isFalse hin =>
  split
  case isTrue hnonneg =>
    obtain ⟨hstart, hstop⟩ := hnonneg
    rw [clusterEnds_of_nonneg h ht hstart (by omega), ok_bind, pick_of_nonneg hstart hstop]
    exact congrArg Except.ok (part_eq ht _ _)
  case isFalse =>
    have hclusters : ((0 :: (Span.lay t.units 0 runs).map Span.stop).length : Int) - 1
        = runs.length := by
      rw [List.length_cons, List.length_map, Span.length_lay]
      omega
    have hend (index : Int) : (0 :: (Span.lay t.units 0 runs).map Span.stop).getD
        (clampIndex runs.length index).toNat 0
          = t.units.length (runs.take (clampIndex runs.length index).toNat).flatten := by
      have hindex : clampIndex runs.length index ≤ runs.length := clampIndex_le index
      rw [Span.getD_lay _ _ (by omega), Nat.zero_add]
    simp only [clusterStops_eq h ht, ok_bind, hclusters, hend, part_eq ht]
    split
    case isTrue hle => rw [pick_eq_nil hle]; rfl
    case isFalse => rfl

end Text
end TextBoundary
