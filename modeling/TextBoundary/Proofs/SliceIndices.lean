import TextBoundary.Proofs.ClusterSlice

namespace TextBoundary

section Select

variable {α : Type} {length index : Nat} {start stop : Option Int}

def fromFront (length : Nat) (index : Int) : Int := if index < 0 then index + length else index

/-- Whether a slice has the item with an index: it is not before `start` and before `stop`, where these are
given. -/
def Selects (length : Nat) (start stop : Option Int) (index : Nat) : Prop :=
  (∀ i ∈ start, fromFront length i ≤ index) ∧ ∀ j ∈ stop, index < fromFront length j

instance : Decidable (Selects length start stop index) := inferInstanceAs (Decidable (_ ∧ _))

def selected (items : List α) (start stop : Option Int) : List α :=
  (items.zipIdx.filter fun item => Selects items.length start stop item.2).map Prod.fst

theorem map_filter_zipIdx (items : List α) (first a b : Nat) :
    ((items.zipIdx first).filter fun item => a ≤ item.2 ∧ item.2 < b).map Prod.fst
      = (items.take (b - first)).drop (a - first) := by
  induction items generalizing first with
  | nil => simp
  | cons x items ih =>
    rw [List.zipIdx_cons, List.filter_cons]
    rcases Nat.lt_or_ge first b with hlt | hge
    · obtain ⟨more, hmore⟩ : ∃ more, b - first = more + 1 := ⟨b - (first + 1), by omega⟩
      have hrest : b - (first + 1) = more := by omega
      rw [hmore, List.take_succ_cons]
      rcases Nat.lt_or_ge first a with hbefore | hin
      · obtain ⟨skip, hskip⟩ : ∃ skip, a - first = skip + 1 := ⟨a - (first + 1), by omega⟩
        have hrest' : a - (first + 1) = skip := by omega
        rw [if_neg (by simp; omega), ih, hrest, hrest', hskip, List.drop_succ_cons]
      · have hnone : a - first = 0 := by omega
        have hnone' : a - (first + 1) = 0 := by omega
        rw [if_pos (by simp; omega), List.map_cons, ih, hrest, hnone, hnone', List.drop_zero, List.drop_zero]
    · have hnone : b - first = 0 := by omega
      have hnone' : b - (first + 1) = 0 := by omega
      rw [if_neg (by simp; omega), ih, hnone, hnone', List.take_zero, List.take_zero, List.drop_nil,
        List.drop_nil]

theorem selects_iff (h : index < length) :
    Selects length start stop index
      ↔ (Text.clampIndex length (start.getD 0)).toNat ≤ index
        ∧ index < (Text.clampIndex length (stop.getD length)).toNat := by
  refine and_congr ?_ ?_
  · cases start with
    | none =>
      simp only [Option.mem_def, reduceCtorEq, false_implies, implies_true, true_iff, Text.clampIndex,
        Option.getD_none]
      split <;> omega
    | some i =>
      simp only [Option.mem_def, Option.some.injEq, forall_eq', fromFront, Text.clampIndex, Option.getD_some]
      split <;> omega
  · cases stop with
    | none =>
      simp only [Option.mem_def, reduceCtorEq, false_implies, implies_true, true_iff, Text.clampIndex,
        Option.getD_none]
      split <;> omega
    | some j =>
      simp only [Option.mem_def, Option.some.injEq, forall_eq', fromFront, Text.clampIndex, Option.getD_some]
      split <;> omega

theorem selected_eq (items : List α) (start stop : Option Int) :
    selected items start stop
      = (items.take (Text.clampIndex items.length (stop.getD items.length)).toNat).drop
        (Text.clampIndex items.length (start.getD 0)).toNat := by
  rw [selected]
  have hfilter : (items.zipIdx.filter fun item => Selects items.length start stop item.2)
      = items.zipIdx.filter fun item =>
        (Text.clampIndex items.length (start.getD 0)).toNat ≤ item.2
          ∧ item.2 < (Text.clampIndex items.length (stop.getD items.length)).toNat :=
    List.filter_congr fun item hitem => decide_eq_decide.mpr (selects_iff (List.snd_lt_of_mem_zipIdx hitem))
  rw [hfilter, map_filter_zipIdx, Nat.sub_zero, Nat.sub_zero]

theorem pick_eq_selected (runs : List (List Char)) (start stop : Option Int) :
    Text.pick runs (start.getD 0) (stop.getD runs.length) = (selected runs start stop).flatten := by
  rw [selected_eq, Text.pick]

example : selected ["a", "b", "c", "d"] (some (-3)) (some 9) = ["b", "c", "d"] := by decide

end Select

/-- What would stop a slice that is worked out in integers of 64 bits. -/
inductive Trap
  | overflow
  | outOfRange
  | badCut
  | refused (error : TextError)

def least64 : Int := -9223372036854775808

def largest64 : Int := 9223372036854775807

def add64 (a b : Int) : Except Trap Int :=
  if least64 ≤ a + b ∧ a + b ≤ largest64 then .ok (a + b) else .error .overflow

def itemAt (items : List Nat) (index : Int) : Except Trap Nat :=
  if index < 0 then .error .outOfRange
  else
    match items[index.toNat]? with
    | some item => .ok item
    | none => .error .outOfRange

def clamp64 (length index : Int) : Except Trap Int :=
  if index < 0 then (add64 index length).map (max · 0) else .ok (min index length)

namespace Text

def cut (t : Text) (start stop : Nat) : Except Trap (List Char) :=
  if start ≤ stop ∧ t.isBoundary start ∧ t.isBoundary stop then .ok (t.slice start stop)
  else .error .badCut

def clusterEnds64 (start stop : Int) (t : Text) (rounds : Nat) (count : Int) (offset : Nat) (ends : Nat × Nat) :
    Except Trap (Nat × Nat) :=
  if t.length ≤ offset then .ok ends
  else
    match rounds with
    | 0 => .error (.refused (.fault .endless))
    | rounds + 1 => do
      let offset ← (t.breakFrom .grapheme offset).mapError .refused
      let count ← add64 count 1
      let first := if count = start then offset else ends.1
      if count = stop then return (first, offset)
      else clusterEnds64 start stop t rounds count offset (first, ends.2)

def scanned (t : Text) (start stop : Int) : Except Trap (List Char) := do
  let ends ← t.clusterEnds64 start stop t.length 0 0 (if start = 0 then 0 else t.length, t.length)
  if ends.2 ≤ ends.1 then return []
  else t.cut ends.1 ends.2

def collected (t : Text) (start stop : Int) : Except Trap (List Char) := do
  let boundaries ← t.clusterStops.mapError .refused
  let clusters := min (boundaries.length - 1 : Int) largest64
  let first ← clamp64 clusters start
  let last ← clamp64 clusters stop
  if last ≤ first then return []
  else t.cut (← itemAt boundaries first) (← itemAt boundaries last)

def Vacant (length start stop : Int) : Prop :=
  start > length ∨ start = stop ∨ stop = 0 ∨ (start > 0 ∧ stop ≥ 0 ∧ start ≥ stop)

instance (length start stop : Int) : Decidable (Vacant length start stop) :=
  inferInstanceAs (Decidable (_ ∨ _))

/-- The slice of `graphemeSlice`, in 64 bits. -/
def graphemeSlice64 (t : Text) (start stop : Option Int64) : Except Trap (List Char) := do
  let length := min (t.length : Int) largest64
  let start := (start.map Int64.toInt).getD 0
  let stop := (stop.map Int64.toInt).getD length
  let empty ← t.cut 0 0
  if Vacant length start stop then return empty
  else if start ≥ 0 ∧ stop ≥ 0 then t.scanned start stop
  else t.collected start stop

end Text

section Bits

theorem least64_le (index : Int64) : least64 ≤ index.toInt := index.le_toInt

variable {a b : Int}

theorem add64_eq (hlo : least64 ≤ a + b) (hhi : a + b ≤ largest64) : add64 a b = .ok (a + b) :=
  if_pos ⟨hlo, hhi⟩

theorem itemAt_eq {items : List Nat} {index : Int} (h : 0 ≤ index) (hlt : index.toNat < items.length) :
    itemAt items index = .ok (items.getD index.toNat 0) := by
  rw [itemAt, if_neg (Int.not_lt.mpr h), List.getD_eq_getElem?_getD, List.getElem?_eq_getElem hlt]
  rfl

theorem clamp64_eq {length : Nat} {index : Int} (hlength : (length : Int) ≤ largest64)
    (hindex : least64 ≤ index) : clamp64 length index = .ok (Text.clampIndex length index) := by
  rw [clamp64, Text.clampIndex]
  split
  case isTrue hneg =>
    rw [add64_eq (by omega) (by omega)]
    rfl
  case isFalse => rfl

end Bits

namespace Text

variable {units : Units} {runs : List (List Char)} {t : Text} {start stop : Int}

theorem cut_eq (ht : t.chars = runs.flatten) {a b : Nat} (h : a ≤ b) :
    t.cut (t.units.length (runs.take a).flatten) (t.units.length (runs.take b).flatten)
      = .ok ((runs.take b).drop a).flatten := by
  rw [cut, if_pos ⟨length_take_le_length_take t.units h, isBoundary_take ht a, isBoundary_take ht b⟩,
    slice_take ht h]

theorem clusterEnds64_eq (start stop : Int) (t : Text) {rounds : Nat} {count : Int} (h : 0 ≤ count)
    (hfits : count + rounds ≤ largest64) (offset : Nat) (ends : Nat × Nat) :
    t.clusterEnds64 start stop rounds count offset ends
      = (t.clusterEnds start stop rounds count offset ends).mapError .refused := by
  induction rounds generalizing count offset ends with
  | zero =>
    rw [clusterEnds64.eq_def, clusterEnds.eq_def]
    split <;> rfl
  | succ rounds ih =>
    rw [clusterEnds64, clusterEnds]
    split
    case isTrue => rfl
    case isFalse =>
    cases t.breakFrom .grapheme offset with
    | error e => rfl
    | ok offset =>
      have hleast : least64 ≤ 0 := by decide
      have hcount := add64_eq (a := count) (b := 1) (by omega) (by omega)
      rw [Except.mapError, ok_bind, ok_bind, hcount, ok_bind]
      by_cases hdone : count + 1 = stop
      · simp only [hdone, ↓reduceIte]
        rfl
      · simp only [hdone, ↓reduceIte]
        exact ih (by omega) (by omega) _ _

theorem scanned_eq (h : Kind.grapheme.Parts runs) (ht : t.chars = runs.flatten)
    (hfits : (t.length : Int) ≤ largest64) (hstart : 0 ≤ start) (hlt : start < stop) :
    t.scanned start stop = .ok (pick runs start stop) := by
  have hpart := part_eq ht start.toNat stop.toNat
  have hcut := cut_eq ht (show start.toNat ≤ stop.toNat by omega)
  rw [scanned, clusterEnds64_eq _ _ _ (Int.le_refl 0) (by omega), clusterEnds_of_nonneg h ht hstart hlt,
    pick_of_nonneg hstart (by omega), Except.mapError, ok_bind]
  dsimp only
  split
  case isTrue hle =>
    rw [part, if_pos hle] at hpart
    exact congrArg Except.ok hpart
  case isFalse => exact hcut

theorem collected_eq (h : Kind.grapheme.Parts runs) (ht : t.chars = runs.flatten)
    (hfits : (t.length : Int) ≤ largest64) (hstart : least64 ≤ start) (hstop : least64 ≤ stop) :
    t.collected start stop = .ok (pick runs start stop) := by
  have hle := runs_le_length h ht
  have hclusters : min (((0 :: (Span.lay t.units 0 runs).map Span.stop).length : Int) - 1) largest64
      = runs.length := by
    rw [List.length_cons, List.length_map, Span.length_lay]
    omega
  have hitem {index : Int} : itemAt (0 :: (Span.lay t.units 0 runs).map Span.stop)
      (clampIndex runs.length index)
        = .ok (t.units.length (runs.take (clampIndex runs.length index).toNat).flatten) := by
    have hhi : clampIndex runs.length index ≤ runs.length := clampIndex_le index
    rw [itemAt_eq (clampIndex_nonneg index), Span.getD_lay _ _ (by omega), Nat.zero_add]
    rw [List.length_cons, List.length_map, Span.length_lay]
    omega
  have hfirst : clamp64 runs.length start = .ok (clampIndex runs.length start) :=
    clamp64_eq (by omega) hstart
  have hlast : clamp64 runs.length stop = .ok (clampIndex runs.length stop) :=
    clamp64_eq (by omega) hstop
  rw [collected, clusterStops_eq h ht, Except.mapError, ok_bind]
  dsimp only
  rw [hclusters, hfirst, ok_bind, hlast, ok_bind]
  split
  case isTrue hle =>
    rw [pick_eq_nil hle]
    rfl
  case isFalse hlt =>
    rw [hitem, ok_bind, hitem, ok_bind, cut_eq ht (by omega), pick]

theorem pick_of_vacant (h : Kind.grapheme.Parts runs) (ht : t.chars = runs.flatten)
    (hvacant : Vacant t.length start stop) : pick runs start stop = [] :=
  pick_eq_nil (clampIndex_le_clampIndex (runs_le_length h ht) hvacant)

theorem graphemeSlice64_eq (h : Kind.grapheme.Parts runs) (ht : t.chars = runs.flatten)
    (hfits : (t.length : Int) ≤ largest64) (start stop : Option Int64) :
    t.graphemeSlice64 start stop = .ok (pick runs ((start.map Int64.toInt).getD 0)
      ((stop.map Int64.toInt).getD runs.length)) := by
  have hle := runs_le_length h ht
  have hempty : t.cut 0 0 = .ok [] := cut_eq ht (Nat.le_refl 0)
  have hlo (index : Option Int64) (default : Nat) :
      least64 ≤ (index.map Int64.toInt).getD default := by
    cases index with
    | none => exact Int.le_trans (by decide) (Int.natCast_nonneg default)
    | some index => exact least64_le index
  rw [← pick_getD _ hle, graphemeSlice64]
  rw [Int.min_eq_left hfits, hempty, ok_bind]
  have hstart := hlo start 0
  have hstop := hlo stop t.length
  generalize (start.map Int64.toInt).getD 0 = start at hstart ⊢
  generalize (stop.map Int64.toInt).getD (t.length : Int) = stop at hstop ⊢
  split
  case isTrue hvacant =>
    rw [pick_of_vacant h ht hvacant]
    rfl
  case isFalse hin =>
  split
  case isTrue hnonneg =>
    rw [Vacant] at hin
    exact scanned_eq h ht hfits hnonneg.1 (by omega)
  case isFalse => exact collected_eq h ht hfits hstart hstop

/-- A slice has the clusters that Python would give it. In 64 bits, too, all ways to it give these, and none
of them is stopped, for every text with a length that is such an integer, as that of a text in memory is. -/
theorem slices_are_selections (t : Text) :
    ∃ clusters, (t.graphemes 0).map (List.map Span.chars) = .ok clusters ∧ clusters.flatten = t.chars
      ∧ (∀ start stop : Option Int,
        t.graphemeSlice start stop = .ok (selected clusters start stop).flatten)
      ∧ ((t.length : Int) ≤ largest64 →
        (∀ start stop : Option Int64, t.graphemeSlice64 start stop
          = .ok (selected clusters (start.map Int64.toInt) (stop.map Int64.toInt)).flatten)
        ∧ ∀ start stop : Int64,
          (Vacant t.length start.toInt stop.toInt →
            (selected clusters (some start.toInt) (some stop.toInt)).flatten = [])
          ∧ (0 ≤ start.toInt → start.toInt < stop.toInt → t.scanned start.toInt stop.toInt
            = .ok (selected clusters (some start.toInt) (some stop.toInt)).flatten)
          ∧ t.collected start.toInt stop.toInt
            = .ok (selected clusters (some start.toInt) (some stop.toInt)).flatten) := by
  obtain ⟨runs, h, hruns⟩ := Kind.grapheme.exists_parts t.chars
  have hgraphemes : t.graphemes 0 = .ok (Span.lay t.units 0 runs) :=
    graphemes_eq (show t.chars = [] ++ runs.flatten from hruns.symm) h
  have hclusters : (t.graphemes 0).map (List.map Span.chars) = .ok runs := by
    rw [hgraphemes, Except.map, Span.map_chars_lay]
  refine ⟨runs, hclusters, hruns, fun start stop => ?_, fun hfits => ⟨fun start stop => ?_,
    fun start stop => ?_⟩⟩
  · rw [graphemeSlice_eq h hruns.symm, pick_eq_selected]
  · rw [graphemeSlice64_eq h hruns.symm hfits, pick_eq_selected]
  · rw [← pick_eq_selected runs (some start.toInt) (some stop.toInt)]
    exact ⟨pick_of_vacant h hruns.symm, scanned_eq h hruns.symm hfits,
      collected_eq h hruns.symm hfits (least64_le start) (least64_le stop)⟩

theorem all_but_the_last_cluster :
    let t : Text := ⟨.bytes, ['e', '\u0301', '\r', '\n', 'x']⟩
    (t.length : Int) ≤ largest64
      ∧ t.graphemeSlice64 (some Int64.minValue) (some (-1)) = .ok ['e', '\u0301', '\r', '\n'] := by
  intro t
  have hfits : (t.length : Int) ≤ largest64 := by decide
  obtain ⟨clusters, hclusters, -, -, h64⟩ := slices_are_selections t
  obtain rfl : [['e', '\u0301'], ['\r', '\n'], ['x']] = clusters :=
    Except.ok.inj (Eq.trans (by decide +kernel) hclusters)
  exact ⟨hfits, ((h64 hfits).1 _ _).trans (congrArg Except.ok (by decide +kernel))⟩

end Text
end TextBoundary
