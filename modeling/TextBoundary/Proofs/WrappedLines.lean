import Mathlib.Data.List.Chain
import Mathlib.Data.List.Infix
import TextBoundary.Listing.Plain

namespace TextBoundary.Listing

structure Cut (items : List String) (blocks : List (List String)) : Prop where
  flatten_eq : blocks.flatten = items
  ne_nil : ∀ block ∈ blocks, block ≠ []

def line (block : List String) : String := " ".intercalate block

def Fits (width : Nat) (block : List String) : Prop := (line block).length ≤ width ∨ block.length = 1

/-- A block that has no room for the first item of the next one. -/
def Full (width : Nat) (block next : List String) : Prop :=
  ∃ item, next.head? = some item ∧ width < (line (block ++ [item])).length

/-- What filling lines one after the other comes to. -/
structure Filled (width : Nat) (items : List String) (blocks : List (List String)) : Prop where
  cut : Cut items blocks
  fits : ∀ block ∈ blocks, Fits width block
  full : blocks.IsChain (Full width)

variable {width : Nat} {item : String} {items block part : List String} {blocks others : List (List String)}

theorem Cut.cons (hne : block ≠ []) (h : Cut items blocks) : Cut (block ++ items) (block :: blocks) where
  flatten_eq := by simp [h.flatten_eq]
  ne_nil := List.forall_mem_cons.mpr ⟨hne, h.ne_nil⟩

theorem Cut.head?_head? (h : Cut (item :: items) blocks) : ∀ first ∈ blocks.head?, first.head? = some item := by
  intro first hfirst
  obtain ⟨rest, rfl⟩ := List.head?_eq_some_iff.mp hfirst
  cases first with
  | nil => exact absurd rfl (h.ne_nil [] (.head _))
  | cons other first =>
    have heq := List.head_eq_of_cons_eq h.flatten_eq
    exact congrArg some heq

@[simp] theorem line_singleton (item : String) : line [item] = item := String.intercalate_singleton

theorem line_append (hblock : block ≠ []) (hpart : part ≠ []) :
    line (block ++ part) = line block ++ " " ++ line part := String.intercalate_append_of_ne_nil hblock hpart

theorem length_line_append (hblock : block ≠ []) (hpart : part ≠ []) :
    (line (block ++ part)).length = (line block).length + 1 + (line part).length := by
  rw [line_append hblock hpart, String.length_append, String.length_append]
  rfl

theorem length_line_le (hne : part ≠ []) (h : part <:+: block) : (line part).length ≤ (line block).length := by
  obtain ⟨front, back, rfl⟩ := h
  have hback : (line part).length ≤ (line (part ++ back)).length := by
    by_cases hnil : back = []
    · simp [hnil]
    · rw [length_line_append hne hnil]
      omega
  have hfront : (line (part ++ back)).length ≤ (line (front ++ (part ++ back))).length := by
    by_cases hnil : front = []
    · simp [hnil]
    · rw [length_line_append hnil (by simp [hne])]
      omega
  rw [List.append_assoc]
  exact hback.trans hfront

theorem Fits.inside (hblock : Fits width block) (h : part <:+: block) (hne : part ≠ []) : Fits width part := by
  cases hblock with
  | inl hwidth => exact .inl ((length_line_le hne h).trans hwidth)
  | inr hone =>
    have hle := h.length_le
    have hpos := List.length_pos_of_ne_nil hne
    exact .inr (by omega)

theorem not_fits_of_wide (hne : block ≠ []) (h : width < (line (block ++ [item])).length) :
    ¬Fits width (block ++ [item]) := by
  intro hfits
  have hpos := List.length_pos_of_ne_nil hne
  cases hfits with
  | inl hwidth => omega
  | inr hone =>
    simp only [List.length_append, List.length_singleton] at hone
    omega

theorem suffix_of_full {other rest back : List String} (hfull : ¬Fits width (block ++ [item]))
    (hother : Fits width other) (h : block ++ item :: rest <:+ other ++ back) : item :: rest <:+ back := by
  have hrest : item :: rest <:+ other ++ back := (List.suffix_append _ _).trans h
  cases List.suffix_or_suffix_of_suffix hrest (List.suffix_append other back) with
  | inl hback => exact hback
  | inr hback =>
    cases List.suffix_cons_iff.mp hback with
    | inl heq => exact heq ▸ List.suffix_refl _
    | inr hinside =>
      -- then the other block would hold this one and the item behind it
      obtain ⟨middle, rfl⟩ := hinside
      have hheld : (block ++ [item]) ++ middle <:+ other := by
        apply List.suffix_append_self_iff.mp
        simpa using h
      have hpart : block ++ [item] <:+: other := (List.prefix_append _ middle).isInfix.trans hheld.isInfix
      exact absurd (hother.inside hpart (by simp)) hfull

theorem length_le_of_full (hblocks : ∀ block ∈ blocks, block ≠ []) (hfull : blocks.IsChain (Full width))
    (hothers : ∀ other ∈ others, Fits width other) (h : blocks.flatten <:+ others.flatten) :
    blocks.length ≤ others.length := by
  induction others generalizing blocks with
  | nil =>
    have hnil : ∀ block ∈ blocks, block = [] := List.flatten_eq_nil_iff.mp (List.suffix_nil.mp h)
    cases blocks with
    | nil => exact Nat.le_refl 0
    | cons block blocks => exact absurd (hnil block (.head _)) (hblocks block (.head _))
  | cons other others ih =>
    obtain ⟨hother, hothers⟩ := List.forall_mem_cons.mp hothers
    cases blocks with
    | nil => exact Nat.zero_le _
    | cons block blocks =>
      obtain ⟨hblock, hblocks⟩ := List.forall_mem_cons.mp hblocks
      apply Nat.succ_le_succ
      apply ih hblocks hfull.tail hothers
      cases blocks with
      | nil => exact List.nil_suffix
      | cons next blocks =>
        obtain ⟨item, hitem, hwide⟩ := (List.isChain_cons_cons.mp hfull).1
        obtain ⟨rest, rfl⟩ := List.head?_eq_some_iff.mp hitem
        exact suffix_of_full (not_fits_of_wide hblock hwide) hother h

theorem toList_line_ne_nil (hblock : ∀ item ∈ block, item ≠ "") (hne : block ≠ []) : (line block).toList ≠ [] := by
  cases block with
  | nil => exact absurd rfl hne
  | cons item block =>
    have hitem : item ≠ "" := hblock item (.head _)
    cases block with
    | nil => simpa using hitem
    | cons next block => simp [line]

theorem extend_line (hblock : ∀ item ∈ block, item ≠ "") (item : String) :
    extend (line block).toList item.toList = (line (block ++ [item])).toList := by
  by_cases hne : block = []
  · subst hne
    simp [extend, line]
  · rw [extend, if_neg (toList_line_ne_nil hblock hne), line_append hne (List.cons_ne_nil _ _)]
    simp

theorem overfull_iff (hblock : ∀ item ∈ block, item ≠ "") (item : String) :
    ((line block).toList ≠ [] ∧ width < (line block).toList.length + 1 + item.toList.length)
      ↔ block ≠ [] ∧ width < (line (block ++ [item])).length := by
  by_cases hne : block = []
  · simp [hne, line]
  · have hline := toList_line_ne_nil hblock hne
    simp only [hne, hline, ne_eq, not_false_eq_true, true_and, length_line_append hne, List.cons_ne_nil, line_singleton,
      String.length_toList]

theorem exists_filled (width : Nat) (hitems : ∀ item ∈ block ++ items, item ≠ "")
    (hfits : block ≠ [] → Fits width block) :
    ∃ blocks, fill width (line block).toList (items.map String.toList) = blocks.map (fun b => (line b).toList)
      ∧ Filled width (block ++ items) blocks := by
  induction items generalizing block with
  | nil =>
    rw [List.append_nil] at hitems ⊢
    by_cases hne : block = []
    · subst hne
      exact ⟨[], rfl, ⟨rfl, List.forall_mem_nil _⟩, List.forall_mem_nil _, .nil⟩
    · refine ⟨[block], ?_, ⟨by simp, by simpa using hne⟩, by simpa using hfits hne, .singleton _⟩
      rw [List.map_nil, fill, if_neg (toList_line_ne_nil hitems hne)]
      rfl
  | cons item items ih =>
    have hblock : ∀ item ∈ block, item ≠ "" := fun item h => hitems item (List.mem_append_left _ h)
    rw [List.map_cons, fill]
    simp only [overfull_iff hblock item]
    by_cases hwide : block ≠ [] ∧ width < (line (block ++ [item])).length
    · rw [if_pos hwide]
      have hrest : ∀ i ∈ [item] ++ items, i ≠ "" := fun i h => hitems i (List.mem_append_right _ h)
      obtain ⟨blocks, heq, hfilled⟩ := ih hrest fun _ => .inr rfl
      rw [line_singleton] at heq
      refine ⟨block :: blocks, congrArg _ heq, hfilled.cut.cons hwide.1,
        List.forall_mem_cons.mpr ⟨hfits hwide.1, hfilled.fits⟩, ?_⟩
      exact hfilled.full.cons fun next hnext => ⟨item, hfilled.cut.head?_head? next hnext, hwide.2⟩
    · rw [if_neg hwide, extend_line hblock, List.append_cons block item items]
      apply ih
      · simpa using hitems
      · intro
        by_cases hne : block = []
        · exact .inr (by simp [hne])
        · exact .inl (Nat.not_lt.mp (not_and.mp hwide hne))

theorem line_lines (h : ∀ block ∈ blocks, block ≠ []) : line (blocks.map line) = line blocks.flatten := by
  induction blocks with
  | nil => rfl
  | cons block blocks ih =>
    obtain ⟨hblock, hblocks⟩ := List.forall_mem_cons.mp h
    cases blocks with
    | nil => simp
    | cons next blocks =>
      have hnext : next ≠ [] := hblocks next (.head _)
      calc
        line (line block :: (next :: blocks).map line)
          = line ([line block] ++ (next :: blocks).map line) := rfl
        _ = line [line block] ++ " " ++ line ((next :: blocks).map line) :=
            line_append (List.cons_ne_nil _ _) (List.cons_ne_nil _ _)
        _ = line block ++ " " ++ line (next :: blocks).flatten := by rw [line_singleton, ih hblocks]
        _ = line (block ++ (next :: blocks).flatten) := (line_append hblock (by simp [hnext])).symm

/-- Wrapping cuts the items into lines with none lost, none too wide that could be less so, and each full before the
next one begins; every other way to do this takes as many lines or more. -/
theorem lines_are_full_and_few (width : Nat) (items : List String) (h : ∀ item ∈ items, item ≠ "") :
    ∃ blocks, Cut items blocks ∧ wrap items width = blocks.map line ∧ line (wrap items width) = line items
      ∧ (∀ block ∈ blocks, Fits width block)
      ∧ blocks.IsChain (Full width)
      ∧ ∀ others, Cut items others → (∀ other ∈ others, Fits width other) →
        (wrap items width).length ≤ others.length := by
  have hitems : ∀ item ∈ [] ++ items, item ≠ "" := h
  obtain ⟨blocks, hfill, hfilled⟩ := exists_filled width hitems (absurd rfl)
  have hwrap : wrap items width = blocks.map line := by
    have hfill : fill width [] (items.map String.toList) = blocks.map (fun b => (line b).toList) := hfill
    simp [wrap, hfill]
  refine ⟨blocks, hfilled.cut, hwrap, ?_, hfilled.fits, hfilled.full, ?_⟩
  · rw [hwrap, line_lines hfilled.cut.ne_nil, hfilled.cut.flatten_eq]
    rfl
  · intro others hcut hfits
    rw [hwrap, List.length_map]
    apply length_le_of_full hfilled.cut.ne_nil hfilled.full hfits
    rw [hfilled.cut.flatten_eq, hcut.flatten_eq]
    exact List.suffix_refl _

theorem three_lines_and_no_fewer : (∀ item ∈ ["a b", "😀", "ccccccc", "d"], item ≠ "")
    ∧ wrap ["a b", "😀", "ccccccc", "d"] 5 = ["a b 😀", "ccccccc", "d"]
    ∧ ∀ others, Cut ["a b", "😀", "ccccccc", "d"] others → (∀ other ∈ others, Fits 5 other) → 3 ≤ others.length := by
  have hitems : ∀ item ∈ ["a b", "😀", "ccccccc", "d"], item ≠ "" := by decide
  obtain ⟨blocks, -, -, -, -, -, hfew⟩ := lines_are_full_and_few 5 _ hitems
  have hwrap : wrap ["a b", "😀", "ccccccc", "d"] 5 = ["a b 😀", "ccccccc", "d"] := by decide +kernel
  rw [hwrap] at hfew
  exact ⟨hitems, hwrap, hfew⟩

end TextBoundary.Listing
