import TextBoundary.Segment
import TextBoundary.Proofs.Positions
import TextBoundary.Proofs.GraphemeBoundaries
import TextBoundary.Proofs.SentenceBoundaries
import TextBoundary.Proofs.WordBoundaries

/-! The segments of a text as runs of its characters. A scan takes the same run wherever its characters
stand, whatever their units are and whatever was before them, so that the runs alone tell what every
listing of segments gives. -/

namespace TextBoundary

variable {kind : Kind} {units : Units} {run rest before : List Char} {runs : List (List Char)}

theorem Segment.unique {split : List Char → List Char → Bool} {back ahead more other : List Char}
    (h : Segment split back ahead run rest) (h' : Segment split back ahead more other) :
    run = more ∧ rest = other := by
  -- of two runs the longer one would have the split inside that ends the shorter one
  have hstop : ∀ {run rest more other w : List Char}, Segment split back ahead run rest →
      Segment split back ahead more other → more = run ++ w → rest = w ++ other → w = [] := by
    intro run rest more other w h h' hmore hrest
    by_contra hw
    have hrun : run ≠ [] := h.ne_nil (by rw [h.ahead_eq, hrest]; simp [hw])
    have hsplit := h.ends.resolve_left (by rw [hrest]; simp [hw])
    rw [hrest, h'.joined run w hmore hrun hw] at hsplit
    exact Bool.noConfusion hsplit
  rcases List.append_eq_append_iff.mp (h.ahead_eq.symm.trans h'.ahead_eq) with
    ⟨w, hmore, hrest⟩ | ⟨w, hrun, hother⟩
  · obtain rfl := hstop h h' hmore hrest
    exact ⟨by simpa using hmore.symm, hrest⟩
  · obtain rfl := hstop h' h hrun hother
    exact ⟨by simpa using hrun, hother.symm⟩

namespace Kind

theorem exists_delimits (kind : Kind) : ∃ split barrier, kind.Delimits split barrier := by
  cases kind with
  | grapheme => exact ⟨_, _, Break.Grapheme.delimits⟩
  | word => exact ⟨_, _, Break.Word.delimits⟩
  | sentence => exact ⟨_, _, Break.Sentence.delimits⟩

/-- A scan of `run` and what is behind it takes `run`. -/
structure Leads (kind : Kind) (run rest : List Char) : Prop where
  ne_nil : run ≠ []
  find {units : Units} {length offset : Nat} (h : length = offset + units.length (run ++ rest)) :
    ∃ d : Cursor kind units, (Cursor.before length offset (run ++ rest)).find = .ok d
      ∧ d.position = offset + units.length run ∧ d.ahead = rest

theorem exists_leads (kind : Kind) {ahead : List Char} (h : ahead ≠ []) :
    ∃ run rest, ahead = run ++ rest ∧ kind.Leads run rest := by
  obtain ⟨split, barrier, D⟩ := kind.exists_delimits
  obtain ⟨d, run, -, -, hseg⟩ :=
    D.find_spec (show Units.codePoints.length ahead = 0 + _ from (Nat.zero_add _).symm)
  refine ⟨run, d.ahead, hseg.ahead_eq, hseg.ne_nil h, fun hlength => ?_⟩
  rw [← hseg.ahead_eq] at hlength ⊢
  obtain ⟨e, more, he, hposition, hsegment⟩ := D.find_spec hlength
  obtain ⟨rfl, hrest⟩ := hseg.unique hsegment
  exact ⟨e, he, hposition, hrest.symm⟩

/-- The runs that scans take one after the other. -/
inductive Parts (kind : Kind) : List (List Char) → Prop
  | nil : Parts kind []
  | cons {run : List Char} {runs : List (List Char)} : kind.Leads run runs.flatten →
      Parts kind runs → Parts kind (run :: runs)

theorem exists_parts (kind : Kind) (ahead : List Char) :
    ∃ runs, kind.Parts runs ∧ runs.flatten = ahead := by
  induction hn : ahead.length using Nat.strongRecOn generalizing ahead with
  | _ n ih =>
  by_cases hnil : ahead = []
  · exact ⟨[], .nil, hnil.symm⟩
  obtain ⟨run, rest, rfl, hleads⟩ := kind.exists_leads hnil
  have hpos := List.length_pos_of_ne_nil hleads.ne_nil
  obtain ⟨runs, hparts, rfl⟩ := ih rest.length (by rw [← hn, List.length_append]; omega) rest rfl
  exact ⟨run :: runs, .cons hleads hparts, rfl⟩

theorem Parts.ne_nil (h : kind.Parts runs) : ∀ run ∈ runs, run ≠ [] := by
  induction h with
  | nil => exact fun run hrun => nomatch hrun
  | cons hleads _ ih => exact List.forall_mem_cons.mpr ⟨hleads.ne_nil, ih⟩

theorem Parts.length_le (h : kind.Parts runs) : runs.length ≤ runs.flatten.length := by
  induction h with
  | nil => exact Nat.le_refl _
  | cons hleads _ ih =>
    have := List.length_pos_of_ne_nil hleads.ne_nil
    simp only [List.flatten_cons, List.length_cons, List.length_append]
    omega

theorem Parts.length_le_units (h : kind.Parts runs) (units : Units) :
    runs.length ≤ units.length runs.flatten :=
  Nat.le_trans h.length_le (units.length_le _)

end Kind

namespace Span

def lay (units : Units) : Nat → List (List Char) → List Span
  | _, [] => []
  | offset, run :: runs =>
    ⟨offset, offset + units.length run, run⟩ :: lay units (offset + units.length run) runs

@[simp] theorem length_lay (offset : Nat) : (lay units offset runs).length = runs.length := by
  induction runs generalizing offset with
  | nil => rfl
  | cons run runs ih => simp [lay, ih]

@[simp] theorem map_chars_lay (offset : Nat) : (lay units offset runs).map chars = runs := by
  induction runs generalizing offset with
  | nil => rfl
  | cons run runs ih => simp [lay, ih]

theorem mem_lay {s : Span} (h : s ∈ lay units (units.length before) runs) :
    ∃ u v, before ++ runs.flatten = u ++ (s.chars ++ v) ∧ s.chars ∈ runs
      ∧ s.start = units.length u ∧ s.stop = units.length (u ++ s.chars) := by
  induction runs generalizing before with
  | nil => exact nomatch h
  | cons run runs ih =>
    rw [lay, List.mem_cons, ← Units.length_append] at h
    rcases h with rfl | h
    · exact ⟨before, runs.flatten, by simp, .head _, rfl, rfl⟩
    · obtain ⟨u, v, heq, hmem, hstart, hstop⟩ := ih h
      exact ⟨u, v, by simpa using heq, .tail _ hmem, hstart, hstop⟩

theorem tile_eq (h : kind.Parts runs) {length offset rounds : Nat}
    (hlength : length = offset + units.length runs.flatten) (hr : runs.length ≤ rounds) :
    tile kind units length rounds offset runs.flatten = .ok (lay units offset runs) := by
  induction h generalizing offset rounds with
  | nil => rw [tile.eq_def, if_pos (show length ≤ offset from Nat.le_of_eq hlength), lay]
  | @cons run runs hleads hparts ih =>
    obtain ⟨rounds, rfl⟩ := Nat.exists_eq_add_of_le' (Nat.lt_of_lt_of_le (Nat.succ_pos _) hr)
    rw [List.flatten_cons] at hlength ⊢
    obtain ⟨d, hd, hposition, hahead⟩ := hleads.find hlength
    have hpos : 0 < units.length run :=
      Nat.pos_of_ne_zero (mt Units.length_eq_zero.mp hleads.ne_nil)
    rw [Units.length_append] at hlength
    rw [tile, if_neg (by omega), hd, ok_bind, hposition, hahead,
      ih (by omega) (Nat.le_of_succ_le_succ hr), ok_bind, Nat.add_sub_cancel_left,
      Units.take_length_append]
    rfl

end Span

namespace Text

variable {t : Text}

theorem lt_length_of_leads (h : kind.Leads run rest) (ht : t.chars = before ++ (run ++ rest)) :
    t.units.length before < t.length := by
  have hpos : 0 < t.units.length run := Nat.pos_of_ne_zero (mt Units.length_eq_zero.mp h.ne_nil)
  rw [length_eq ht, Units.length_append]
  omega

theorem length_le_rounds (h : kind.Parts runs) (ht : t.chars = before ++ runs.flatten) :
    runs.length ≤ t.length - t.units.length before := by
  have := h.length_le_units t.units
  have := length_eq ht
  omega

theorem tiles_eq (h : kind.Parts runs) (ht : t.chars = before ++ runs.flatten) :
    t.tiles kind (t.units.length before) = .ok (Span.lay t.units (t.units.length before) runs) := by
  have hlength := length_eq ht
  have hrounds : t.length - t.units.length before = t.units.length runs.flatten := by omega
  rw [tiles, suffix?_eq ht, Option.getD_some, hrounds,
    Span.tile_eq h hlength (h.length_le_units t.units)]
  rfl

theorem breakFrom_parts (h : kind.Parts runs) (ht : t.chars = before ++ runs.flatten) :
    t.breakFrom kind (t.units.length before) = .ok (t.units.length (before ++ runs.headD [])) := by
  have hlength := length_eq ht
  cases h with
  | nil =>
    have hready : (Cursor.before t.length (t.units.length before) [] : Cursor kind t.units).Ready :=
      .before _ _ _ hlength
    rw [breakFrom_eq ht (Cursor.scan_atEnd hready rfl), List.headD_nil, List.append_nil]
    rfl
  | cons hleads _ =>
    obtain ⟨d, hd, hposition, -⟩ := hleads.find hlength
    rw [breakFrom_eq ht hd, hposition, List.headD_cons, Units.length_append]

theorem nextBreak_parts (h : kind.Parts runs) (ht : t.chars = before ++ runs.flatten) :
    t.nextBreak kind (t.units.length before) = .ok (t.units.length (before ++ runs.headD [])) := by
  rw [nextBreak, checkOffset_eq ht]
  exact breakFrom_parts h ht

theorem walk_parts (h : kind.Parts runs) (ht : t.chars = before ++ runs.flatten) :
    t.Walk kind (t.units.length before)
      ((Span.lay t.units (t.units.length before) runs).map Span.stop) := by
  induction h generalizing before with
  | nil => exact .finish (Nat.le_of_eq (length_eq ht))
  | @cons run runs hleads hparts ih =>
    rw [List.flatten_cons] at ht
    rw [Span.lay, List.map_cons, ← Units.length_append]
    exact .step (lt_length_of_leads hleads ht) (nextBreak_parts (hparts.cons hleads) ht)
      (ih (by rw [ht, List.append_assoc]))

theorem breaks_parts (h : kind.Parts runs) (ht : t.chars = before ++ runs.flatten) :
    t.breaks kind (t.units.length before)
      = .ok ((Span.lay t.units (t.units.length before) runs).map Span.stop) := by
  obtain ⟨split, barrier, D⟩ := kind.exists_delimits
  exact D.breaks_spec ht (walk_parts h ht)

end Text
end TextBoundary
