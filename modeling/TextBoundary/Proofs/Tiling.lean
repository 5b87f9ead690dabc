import TextBoundary.Proofs.Parts

namespace TextBoundary

variable {kind : Kind} {units : Units} {before : List Char} {runs : List (List Char)}

namespace Span

theorem isChain_lay (h : ∀ run ∈ runs, run ≠ []) (offset : Nat) :
    (offset :: (lay units offset runs).map stop).IsChain (· < ·) := by
  induction runs generalizing offset with
  | nil => exact .singleton offset
  | cons run runs ih =>
    obtain ⟨hrun, hruns⟩ := List.forall_mem_cons.mp h
    have hpos : 0 < units.length run := Nat.pos_of_ne_zero (mt Units.length_eq_zero.mp hrun)
    exact .cons_cons (Nat.lt_add_of_pos_right hpos) (ih hruns _)

theorem getLast_lay (offset : Nat) :
    (offset :: (lay units offset runs).map stop).getLast (List.cons_ne_nil _ _)
      = offset + units.length runs.flatten := by
  induction runs generalizing offset with
  | nil => rfl
  | cons run runs ih =>
    simp only [lay, List.map_cons, List.flatten_cons, Units.length_append]
    rw [List.getLast_cons_cons, ih, Nat.add_assoc]

end Span

namespace Text

variable {t : Text} {offset : Nat}

theorem isBoundary_of_mem_lay {s : Span} (ht : t.chars = before ++ runs.flatten)
    (h : s ∈ Span.lay t.units (t.units.length before) runs) :
    t.isBoundary s.start ∧ t.isBoundary s.stop := by
  obtain ⟨u, v, heq, -, hstart, hstop⟩ := Span.mem_lay h
  rw [heq] at ht
  rw [hstart, hstop]
  exact ⟨isBoundary_eq ht, isBoundary_eq (by rw [ht, List.append_assoc])⟩

def pieces (t : Text) : Nat → List Nat → List (List Char)
  | _, [] => []
  | start, stop :: stops => t.slice start stop :: t.pieces stop stops

theorem pieces_lay (ht : t.chars = before ++ runs.flatten) :
    t.pieces (t.units.length before)
      ((Span.lay t.units (t.units.length before) runs).map Span.stop) = runs := by
  induction runs generalizing before with
  | nil => rfl
  | cons run runs ih =>
    rw [List.flatten_cons] at ht
    rw [Span.lay, List.map_cons, pieces, ← Units.length_append, slice_eq ht,
      ih (by rw [ht, List.append_assoc])]

theorem nextBreak_progress (kind : Kind) (h : t.isBoundary offset) :
    ∃ b, t.nextBreak kind offset = .ok b ∧ t.isBoundary b ∧ b ≤ t.length
      ∧ (offset < t.length → offset < b) ∧ (offset = t.length → b = offset) := by
  obtain ⟨before, after, ht, rfl⟩ := exists_cut h
  obtain ⟨runs, hparts, rfl⟩ := kind.exists_parts after
  have hlength := length_eq ht
  refine ⟨_, nextBreak_parts hparts ht, ?_⟩
  cases hparts with
  | nil =>
    rw [List.headD_nil, List.append_nil]
    rw [List.flatten_nil, Units.length] at hlength
    exact ⟨h, by omega, by omega, fun _ => rfl⟩
  | @cons run runs hleads _ =>
    have hpos : 0 < t.units.length run :=
      Nat.pos_of_ne_zero (mt Units.length_eq_zero.mp hleads.ne_nil)
    rw [List.flatten_cons] at ht hlength
    rw [Units.length_append] at hlength
    rw [List.headD_cons]
    refine ⟨isBoundary_eq (by rw [ht, List.append_assoc]), ?_⟩
    rw [Units.length_append]
    omega

/-- A finder makes progress from every position, so that walks end, and their steps tile the text. -/
theorem boundaries_tile (kind : Kind) (t : Text) {offset : Nat} (h : t.isBoundary offset) :
    (∃ b, t.nextBreak kind offset = .ok b ∧ t.isBoundary b ∧ b ≤ t.length
      ∧ (offset < t.length → offset < b) ∧ (offset = t.length → b = offset))
    ∧ ∃ positions, (∀ others, t.Walk kind offset others ↔ others = positions)
      ∧ t.breaks kind offset = .ok positions
      ∧ (offset :: positions).Pairwise (· < ·)
      ∧ (offset :: positions).getLast (List.cons_ne_nil _ _) = t.length
      ∧ (∀ p ∈ positions, t.isBoundary p)
      ∧ (∃ before, t.chars = before ++ (t.pieces offset positions).flatten
        ∧ offset = t.units.length before)
      ∧ ∀ piece ∈ t.pieces offset positions, piece ≠ [] := by
  refine ⟨nextBreak_progress kind h, ?_⟩
  obtain ⟨before, after, ht, rfl⟩ := exists_cut h
  obtain ⟨runs, hparts, rfl⟩ := kind.exists_parts after
  have hwalk := walk_parts hparts ht
  refine ⟨_, fun others => ⟨hwalk.unique, fun heq => heq ▸ hwalk⟩, breaks_parts hparts ht, ?_, ?_, ?_,
    ⟨before, ?_, rfl⟩, ?_⟩
  · exact List.isChain_iff_pairwise.mp (Span.isChain_lay hparts.ne_nil _)
  · rw [Span.getLast_lay, length_eq ht]
  · intro p hp
    obtain ⟨s, hs, rfl⟩ := List.mem_map.mp hp
    exact (isBoundary_of_mem_lay ht hs).2
  · rw [pieces_lay ht, ht]
  · rw [pieces_lay ht]
    exact hparts.ne_nil

theorem boundaries_tile_from_combining_mark :
    let t : Text := ⟨.bytes, ['e', '\u0301', '\r', '\n']⟩
    t.isBoundary 1 ∧ (∃ b, t.nextBreak .grapheme 1 = .ok b ∧ 1 < b ∧ b ≤ 5)
      ∧ ∃ positions, t.Walk .grapheme 1 positions
        ∧ (1 :: positions).getLast (List.cons_ne_nil _ _) = 5 := by
  intro t
  have h : t.isBoundary 1 := by decide
  obtain ⟨⟨b, hb, -, hle, hlt, -⟩, positions, hwalk, -, -, hlast, -⟩ := boundaries_tile .grapheme t h
  exact ⟨h, ⟨b, hb, hlt (by decide), hle⟩, positions, (hwalk _).mpr rfl, hlast⟩

end Text
end TextBoundary
