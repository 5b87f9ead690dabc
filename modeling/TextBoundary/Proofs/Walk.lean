import TextBoundary.Proofs.Scan

/-! Walking through a text from boundary to boundary. If the passes of a kind find the splits of its
segments, then the walk from the start visits exactly the splits of the whole text, and its end. -/

namespace TextBoundary

namespace Units

variable (units : Units) (s t : List Char)

theorem drop?_length_append : units.drop? (s ++ t) (units.length s) = some t := by
  induction s with
  | nil => cases t <;> rfl
  | cons c s ih =>
    have hpos := units.size_pos c
    obtain ⟨n, hn⟩ : ∃ n, units.length (c :: s) = n + 1 :=
      Nat.exists_eq_succ_of_ne_zero (by simp only [length]; omega)
    have hrest : n + 1 - units.size c = units.length s := by
      rw [← hn, length, Nat.add_sub_cancel_left]
    rw [hn, List.cons_append, drop?, if_pos (by rw [length] at hn; omega), hrest, ih]

theorem cut_unique {s t u v : List Char} (h : s ++ t = u ++ v) (hlen : units.length s = units.length u) :
    s = u ∧ t = v := by
  have ht : units.drop? (s ++ t) (units.length s) = some t := units.drop?_length_append s t
  rw [h, hlen, units.drop?_length_append] at ht
  obtain rfl := Option.some.inj ht
  exact ⟨List.append_cancel_right h, rfl⟩

end Units

namespace Text

/-- The positions that calls of `nextBreak` give one after the other, from an offset to the end. -/
inductive Walk (kind : Kind) (t : Text) : Nat → List Nat → Prop
  | finish {offset : Nat} : t.length ≤ offset → Walk kind t offset []
  | step {offset next : Nat} {positions : List Nat} : offset < t.length →
      t.nextBreak kind offset = .ok next → Walk kind t next positions →
      Walk kind t offset (next :: positions)

variable {kind : Kind} {t : Text} {before after : List Char}

theorem Walk.unique {offset : Nat} {positions others : List Nat} (h : t.Walk kind offset positions)
    (h' : t.Walk kind offset others) : others = positions := by
  induction h generalizing others with
  | finish hend =>
    cases h' with
    | finish => rfl
    | step hlt => omega
  | step hlt hnext _ ih =>
    cases h' with
    | finish hend => omega
    | step _ hnext' hrest =>
      cases hnext.symm.trans hnext'
      rw [ih hrest]

theorem length_eq (h : t.chars = before ++ after) :
    t.length = t.units.length before + t.units.length after := by
  rw [length, h, Units.length_append]

theorem suffix?_eq (h : t.chars = before ++ after) :
    t.suffix? (t.units.length before) = some after := by
  rw [suffix?, h, Units.drop?_length_append]

theorem checkOffset_eq (h : t.chars = before ++ after) (operation : Operation) :
    t.checkOffset operation (t.units.length before) = .ok () := by
  rw [checkOffset, if_neg (by rw [length_eq h]; omega), isBoundary, suffix?_eq h]
  rfl

theorem breakFrom_eq (h : t.chars = before ++ after) {d : Cursor kind t.units}
    (hd : (Cursor.before t.length (t.units.length before) after).find = .ok d) :
    t.breakFrom kind (t.units.length before) = .ok d.position := by
  rw [breakFrom, Cursor.ofText, suffix?_eq h, Option.getD_some, hd]
  rfl

theorem nextBreak_eq (h : t.chars = before ++ after) {d : Cursor kind t.units}
    (hd : (Cursor.before t.length (t.units.length before) after).find = .ok d) :
    t.nextBreak kind (t.units.length before) = .ok d.position := by
  rw [nextBreak, checkOffset_eq h]
  exact breakFrom_eq h hd

end Text

theorem Segment.cut_iff {split : List Char → List Char → Bool} {back ahead run rest u v : List Char}
    (h : Segment split back ahead run rest) (hrun : run ≠ []) :
    (ahead = u ++ v ∧ u ≠ [] ∧ (v = [] ∨ split (u.reverse ++ back) v)) ↔
      (u = run ∧ v = rest) ∨ ∃ w, u = run ++ w ∧ rest = w ++ v ∧ w ≠ []
        ∧ (v = [] ∨ split (w.reverse ++ (run.reverse ++ back)) v) := by
  constructor
  · rintro ⟨heq, hu, hend⟩
    rcases List.append_eq_append_iff.mp (h.ahead_eq ▸ heq) with ⟨w, rfl, hw⟩ | ⟨w, hw, rfl⟩
    · cases w with
      | nil => exact .inl ⟨by simp, by simpa using hw.symm⟩
      | cons x w => exact .inr ⟨x :: w, rfl, hw, by simp, by simpa using hend⟩
    · cases w with
      | nil => exact .inl ⟨by simpa using hw.symm, by simp⟩
      | cons x w =>
        have hjoined := h.joined u (x :: w) hw hu (by simp)
        simp_all
  · rintro (⟨rfl, rfl⟩ | ⟨w, rfl, rfl, hw, hend⟩)
    · exact ⟨h.ahead_eq, hrun, h.ends⟩
    · exact ⟨by rw [h.ahead_eq, List.append_assoc], by simp [hrun], by simpa using hend⟩

namespace Kind.Delimits

variable {kind : Kind} {split : List Char → List Char → Bool} {barrier : Mask} {t : Text}
  {before after : List Char}

theorem nextBreak_spec (D : kind.Delimits split barrier) (h : t.chars = before ++ after) :
    ∃ d run, (Cursor.before t.length (t.units.length before) after : Cursor kind t.units).find = .ok d
      ∧ d.position = t.units.length (before ++ run) ∧ Segment split [] after run d.ahead
      ∧ t.nextBreak kind (t.units.length before) = .ok (t.units.length (before ++ run)) := by
  obtain ⟨d, run, hd, hpos, hseg⟩ := D.find_spec (Text.length_eq h)
  rw [← Units.length_append] at hpos
  exact ⟨d, run, hd, hpos, hseg, hpos ▸ Text.nextBreak_eq h hd⟩

theorem restarts_behind {back ahead run rest : List Char} (D : kind.Delimits split barrier)
    (h : Segment split back ahead run rest) (hrun : run ≠ []) : Restarts split (run.reverse ++ back) rest := by
  cases rest with
  | nil => exact .at_end
  | cons b rest =>
    have hsplit := h.ends.resolve_left (List.cons_ne_nil b rest)
    obtain ⟨a, before, hback⟩ := List.exists_cons_of_ne_nil
      (show run.reverse ++ back ≠ [] by simp [hrun])
    rw [hback] at hsplit ⊢
    exact D.restarts hsplit

theorem walk_spec (D : kind.Delimits split barrier) (h : t.chars = before ++ after)
    (hb : Restarts split before.reverse after) :
    ∃ positions, t.Walk kind (t.units.length before) positions
      ∧ positions.Pairwise (· < ·)
      ∧ (∀ p ∈ positions, t.units.length before < p)
      ∧ ∀ p, p ∈ positions ↔ ∃ u v,
        (after = u ++ v ∧ u ≠ [] ∧ (v = [] ∨ split (u.reverse ++ before.reverse) v))
          ∧ p = t.units.length (before ++ u) := by
  -- on what is left; at each boundary the text before it stops to matter, so the next scan may start anew
  induction hn : after.length using Nat.strongRecOn generalizing before after with
  | _ n ih =>
  by_cases hafter : after = []
  · refine ⟨[], .finish ?_, .nil, by simp, fun p => ?_⟩
    · rw [Text.length_eq h, hafter, Units.length]
      omega
    · simp only [List.not_mem_nil, false_iff, not_exists, not_and]
      rintro u v ⟨heq, hu, -⟩
      simp_all
  obtain ⟨d, run, -, -, hseg, hnext⟩ := D.nextBreak_spec h
  generalize d.ahead = rest at hseg
  have hrun : run ≠ [] := hseg.ne_nil hafter
  have hsegment := hseg.of_restarts hb
  have hlt : t.units.length before < t.units.length (before ++ run) := by
    have := List.length_pos_of_ne_nil hrun
    have := t.units.length_le run
    rw [Units.length_append]
    omega
  have hrest : Restarts split (before ++ run).reverse rest :=
    List.reverse_append ▸ D.restarts_behind hsegment hrun
  obtain ⟨positions, hwalk, hsorted, hbound, hmem⟩ := ih rest.length
    (by rw [← hn, hseg.ahead_eq, List.length_append]; have := List.length_pos_of_ne_nil hrun; omega)
    (by rw [h, hseg.ahead_eq, List.append_assoc]) hrest rfl
  refine ⟨t.units.length (before ++ run) :: positions, .step ?_ hnext hwalk, ?_, ?_, ?_⟩
  · have := List.length_pos_of_ne_nil hafter
    have := t.units.length_le after
    rw [Text.length_eq h]
    omega
  · exact .cons hbound hsorted
  · simp only [List.mem_cons, forall_eq_or_imp]
    exact ⟨hlt, fun p hp => Nat.lt_trans hlt (hbound p hp)⟩
  · intro p
    simp only [hsegment.cut_iff hrun, List.mem_cons, hmem]
    constructor
    · rintro (rfl | ⟨u, v, ⟨heq, hu, hend⟩, rfl⟩)
      · exact ⟨run, rest, .inl ⟨rfl, rfl⟩, rfl⟩
      · exact ⟨run ++ u, v, .inr ⟨u, rfl, heq, hu, by simpa using hend⟩, by simp⟩
    · rintro ⟨u, v, ⟨rfl, rfl⟩ | ⟨w, rfl, heq, hw, hend⟩, rfl⟩
      · exact .inl rfl
      · exact .inr ⟨w, v, ⟨heq, hw, by simpa using hend⟩, by simp⟩

theorem tile_spec (D : kind.Delimits split barrier) (h : t.chars = before ++ after) {rounds : Nat}
    (hr : after.length ≤ rounds) {positions : List Nat}
    (hw : t.Walk kind (t.units.length before) positions) :
    ∃ spans, Span.tile kind t.units t.length rounds (t.units.length before) after = .ok spans
      ∧ spans.map Span.stop = positions := by
  generalize ho : t.units.length before = offset at hw
  induction hw generalizing before after rounds with
  | finish hlen => exact ⟨[], by rw [Span.tile.eq_def, if_pos (ho ▸ hlen)], rfl⟩
  | @step offset next positions hlt hstep _ ih =>
    have hafter : after ≠ [] := by
      rintro rfl
      rw [Text.length_eq h, ho, Units.length] at hlt
      omega
    obtain ⟨rounds, rfl⟩ : ∃ r, rounds = r + 1 := by
      have := List.length_pos_of_ne_nil hafter
      exact Nat.exists_eq_succ_of_ne_zero (by omega)
    obtain ⟨d, run, hd, hpos, hseg, hnext⟩ := D.nextBreak_spec h
    have hrest : t.chars = (before ++ run) ++ d.ahead := by rw [h, hseg.ahead_eq, List.append_assoc]
    have hlen : d.ahead.length ≤ rounds := by
      have := List.length_pos_of_ne_nil (hseg.ne_nil hafter)
      rw [hseg.ahead_eq, List.length_append] at hr
      omega
    have hnext' : t.units.length (before ++ run) = next := by
      rw [ho, hstep] at hnext
      exact (Except.ok.inj hnext).symm
    obtain ⟨spans, hspans, hstops⟩ := ih hrest hlen hnext'
    rw [hnext'] at hpos
    rw [ho] at hd
    have htile : Span.tile kind t.units t.length (rounds + 1) offset after
        = .ok (⟨offset, next, t.units.take after (next - offset)⟩ :: spans) := by
      rw [Span.tile, if_neg (by omega), hd, ok_bind, hpos, hspans]
      rfl
    exact ⟨_, htile, by rw [List.map_cons, hstops]⟩

theorem breaks_spec (D : kind.Delimits split barrier) (h : t.chars = before ++ after)
    {positions : List Nat} (hw : t.Walk kind (t.units.length before) positions) :
    t.breaks kind (t.units.length before) = .ok positions := by
  have hlen := Text.length_eq h
  obtain ⟨spans, hspans, hstops⟩ := D.tile_spec h (t.units.length_le after) hw
  rw [Text.breaks]
  split
  · cases hw with
    | finish => rfl
    | step hlt => omega
  · rw [Text.checkOffset_eq h, Text.tiles, Text.suffix?_eq h, hlen, Nat.add_sub_cancel_left, ← hlen,
      Option.getD_some, hspans, ← hstops]
    rfl

/-- Calls of `nextBreak` from the start on, and the boundaries listed at once, give the end of the text and
its splits. -/
theorem boundaries (D : kind.Delimits split barrier) (t : Text) :
    ∃ positions, (∀ others, t.Walk kind 0 others ↔ others = positions)
      ∧ t.breaks kind 0 = .ok positions
      ∧ positions.Pairwise (· < ·)
      ∧ ∀ p, p ∈ positions ↔ ∃ before after, t.chars = before ++ after ∧ before ≠ []
        ∧ p = t.units.length before ∧ (after = [] ∨ split before.reverse after) := by
  have h : t.chars = [] ++ t.chars := rfl
  have hzero : t.units.length [] = 0 := rfl
  obtain ⟨positions, hwalk, hsorted, -, hmem⟩ := D.walk_spec h .nil
  have hbreaks := D.breaks_spec h hwalk
  rw [hzero] at hwalk hbreaks
  refine ⟨positions, fun others => ⟨hwalk.unique, fun heq => heq ▸ hwalk⟩, hbreaks, hsorted, ?_⟩
  intro p
  rw [hmem]
  constructor
  · rintro ⟨u, v, ⟨heq, hu, hend⟩, rfl⟩
    exact ⟨u, v, heq, hu, rfl, by simpa using hend⟩
  · rintro ⟨u, v, heq, hu, rfl, hend⟩
    exact ⟨u, v, ⟨heq, hu, by simpa using hend⟩, rfl⟩

theorem inner_boundaries (D : kind.Delimits split barrier) (t : Text) :
    ∃ positions, (∀ others, t.Walk kind 0 others ↔ others = positions)
      ∧ t.breaks kind 0 = .ok positions
      ∧ ∀ before after, t.chars = before ++ after → before ≠ [] → after ≠ [] →
        (t.units.length before ∈ positions ↔ split before.reverse after) := by
  obtain ⟨positions, hwalk, hbreaks, -, hmem⟩ := D.boundaries t
  refine ⟨positions, hwalk, hbreaks, fun before after h hbefore hafter => ?_⟩
  rw [hmem]
  constructor
  · rintro ⟨u, v, heq, -, hlen, hend⟩
    obtain ⟨rfl, rfl⟩ := t.units.cut_unique (h.symm.trans heq) hlen
    exact hend.resolve_left hafter
  · intro hsplit
    exact ⟨before, after, h, hbefore, rfl, .inr hsplit⟩

end Kind.Delimits
end TextBoundary
