import TextBoundary.Proofs.Walk

namespace TextBoundary

namespace Units

variable (units : Units)

theorem take_length_append (s t : List Char) : units.take (s ++ t) (units.length s) = s := by
  induction s with
  | nil =>
    cases t with
    | nil => rfl
    | cons c t =>
      have := units.size_pos c
      exact if_neg (by rw [length]; omega)
  | cons c s ih =>
    rw [List.cons_append, length, take, if_pos (by omega), Nat.add_sub_cancel_left, ih]

theorem drop?_eq_some {s rest : List Char} {n : Nat} (h : units.drop? s n = some rest) :
    ∃ before, s = before ++ rest ∧ n = units.length before := by
  fun_induction units.drop? s n with
  | case1 s => exact ⟨[], Option.some.inj h, rfl⟩
  | case2 n => exact nomatch h
  | case3 c s n hle ih =>
    obtain ⟨before, rfl, hn⟩ := ih h
    exact ⟨c :: before, rfl, by rw [length]; omega⟩
  | case4 c s n hle => exact nomatch h

end Units

namespace Text

variable {t : Text} {offset : Nat} {before after : List Char}

/-- A position strictly between the ends of a character. -/
def Inside (t : Text) (offset : Nat) : Prop :=
  ∃ before c after, t.chars = before ++ c :: after ∧ t.units.length before < offset
    ∧ offset < t.units.length (before ++ [c])

theorem isBoundary_eq (h : t.chars = before ++ after) : t.isBoundary (t.units.length before) := by
  rw [isBoundary, suffix?_eq h]
  rfl

theorem exists_cut (h : t.isBoundary offset) :
    ∃ before after, t.chars = before ++ after ∧ offset = t.units.length before := by
  obtain ⟨after, hafter⟩ := Option.isSome_iff_exists.mp h
  obtain ⟨before, heq, hoffset⟩ := t.units.drop?_eq_some hafter
  exact ⟨before, after, heq, hoffset⟩

theorem Inside.lt_length (h : t.Inside offset) : offset < t.length := by
  obtain ⟨before, c, after, heq, -, hlt⟩ := h
  rw [length, heq]
  simp only [Units.length_append, Units.length] at hlt ⊢
  omega

theorem Inside.not_isBoundary (h : t.Inside offset) : t.isBoundary offset = false := by
  obtain ⟨before, c, after, heq, hlo, hhi⟩ := h
  apply Bool.eq_false_iff.mpr
  intro hb
  obtain ⟨u, v, hcut, rfl⟩ := exists_cut hb
  -- a prefix is no longer than the characters before `c`, or has `c` too
  rcases List.append_eq_append_iff.mp (hcut.symm.trans heq) with ⟨w, rfl, -⟩ | ⟨w, rfl, hw⟩
  · simp only [Units.length_append] at hlo
    omega
  · cases w with
    | nil =>
      simp only [List.append_nil] at hlo
      omega
    | cons x w =>
      obtain ⟨rfl, -⟩ := List.cons.inj hw
      simp only [Units.length_append, Units.length] at hhi
      omega

theorem inside_of_not_isBoundary (h : t.isBoundary offset = false) (hle : offset ≤ t.length) :
    t.Inside offset := by
  obtain ⟨units, chars⟩ := t
  have hnone : units.drop? chars offset = none := Option.not_isSome_iff_eq_none.mp (by
    rw [show (units.drop? chars offset).isSome = false from h]
    exact Bool.false_ne_true)
  change offset ≤ units.length chars at hle
  clear h
  fun_induction units.drop? chars offset with
  | case1 s => exact nomatch hnone
  | case2 n => exact absurd hle (Nat.not_succ_le_zero n)
  | case3 c s n hsize ih =>
    rw [Units.length] at hle
    obtain ⟨before, x, after, rfl, hlo, hhi⟩ := ih hnone (by omega)
    refine ⟨c :: before, x, after, rfl, ?_, ?_⟩
    · simp only [Units.length] at hlo ⊢
      omega
    · simp only [Units.length, List.cons_append] at hhi ⊢
      omega
  | case4 c s n hsize =>
    refine ⟨[], c, s, rfl, Nat.succ_pos n, ?_⟩
    simp only [List.nil_append, Units.length]
    omega

theorem position_cases (t : Text) (offset : Nat) :
    t.length < offset ∨ t.Inside offset ∨ t.isBoundary offset := by
  rcases Nat.lt_or_ge t.length offset with hlt | hle
  · exact .inl hlt
  · cases h : t.isBoundary offset with
    | true => exact .inr (.inr rfl)
    | false => exact .inr (.inl (inside_of_not_isBoundary h hle))

theorem checkOffset_beyond (op : Operation) (h : t.length < offset) :
    t.checkOffset op offset = .error (.offsetOutOfRange op offset t.length) := if_pos h

theorem checkOffset_inside (op : Operation) (h : t.Inside offset) :
    t.checkOffset op offset = .error (.notCharBoundary op offset) := by
  rw [checkOffset, if_neg (Nat.not_lt.mpr (Nat.le_of_lt h.lt_length)), h.not_isBoundary]
  rfl

theorem checkOffset_boundary (op : Operation) (h : t.isBoundary offset) :
    t.checkOffset op offset = .ok () := by
  obtain ⟨before, after, heq, rfl⟩ := exists_cut h
  exact checkOffset_eq heq op

theorem slice_eq {run rest : List Char} (h : t.chars = before ++ (run ++ rest)) :
    t.slice (t.units.length before) (t.units.length (before ++ run)) = run := by
  rw [slice, suffix?_eq h, Option.getD_some, Units.length_append, Nat.add_sub_cancel_left,
    Units.take_length_append]

end Text
end TextBoundary
