import TextBoundary.Proofs.ClusterSlice
import TextBoundary.Proofs.Safety

namespace TextBoundary

variable {kind : Kind} {s before rest : List Char} {runs : List (List Char)}

namespace Units

@[simp] theorem length_codePoints (s : List Char) : codePoints.length s = s.length := by
  induction s with
  | nil => rfl
  | cons c s ih => rw [length, ih, size, List.length_cons, Nat.add_comm]

theorem utf8ByteSize_ofList (s : List Char) : (String.ofList s).utf8ByteSize = bytes.length s := by
  induction s with
  | nil => rfl
  | cons c s ih =>
    rw [String.ofList_cons, String.utf8ByteSize_append, String.utf8ByteSize_singleton, ih, length, size]

end Units

def bytesBefore (s : List Char) (index : Nat) : Nat := (String.ofList (s.take index)).utf8ByteSize

theorem bytesBefore_eq (hs : s = before ++ rest) :
    bytesBefore s (Units.codePoints.length before) = Units.bytes.length before := by
  rw [bytesBefore, hs, Units.length_codePoints, List.take_left, Units.utf8ByteSize_ofList]

namespace Span

def inBytes (s : List Char) (span : Span) : Span :=
  ⟨bytesBefore s span.start, bytesBefore s span.stop, span.chars⟩

theorem map_inBytes_lay (hs : s = before ++ runs.flatten) :
    (lay .codePoints (Units.codePoints.length before) runs).map (inBytes s)
      = lay .bytes (Units.bytes.length before) runs := by
  induction runs generalizing before with
  | nil => rfl
  | cons run runs ih =>
    rw [List.flatten_cons] at hs
    have hstart := bytesBefore_eq hs
    rw [← List.append_assoc] at hs
    have hstop := bytesBefore_eq hs
    have hrest := ih hs
    simp only [Units.length_append] at hstop hrest
    rw [lay, List.map_cons, inBytes, hstart, hstop, hrest]
    rfl

end Span

namespace Text

variable {α : Type} {i j : Nat}

def inCodePoints (s : List Char) : Text := ⟨.codePoints, s⟩

def inBytes (s : List Char) : Text := ⟨.bytes, s⟩

/-- Both forms answer, and `f` takes what is counted in code points to what is counted in bytes. -/
def Agree (f : α → α) (inCodePoints inBytes : Except TextError α) : Prop :=
  ∃ a, inCodePoints = .ok a ∧ inBytes = .ok (f a)

theorem exists_cut_of_index (hi : i ≤ s.length) :
    ∃ before rest, s = before ++ rest ∧ i = Units.codePoints.length before := by
  refine ⟨s.take i, s.drop i, (List.take_append_drop i s).symm, ?_⟩
  rw [Units.length_codePoints, List.length_take_of_le hi]

theorem Told.agree {kind : Kind} {answer : Text → Nat → Except TextError α} {move : (Nat → Nat) → α → α}
    (h : Told kind answer move) (hi : i ≤ s.length) :
    Agree (move (bytesBefore s)) (answer (inCodePoints s) i) (answer (inBytes s) (bytesBefore s i)) := by
  obtain ⟨told, hanswer, hmove⟩ := h
  obtain ⟨before, rest, hs, rfl⟩ := exists_cut_of_index hi
  obtain ⟨runs, hparts, rfl⟩ := kind.exists_parts rest
  have hstop : bytesBefore s (inCodePoints s).length = (inBytes s).length :=
    bytesBefore_eq (List.append_nil s).symm
  have hlay : (Span.lay (inCodePoints s).units ((inCodePoints s).units.length before) runs).map
      (Span.move (bytesBefore s)) = Span.lay (inBytes s).units ((inBytes s).units.length before) runs :=
    Span.map_inBytes_lay hs
  refine ⟨_, hanswer (t := inCodePoints s) hs hparts, ?_⟩
  rw [bytesBefore_eq hs, hmove, hstop, hlay]
  exact hanswer (t := inBytes s) hs hparts

theorem isBoundary_inCodePoints (hi : i ≤ s.length) : (inCodePoints s).isBoundary i := by
  obtain ⟨before, rest, hs, rfl⟩ := exists_cut_of_index hi
  exact isBoundary_eq (t := inCodePoints s) hs

theorem isBoundary_inBytes (hi : i ≤ s.length) : (inBytes s).isBoundary (bytesBefore s i) := by
  obtain ⟨before, rest, hs, rfl⟩ := exists_cut_of_index hi
  rw [bytesBefore_eq hs]
  exact isBoundary_eq (t := inBytes s) hs

theorem bytesBefore_lt (h : j < i) (hi : i ≤ s.length) : bytesBefore s j < bytesBefore s i := by
  obtain ⟨front, rest, hs, rfl⟩ := exists_cut_of_index hi
  obtain ⟨before, run, rfl, rfl⟩ := exists_cut_of_index (Units.length_codePoints front ▸ Nat.le_of_lt h)
  have hrun : run ≠ [] := by
    rintro rfl
    rw [List.append_nil] at h
    exact Nat.lt_irrefl _ h
  have hpos : 0 < Units.bytes.length run := Nat.pos_of_ne_zero (mt Units.length_eq_zero.mp hrun)
  rw [bytesBefore_eq hs, bytesBefore_eq (hs.trans (List.append_assoc ..)), Units.length_append]
  exact Nat.lt_add_of_pos_right hpos

theorem hasCategory_agree (hj : j ≤ s.length) (h : i ≤ j) (mask : Mask) :
    Agree id ((inCodePoints s).hasCategory i j mask)
      ((inBytes s).hasCategory (bytesBefore s i) (bytesBefore s j) mask) := by
  obtain ⟨front, rest, hs, rfl⟩ := exists_cut_of_index hj
  obtain ⟨before, run, rfl, rfl⟩ := exists_cut_of_index (Units.length_codePoints front ▸ h)
  have hstop := bytesBefore_eq hs
  rw [List.append_assoc] at hs
  rw [hstop, bytesBefore_eq hs]
  exact ⟨_, hasCategory_eq (t := inCodePoints s) hs mask, hasCategory_eq (t := inBytes s) hs mask⟩

theorem hasCategory_inverted (hi : i ≤ s.length) (h : j < i) (mask : Mask) :
    (inCodePoints s).hasCategory i j mask = .error (.invalidRange .hasCategory i j)
      ∧ (inBytes s).hasCategory (bytesBefore s i) (bytesBefore s j) mask
        = .error (.invalidRange .hasCategory (bytesBefore s i) (bytesBefore s j)) := by
  have hj : j ≤ s.length := Nat.le_trans (Nat.le_of_lt h) hi
  constructor
  · exact (((inCodePoints s).checkRange_answers .hasCategory i j).map _).inverted.mpr
      ⟨isBoundary_inCodePoints hi, isBoundary_inCodePoints hj, h⟩
  · exact (((inBytes s).checkRange_answers .hasCategory _ _).map _).inverted.mpr
      ⟨isBoundary_inBytes hi, isBoundary_inBytes hj, bytesBefore_lt h hi⟩

theorem graphemeSlice_agree (s : List Char) (start stop : Option Int) :
    Agree id ((inCodePoints s).graphemeSlice start stop) ((inBytes s).graphemeSlice start stop) := by
  obtain ⟨runs, hparts, hs⟩ := Kind.grapheme.exists_parts s
  exact ⟨_, graphemeSlice_eq (t := inCodePoints s) hparts hs.symm start stop,
    graphemeSlice_eq (t := inBytes s) hparts hs.symm start stop⟩

/-- Every operation on the characters gives the same in both forms: the same counts, categories and
characters, at positions that correspond. -/
theorem forms_agree (s : List Char) {i : Nat} (hi : i ≤ s.length) :
    (∀ kind, Agree (bytesBefore s) ((inCodePoints s).nextBreak kind i)
      ((inBytes s).nextBreak kind (bytesBefore s i)))
    ∧ (∀ kind, Agree (List.map (bytesBefore s)) ((inCodePoints s).breaks kind i)
      ((inBytes s).breaks kind (bytesBefore s i)))
    ∧ Agree (Prod.map (bytesBefore s) (bytesBefore s)) ((inCodePoints s).nextGrapheme i)
      ((inBytes s).nextGrapheme (bytesBefore s i))
    ∧ (∀ filter, Agree (Prod.map (bytesBefore s) (bytesBefore s)) ((inCodePoints s).nextWord i filter)
      ((inBytes s).nextWord (bytesBefore s i) filter))
    ∧ Agree (Prod.map (bytesBefore s) (bytesBefore s)) ((inCodePoints s).nextSentence i)
      ((inBytes s).nextSentence (bytesBefore s i))
    ∧ Agree (List.map (Span.inBytes s)) ((inCodePoints s).graphemes i)
      ((inBytes s).graphemes (bytesBefore s i))
    ∧ (∀ filter, Agree (List.map (Span.inBytes s)) ((inCodePoints s).words i filter)
      ((inBytes s).words (bytesBefore s i) filter))
    ∧ Agree (List.map (Span.inBytes s)) ((inCodePoints s).sentences i)
      ((inBytes s).sentences (bytesBefore s i))
    ∧ (∀ kind filter, Agree (List.map (Span.inBytes s)) ((inCodePoints s).segments kind i filter)
      ((inBytes s).segments kind (bytesBefore s i) filter))
    ∧ Agree id ((inCodePoints s).graphemeLength i) ((inBytes s).graphemeLength (bytesBefore s i))
    ∧ Agree id ((inCodePoints s).graphemeWidth i) ((inBytes s).graphemeWidth (bytesBefore s i))
    ∧ (∀ j mask, i ≤ j → j ≤ s.length → Agree id ((inCodePoints s).hasCategory i j mask)
      ((inBytes s).hasCategory (bytesBefore s i) (bytesBefore s j) mask))
    ∧ (∀ j mask, j < i →
      (inCodePoints s).hasCategory i j mask = .error (.invalidRange .hasCategory i j)
      ∧ (inBytes s).hasCategory (bytesBefore s i) (bytesBefore s j) mask
        = .error (.invalidRange .hasCategory (bytesBefore s i) (bytesBefore s j)))
    ∧ ∀ start stop,
      Agree id ((inCodePoints s).graphemeSlice start stop) ((inBytes s).graphemeSlice start stop) :=
  ⟨fun kind => (told_nextBreak kind).agree hi,
    fun kind => (told_breaks kind).agree hi,
    told_nextGrapheme.agree hi,
    fun filter => (told_nextWord filter).agree hi,
    told_nextSentence.agree hi,
    told_graphemes.agree hi,
    fun filter => (told_words filter).agree hi,
    told_sentences.agree hi,
    fun kind filter => (told_segments kind filter).agree hi,
    told_graphemeLength.agree hi,
    told_graphemeWidth.agree hi,
    fun _ mask h hj => hasCategory_agree hj h mask,
    fun _ mask h => hasCategory_inverted hi h mask,
    graphemeSlice_agree s⟩

theorem forms_agree_behind_first_character :
    let s := ['a', '\u3042']
    1 ≤ s.length ∧ bytesBefore s 1 = 1 ∧ bytesBefore s 2 = 4
      ∧ Agree (bytesBefore s) ((inCodePoints s).nextBreak .word 1) ((inBytes s).nextBreak .word 1)
      ∧ Agree id ((inCodePoints s).graphemeSlice (some (-1)) none)
        ((inBytes s).graphemeSlice (some (-1)) none) := by
  intro s
  obtain ⟨hbreak, -, -, -, -, -, -, -, -, -, -, -, -, hslice⟩ := forms_agree s (show 1 ≤ s.length by decide)
  exact ⟨by decide, by decide, by decide, hbreak .word, hslice _ _⟩

end Text
end TextBoundary
