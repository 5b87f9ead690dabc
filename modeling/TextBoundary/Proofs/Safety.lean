import TextBoundary.Proofs.Listings
import TextBoundary.Proofs.Tiling

namespace TextBoundary

namespace Cursor

variable {kind : Kind} {units : Units} {split : List Char → List Char → Bool} {barrier : Mask}
  {c d : Cursor kind units}

/-- The cursors from which a scan makes its passes. -/
inductive Visits (c : Cursor kind units) : Cursor kind units → Prop
  | start : Visits c c
  | again {d e : Cursor kind units} : Visits c d → d.atEnd = false → kind.pass d = .ok (.again e) →
      Visits c e

/-- No transaction is open, and the next pass has what it needs or stops at once. -/
structure Sound (barrier : Mask) (c : Cursor kind units) : Prop where
  ready : c.Ready
  saved : c.saved = none
  passes : (c.position = c.offset ∨ kind.hasNext barrier c.ahead = false)
    ∨ ∃ d, kind.pass c = .ok (.stop d)

theorem Passed.exists_step {result : Except Fault (Step (Cursor kind units))}
    (h : c.Passed split barrier result) : ∃ step, result = .ok step := by
  cases h <;> exact ⟨_, rfl⟩

theorem Sound.exists_step (D : kind.Delimits split barrier) (h : c.Sound barrier)
    (hend : c.atEnd = false) : ∃ step, kind.pass c = .ok step := by
  have hahead : c.ahead ≠ [] := mt h.ready.atEnd.mpr (by rw [hend]; decide)
  rcases h.passes with hbarrier | ⟨d, hstop⟩
  · exact (D.passed c h.ready h.saved hahead hbarrier).exists_step
  · exact ⟨_, hstop⟩

theorem Sound.again (D : kind.Delimits split barrier) (h : c.Sound barrier) (hend : c.atEnd = false)
    (hpass : kind.pass c = .ok (.again d)) : d.Sound barrier := by
  have hahead : c.ahead ≠ [] := mt h.ready.atEnd.mpr (by rw [hend]; decide)
  rcases h.passes with hbarrier | ⟨e, hstop⟩
  · have hpassed := D.passed c h.ready h.saved hahead hbarrier
    rw [hpass] at hpassed
    cases hpassed with
    | again hm _ _ _ hnext =>
      refine ⟨hm.ready h.ready, hm.saved_eq.trans h.saved, .inl (.inr ?_)⟩
      cases hd : d.ahead with
      | nil => rfl
      | cons a rest => exact hd ▸ (hnext (by simp [hd])).2
    | undone hm _ _ _ hstop _ _ =>
      exact ⟨hm.ready h.ready, hm.saved_eq.trans h.saved, .inr ⟨_, hstop⟩⟩
  · rw [hpass] at hstop
    exact nomatch hstop

theorem Visits.sound (D : kind.Delimits split barrier) (h : c.Visits d) (hc : c.Sound barrier) :
    d.Sound barrier := by
  induction h with
  | start => exact hc
  | again _ hend hpass ih => exact ih.again D hend hpass

end Cursor

namespace Text

variable {t : Text} {offset start stop : Nat} {α : Type} {answer : Except TextError α}

theorem sound_ofText (kind : Kind) (barrier : Mask) (h : t.isBoundary offset) :
    (Cursor.ofText kind t offset).Sound barrier := by
  obtain ⟨before, after, ht, rfl⟩ := exists_cut h
  rw [Cursor.ofText, suffix?_eq ht]
  exact ⟨.before _ _ _ (length_eq ht), rfl, .inl (.inl rfl)⟩

/-- An operation refuses what is no position of the text and answers at every other. -/
structure Answers (t : Text) (op : Operation) (offset : Nat) (answer : Except TextError α) : Prop where
  beyond (h : t.length < offset) : answer = .error (.offsetOutOfRange op offset t.length)
  inside (h : t.Inside offset) : answer = .error (.notCharBoundary op offset)
  boundary (h : t.isBoundary offset) : ∃ a, answer = .ok a

structure AnswersRange (t : Text) (op : Operation) (start stop : Nat) (answer : Except TextError α) :
    Prop where
  first_beyond (h : t.length < start) : answer = .error (.offsetOutOfRange op start t.length)
  first_inside (h : t.Inside start) : answer = .error (.notCharBoundary op start)
  second_beyond (h : t.isBoundary start) (h' : t.length < stop) :
    answer = .error (.offsetOutOfRange op stop t.length)
  second_inside (h : t.isBoundary start) (h' : t.Inside stop) :
    answer = .error (.notCharBoundary op stop)
  inverted : answer = .error (.invalidRange op start stop)
    ↔ t.isBoundary start ∧ t.isBoundary stop ∧ stop < start
  ordered (h : t.isBoundary start) (h' : t.isBoundary stop) (hle : start ≤ stop) : ∃ a, answer = .ok a

theorem Answers.guard {op : Operation} {body : Except TextError α}
    (h : t.isBoundary offset → ∃ a, body = .ok a) :
    t.Answers op offset (t.checkOffset op offset >>= fun _ => body) where
  beyond hlt := by rw [checkOffset_beyond op hlt]; rfl
  inside hin := by rw [checkOffset_inside op hin]; rfl
  boundary hb := by
    rw [checkOffset_boundary op hb]
    exact h hb

theorem checkRange_boundary {op : Operation} (h : t.isBoundary start) :
    t.checkRange op start stop = (do
      t.checkOffset op stop
      if stop < start then throw (.invalidRange op start stop)) := by
  rw [checkRange, checkOffset_boundary op h]
  rfl

theorem checkRange_ordered {op : Operation} (h : t.isBoundary start) (h' : t.isBoundary stop)
    (hle : start ≤ stop) : t.checkRange op start stop = .ok () := by
  rw [checkRange_boundary h, checkOffset_boundary op h', if_neg (Nat.not_lt.mpr hle)]
  rfl

theorem checkRange_answers (t : Text) (op : Operation) (start stop : Nat) :
    t.AnswersRange op start stop (t.checkRange op start stop) := by
  have hbeyond (h : t.length < start) :
      t.checkRange op start stop = .error (.offsetOutOfRange op start t.length) := by
    rw [checkRange, checkOffset_beyond op h]
    rfl
  have hinside (h : t.Inside start) :
      t.checkRange op start stop = .error (.notCharBoundary op start) := by
    rw [checkRange, checkOffset_inside op h]
    rfl
  have hstop (h : t.isBoundary start) (h' : t.length < stop) :
      t.checkRange op start stop = .error (.offsetOutOfRange op stop t.length) := by
    rw [checkRange_boundary h, checkOffset_beyond op h']
    rfl
  have hwithin (h : t.isBoundary start) (h' : t.Inside stop) :
      t.checkRange op start stop = .error (.notCharBoundary op stop) := by
    rw [checkRange_boundary h, checkOffset_inside op h']
    rfl
  refine ⟨hbeyond, hinside, hstop, hwithin, ⟨fun hinv => ?_, ?_⟩,
    fun h h' hle => ⟨_, checkRange_ordered h h' hle⟩⟩
  · rcases t.position_cases start with h | h | h
    · cases hinv.symm.trans (hbeyond h)
    · cases hinv.symm.trans (hinside h)
    rcases t.position_cases stop with h' | h' | h'
    · cases hinv.symm.trans (hstop h h')
    · cases hinv.symm.trans (hwithin h h')
    refine ⟨h, h', Nat.lt_of_not_le fun hle => ?_⟩
    cases hinv.symm.trans (checkRange_ordered h h' hle)
  · rintro ⟨h, h', hlt⟩
    rw [checkRange_boundary h, checkOffset_boundary op h', if_pos hlt]
    rfl

theorem AnswersRange.map {op : Operation} {check : Except TextError Unit}
    (h : t.AnswersRange op start stop check) (a : α) :
    t.AnswersRange op start stop (check >>= fun _ => .ok a) := by
  have herror (e : TextError) : (check >>= fun _ => .ok a) = .error e ↔ check = .error e := by
    cases check with
    | error e' => exact ⟨fun h => congrArg _ (Except.error.inj h), fun h => by rw [h]; rfl⟩
    | ok _ => exact ⟨fun h => (nomatch h), fun h => (nomatch h)⟩
  refine ⟨fun hlt => ?_, fun hin => ?_, fun hb hlt => ?_, fun hb hin => ?_, ?_, fun hb hb' hle => ?_⟩
  · exact (herror _).mpr (h.first_beyond hlt)
  · exact (herror _).mpr (h.first_inside hin)
  · exact (herror _).mpr (h.second_beyond hb hlt)
  · exact (herror _).mpr (h.second_inside hb hin)
  · rw [herror, h.inverted]
  · obtain ⟨_, hcheck⟩ := h.ordered hb hb' hle
    exact ⟨a, by rw [hcheck]; rfl⟩

theorem Told.answers {op : Operation} {kind : Kind} {answer : Text → Nat → Except TextError α}
    {move : (Nat → Nat) → α → α} (h : Told kind answer move)
    (hguard : ∀ offset, ∃ body, answer t offset = (t.checkOffset op offset >>= fun _ => body))
    (offset : Nat) : t.Answers op offset (answer t offset) := by
  obtain ⟨told, hanswer, -⟩ := h
  obtain ⟨body, hbody⟩ := hguard offset
  rw [hbody]
  apply Answers.guard
  intro hb
  obtain ⟨before, after, ht, rfl⟩ := exists_cut hb
  obtain ⟨runs, hparts, rfl⟩ := kind.exists_parts after
  have ha := hanswer ht hparts
  rw [hbody, checkOffset_boundary op hb] at ha
  exact ⟨_, ha⟩

theorem checkRange_of_mem_tiles (kind : Kind) (op : Operation) (h : t.isBoundary offset) :
    ∃ spans, t.tiles kind offset = .ok spans
      ∧ ∀ s ∈ spans, t.checkRange op s.start s.stop = .ok () := by
  obtain ⟨before, after, ht, rfl⟩ := exists_cut h
  obtain ⟨runs, hparts, rfl⟩ := kind.exists_parts after
  refine ⟨_, tiles_eq hparts ht, fun s hs => ?_⟩
  obtain ⟨hstart, hstop⟩ := isBoundary_of_mem_lay ht hs
  obtain ⟨u, v, -, -, hu, hv⟩ := Span.mem_lay hs
  have hle : s.start ≤ s.stop := by
    rw [hu, hv, Units.length_append]
    exact Nat.le_add_right _ _
  exact checkRange_ordered hstart hstop hle

/-- Every operation refuses the first position that is none, and otherwise gives an answer: the ranges it
cuts are in order, and no pass of its scans comes to a fault. -/
theorem operations_never_fault (t : Text) :
    (∀ offset, t.length < offset ∨ t.Inside offset ∨ t.isBoundary offset)
    ∧ (∀ kind offset, t.Answers (.nextBreak kind) offset (t.nextBreak kind offset))
    ∧ (∀ offset, t.Answers (.next .grapheme) offset (t.nextGrapheme offset))
    ∧ (∀ filter offset, t.Answers (.next .word) offset (t.nextWord offset filter))
    ∧ (∀ offset, t.Answers (.next .sentence) offset (t.nextSentence offset))
    ∧ (∀ offset, t.Answers (.iterate .grapheme) offset (t.graphemes offset))
    ∧ (∀ filter offset, t.Answers (.iterate .word) offset (t.words offset filter))
    ∧ (∀ offset, t.Answers (.iterate .sentence) offset (t.sentences offset))
    ∧ (∀ kind filter offset, t.Answers .segments offset (t.segments kind offset filter))
    ∧ (∀ offset, t.Answers .graphemeLength offset (t.graphemeLength offset))
    ∧ (∀ offset, t.Answers .graphemeWidth offset (t.graphemeWidth offset))
    ∧ (∀ start stop mask, t.AnswersRange .hasCategory start stop (t.hasCategory start stop mask))
    ∧ (∀ kind offset, t.isBoundary offset → ∃ spans, t.tiles kind offset = .ok spans
      ∧ ∀ s ∈ spans, t.checkRange .hasCategory s.start s.stop = .ok ())
    ∧ ∀ kind offset, t.isBoundary offset → ∀ c, (Cursor.ofText kind t offset).Visits c →
      c.saved = none ∧ (c.atEnd = false → ∃ step, kind.pass c = .ok step) := by
  refine ⟨t.position_cases,
    fun kind => (told_nextBreak kind).answers fun _ => ⟨_, rfl⟩,
    told_nextGrapheme.answers fun _ => ⟨_, rfl⟩,
    fun filter => (told_nextWord filter).answers fun _ => ⟨_, rfl⟩,
    told_nextSentence.answers fun _ => ⟨_, rfl⟩,
    told_graphemes.answers fun _ => ⟨_, rfl⟩,
    fun filter => (told_words filter).answers fun _ => ⟨_, rfl⟩,
    told_sentences.answers fun _ => ⟨_, rfl⟩,
    fun kind filter => (told_segments kind filter).answers fun _ => ⟨_, rfl⟩,
    told_graphemeLength.answers fun _ => ⟨_, rfl⟩,
    told_graphemeWidth.answers fun _ => ⟨_, rfl⟩,
    fun start stop mask => (t.checkRange_answers .hasCategory start stop).map _,
    fun kind offset h => checkRange_of_mem_tiles kind _ h, fun kind offset h c hc => ?_⟩
  obtain ⟨split, barrier, D⟩ := kind.exists_delimits
  have hsound := hc.sound D (sound_ofText kind barrier h)
  exact ⟨hsound.saved, hsound.exists_step D⟩

end Text
end TextBoundary
