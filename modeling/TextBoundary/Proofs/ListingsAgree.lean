import TextBoundary.Proofs.Listings

namespace TextBoundary.Text

variable {t : Text} {before : List Char} {runs : List (List Char)} {filter : WordFilter}

def spans (t : Text) : Nat → List Nat → List Span
  | _, [] => []
  | start, stop :: stops => ⟨start, stop, t.slice start stop⟩ :: t.spans stop stops

def spansIn (t : Text) (mask : Mask) (spans : List Span) : List Span :=
  spans.filter fun s => t.hasCategory s.start s.stop mask = .ok true

/-- The words that calls of `nextWord` give one after the other, up to the first empty one. -/
inductive WordWalk (filter : WordFilter) (t : Text) : Nat → List Span → Prop
  | finish {offset stop : Nat} : t.nextWord offset filter = .ok (stop, stop) → WordWalk filter t offset []
  | step {offset start stop : Nat} {words : List Span} : t.nextWord offset filter = .ok (start, stop) →
      start ≠ stop → WordWalk filter t stop words →
      WordWalk filter t offset (⟨start, stop, t.slice start stop⟩ :: words)

theorem WordWalk.unique {offset : Nat} {words others : List Span} (h : t.WordWalk filter offset words)
    (h' : t.WordWalk filter offset others) : others = words := by
  induction h generalizing others with
  | finish hnext =>
    cases h' with
    | finish => rfl
    | step hnext' hne =>
      cases hnext.symm.trans hnext'
      exact (hne rfl).elim
  | step hnext hne _ ih =>
    cases h' with
    | finish hnext' =>
      cases hnext.symm.trans hnext'
      exact (hne rfl).elim
    | step hnext' _ hrest =>
      cases hnext.symm.trans hnext'
      rw [ih hrest]

theorem WordWalk.of_eq {i j : Nat} {words : List Span} (h : t.WordWalk filter j words)
    (heq : t.nextWord i filter = t.nextWord j filter) : t.WordWalk filter i words := by
  cases h with
  | finish hnext => exact .finish (heq.trans hnext)
  | step hnext hne hrest => exact .step (heq.trans hnext) hne hrest

theorem nextWord_of_le {offset start stop : Nat} (h : t.length ≤ offset)
    (hnext : t.nextWord offset filter = .ok (start, stop)) : start = stop := by
  rw [nextWord] at hnext
  obtain ⟨-, -, hfind⟩ := exists_of_bind_ok hnext
  rw [findWord.eq_def, if_pos h] at hfind
  cases hfind
  rfl

theorem spans_lay (ht : t.chars = before ++ runs.flatten) :
    t.spans (t.units.length before) ((Span.lay t.units (t.units.length before) runs).map Span.stop)
      = Span.lay t.units (t.units.length before) runs := by
  induction runs generalizing before with
  | nil => rfl
  | cons run runs ih =>
    rw [List.flatten_cons] at ht
    rw [Span.lay, List.map_cons, spans, ← Units.length_append, slice_eq ht,
      ih (by rw [ht, List.append_assoc])]

theorem hasCategory_of_mem_lay (ht : t.chars = before ++ runs.flatten) {s : Span}
    (h : s ∈ Span.lay t.units (t.units.length before) runs) (mask : Mask) :
    t.hasCategory s.start s.stop mask = .ok (anyCategory mask s.chars) := by
  obtain ⟨u, v, heq, -, hstart, hstop⟩ := Span.mem_lay h
  rw [hstart, hstop]
  exact hasCategory_eq (ht.trans heq) mask

theorem spansIn_lay (ht : t.chars = before ++ runs.flatten) (filter : WordFilter) :
    t.spansIn filter.mask (Span.lay t.units (t.units.length before) runs)
      = Span.keep (some filter) (Span.lay t.units (t.units.length before) runs) := by
  apply List.filter_congr
  intro s hs
  simp only [hasCategory_of_mem_lay ht hs, Except.ok.injEq, Bool.decide_eq_true]
  rfl

theorem wordWalk_parts (h : Kind.word.Parts runs) (ht : t.chars = before ++ runs.flatten)
    (filter : WordFilter) :
    t.WordWalk filter (t.units.length before)
      (Span.keep (some filter) (Span.lay t.units (t.units.length before) runs)) := by
  induction h generalizing before with
  | nil => exact .finish (nextWord_eq ht .nil filter)
  | @cons run runs hleads hparts ih =>
    have hnext := nextWord_eq ht (hparts.cons hleads) filter
    have hpos : 0 < t.units.length run :=
      Nat.pos_of_ne_zero (mt Units.length_eq_zero.mp hleads.ne_nil)
    rw [List.flatten_cons] at ht
    have hshort : t.chars = (before ++ run) ++ runs.flatten := by rw [ht, List.append_assoc]
    have hslice := slice_eq ht
    have hrest := ih hshort
    have hbehind := nextWord_eq hshort hparts filter
    rw [Units.length_append] at hslice hrest hbehind
    rw [Span.keep, Span.lay, List.filter_cons]
    cases haccepts : filter.accepts run with
    | true =>
      rw [Span.firstWord_cons, haccepts, if_pos rfl] at hnext
      have hstep := WordWalk.step hnext (Nat.ne_of_lt (Nat.lt_add_of_pos_right hpos)) hrest
      rwa [hslice] at hstep
    | false =>
      -- the run is passed over, so the next word is the one behind it
      rw [Span.firstWord_cons, haccepts, if_neg Bool.false_ne_true] at hnext
      exact hrest.of_eq (hnext.trans hbehind.symm)

/-- Every listing tells the spans between the positions that the finder gives from an offset on: all of them,
the first one, their number, their width, or the words among them. -/
theorem listings_agree (t : Text) {offset : Nat} (h : t.isBoundary offset) :
    ∃ found : Kind → List Nat,
      (∀ kind others, t.Walk kind offset others ↔ others = found kind)
      ∧ (∀ kind, t.segments kind offset none = .ok (t.spans offset (found kind)))
      ∧ (∀ kind filter, kind ≠ .word →
        t.segments kind offset filter = .ok (t.spans offset (found kind)))
      ∧ t.graphemes offset = .ok (t.spans offset (found .grapheme))
      ∧ t.sentences offset = .ok (t.spans offset (found .sentence))
      ∧ t.nextGrapheme offset = .ok (t.firstEnds (t.spans offset (found .grapheme)))
      ∧ t.nextSentence offset = .ok (t.firstEnds (t.spans offset (found .sentence)))
      ∧ t.graphemeLength offset = .ok (t.spans offset (found .grapheme)).length
      ∧ t.graphemeWidth offset = .ok ((t.spans offset (found .grapheme)).length
        + (t.spans offset (found .grapheme)).countP fun s =>
          s.chars.any fun c => (GeneralCategory.of c.toNat).meets GeneralCategory.wide)
      ∧ (∀ kind, ∀ s ∈ t.spans offset (found kind), ∀ mask, t.hasCategory s.start s.stop mask
        = .ok (s.chars.any fun c => (GeneralCategory.of c.toNat).meets mask))
      ∧ ∀ filter,
        t.words offset filter = .ok (t.spansIn filter.mask (t.spans offset (found .word)))
        ∧ t.segments .word offset (some filter)
          = .ok (t.spansIn filter.mask (t.spans offset (found .word)))
        ∧ ∀ others, t.WordWalk filter offset others
          ↔ others = t.spansIn filter.mask (t.spans offset (found .word)) := by
  obtain ⟨before, after, ht, rfl⟩ := exists_cut h
  choose runs hparts hruns using fun kind : Kind => kind.exists_parts after
  have ht (kind : Kind) : t.chars = before ++ (runs kind).flatten := by rw [ht, hruns]
  refine ⟨fun kind => (Span.lay t.units (t.units.length before) (runs kind)).map Span.stop, ?_⟩
  simp only [spans_lay (ht _), spansIn_lay (ht _), firstEnds_lay (ht _)]
  refine ⟨fun kind others => ?_, fun kind => ?_, fun kind filter hkind => ?_, graphemes_eq (ht _) (hparts _),
    sentences_eq (ht _) (hparts _), nextGrapheme_eq (ht _) (hparts _), nextSentence_eq (ht _) (hparts _),
    ?_, ?_, fun kind s hs mask => hasCategory_of_mem_lay (ht kind) hs mask,
    fun filter => ⟨words_eq (ht _) (hparts _) filter, segments_eq (ht _) (hparts _) (some filter),
      fun others => ?_⟩⟩
  · have hwalk := walk_parts (hparts kind) (ht kind)
    exact ⟨hwalk.unique, fun heq => heq ▸ hwalk⟩
  · rw [segments_eq (ht kind) (hparts kind), ite_self]
    rfl
  · rw [segments_eq (ht kind) (hparts kind), if_neg hkind]
    rfl
  · rw [graphemeLength_eq (ht _) (hparts _), Span.length_lay]
  · rw [graphemeWidth_eq (ht _) (hparts _), Span.length_lay, ← Span.countP_chars_lay]
    rfl
  · have hwalk := wordWalk_parts (hparts .word) (ht .word) filter
    exact ⟨hwalk.unique, fun heq => heq ▸ hwalk⟩

theorem words_between_blanks :
    let t : Text := ⟨.bytes, ['a', ' ', ' ', 'b', '1', '.']⟩
    t.isBoundary 1 ∧ ∃ found, t.Walk .word 1 found
      ∧ t.words 1 .default = .ok (t.spansIn WordFilter.default.mask (t.spans 1 found))
      ∧ t.WordWalk .default 1 (t.spansIn WordFilter.default.mask (t.spans 1 found))
      ∧ t.words 1 .default = .ok [⟨3, 5, ['b', '1']⟩] := by
  intro t
  have h : t.isBoundary 1 := by decide
  obtain ⟨found, hwalk, -, -, -, -, -, -, -, -, -, hwords⟩ := listings_agree t h
  obtain ⟨hlisted, -, hone⟩ := hwords .default
  exact ⟨h, found .word, (hwalk .word _).mpr rfl, hlisted, (hone _).mpr rfl, by decide +kernel⟩

end TextBoundary.Text
