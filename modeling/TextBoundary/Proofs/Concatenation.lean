import Mathlib.Data.List.Sort
import TextBoundary.Proofs.UnitsAgree

/-! Texts put one behind the other. A scan does not look back, so what is found from a position on does not
hang on what stands before it. The other way round it is so for clusters only: their rules ask for no more
than the next character, so a boundary found before the end of a text stays where it is when more follows. -/

namespace TextBoundary

variable {kind : Kind} {units : Units} {before : List Char} {runs : List (List Char)}

namespace Span

def shift (distance : Nat) (s : Span) : Span := ⟨distance + s.start, distance + s.stop, s.chars⟩

theorem map_shift_lay (distance offset : Nat) :
    (lay units offset runs).map (shift distance) = lay units (distance + offset) runs := by
  induction runs generalizing offset with
  | nil => rfl
  | cons run runs ih =>
    rw [lay, List.map_cons, ih, lay, shift, Nat.add_assoc]

end Span

namespace Text

variable {t : Text} {offset : Nat} {front more : List Char} {α : Type}

def behind (t : Text) (front : List Char) : Text := { t with chars := front ++ t.chars }

def followedBy (t : Text) (more : List Char) : Text := { t with chars := t.chars ++ more }

def tail (t : Text) (offset : Nat) : Text := { t with chars := (t.suffix? offset).getD [] }

theorem Told.agree_behind {kind : Kind} {answer : Text → Nat → Except TextError α} {move : (Nat → Nat) → α → α}
    (h : Told kind answer move) {s t : Text} {i j distance : Nat} {rest : List Char} (hs : s.suffix? i = some rest)
    (ht : t.suffix? j = some rest) (hunits : s.units = t.units) (hj : distance + i = j) :
    Agree (move (distance + ·)) (answer s i) (answer t j) := by
  obtain ⟨told, hanswer, hmove⟩ := h
  obtain ⟨runs, hparts, rfl⟩ := kind.exists_parts rest
  obtain ⟨before, hchars, rfl⟩ := s.units.drop?_eq_some hs
  obtain ⟨front, hchars', rfl⟩ := t.units.drop?_eq_some ht
  have hstop : distance + s.length = t.length := by
    rw [length_eq hchars, length_eq hchars', hunits, ← Nat.add_assoc, ← hunits, hj, hunits]
  refine ⟨_, hanswer hchars hparts, ?_⟩
  rw [hmove, hstop, hanswer hchars' hparts, ← hj, ← Span.map_shift_lay, hunits]
  rfl

/-- What stands before a position makes no difference to what is found from there on: a finder answers as in
a text with more before it, and the rest of a text is listed and counted like a text of its own. -/
theorem front_makes_no_difference (front : List Char) (t : Text) {offset : Nat} (h : t.isBoundary offset) :
    (∀ kind, Agree (t.units.length front + ·) (t.nextBreak kind offset)
      ((t.behind front).nextBreak kind (t.units.length front + offset)))
    ∧ (∀ kind, Agree (List.map (offset + ·)) ((t.tail offset).breaks kind 0) (t.breaks kind offset))
    ∧ (∀ kind filter, Agree (List.map (Span.shift offset)) ((t.tail offset).segments kind 0 filter)
      (t.segments kind offset filter))
    ∧ Agree (List.map (Span.shift offset)) ((t.tail offset).graphemes 0) (t.graphemes offset)
    ∧ (∀ filter, Agree (List.map (Span.shift offset)) ((t.tail offset).words 0 filter)
      (t.words offset filter))
    ∧ Agree (List.map (Span.shift offset)) ((t.tail offset).sentences 0) (t.sentences offset)
    ∧ (∀ filter, Agree (Prod.map (offset + ·) (offset + ·)) ((t.tail offset).nextWord 0 filter)
      (t.nextWord offset filter))
    ∧ Agree id ((t.tail offset).graphemeLength 0) (t.graphemeLength offset)
    ∧ Agree id ((t.tail offset).graphemeWidth 0) (t.graphemeWidth offset) := by
  obtain ⟨before, rest, ht, rfl⟩ := exists_cut h
  have hsuffix := suffix?_eq ht
  have hlong : (t.behind front).suffix? (t.units.length front + t.units.length before) = some rest := by
    rw [← Units.length_append]
    exact suffix?_eq (t := t.behind front) (by rw [behind, ht, List.append_assoc])
  have htail : (t.tail (t.units.length before)).suffix? 0 = some rest :=
    suffix?_eq (show (t.tail _).chars = [] ++ rest by rw [tail, hsuffix]; rfl)
  generalize t.units.length before = offset at *
  exact ⟨fun kind => (told_nextBreak kind).agree_behind hsuffix hlong rfl rfl,
    fun kind => (told_breaks kind).agree_behind htail hsuffix rfl rfl,
    fun kind filter => (told_segments kind filter).agree_behind htail hsuffix rfl rfl,
    told_graphemes.agree_behind htail hsuffix rfl rfl,
    fun filter => (told_words filter).agree_behind htail hsuffix rfl rfl,
    told_sentences.agree_behind htail hsuffix rfl rfl,
    fun filter => (told_nextWord filter).agree_behind htail hsuffix rfl rfl,
    told_graphemeLength.agree_behind htail hsuffix rfl (Nat.add_zero offset),
    told_graphemeWidth.agree_behind htail hsuffix rfl (Nat.add_zero offset)⟩

theorem line_feed_behind_carriage_return :
    let t : Text := ⟨.bytes, ['a', '\r', '\n', 'b']⟩
    t.isBoundary 2 ∧ t.breaks .grapheme 0 = .ok [1, 3, 4]
      ∧ Agree (2 + ·) (t.nextBreak .grapheme 2) ((t.behind ['c', '\r']).nextBreak .grapheme 4)
      ∧ t.nextBreak .grapheme 2 = .ok 3
      ∧ Agree id ((t.tail 2).graphemeLength 0) (t.graphemeLength 2)
      ∧ t.graphemeLength 2 = .ok 2 := by
  intro t
  have h : t.isBoundary 2 := by decide
  obtain ⟨hbreak, -, -, -, -, -, -, hlength, -⟩ := front_makes_no_difference ['c', '\r'] t h
  exact ⟨h, by decide +kernel, hbreak .grapheme, by decide +kernel, hlength, by decide +kernel⟩

end Text

namespace Kind.Delimits

variable {split : List Char → List Char → Bool} {barrier : Mask} {t : Text} {more : List Char}

theorem cut_before_end {after : List Char} (h : (t.followedBy more).chars = before ++ after)
    (hlt : t.units.length before < t.length) :
    ∃ rest, rest ≠ [] ∧ t.chars = before ++ rest ∧ after = rest ++ more := by
  rcases List.append_eq_append_iff.mp h with ⟨w, rfl, -⟩ | ⟨rest, hchars, rfl⟩
  · rw [Units.length_append, Text.length] at hlt
    omega
  · refine ⟨rest, ?_, hchars, rfl⟩
    rintro rfl
    rw [Text.length, hchars, List.append_nil] at hlt
    exact Nat.lt_irrefl _ hlt

theorem boundaries_append (D : kind.Delimits split barrier)
    (hnext : ∀ {back ahead more}, back ≠ [] → ahead ≠ [] → split back (ahead ++ more) = split back ahead)
    (t : Text) (more : List Char) :
    ∃ positions longer, (∀ others, t.Walk kind 0 others ↔ others = positions)
      ∧ t.breaks kind 0 = .ok positions
      ∧ (∀ others, (t.followedBy more).Walk kind 0 others ↔ others = longer)
      ∧ (t.followedBy more).breaks kind 0 = .ok longer
      ∧ longer.filter (· < t.length) = positions.filter (· < t.length) := by
  obtain ⟨positions, hwalk, hbreaks, hsorted, hmem⟩ := D.boundaries t
  obtain ⟨longer, hwalk', hbreaks', hsorted', hmem'⟩ := D.boundaries (t.followedBy more)
  refine ⟨positions, longer, hwalk, hbreaks, hwalk', hbreaks', ?_⟩
  apply List.Pairwise.eq_of_mem_iff (hsorted'.filter _) (hsorted.filter _)
  intro p
  simp only [List.mem_filter, decide_eq_true_eq, and_congr_left_iff, hmem, hmem']
  intro hp
  constructor
  · rintro ⟨before, after, heq, hbefore, rfl, hend⟩
    obtain ⟨rest, hrest, hchars, rfl⟩ := cut_before_end heq hp
    rw [hnext (List.reverse_ne_nil_iff.mpr hbefore) hrest] at hend
    exact ⟨before, rest, hchars, hbefore, rfl, hend.imp_left fun h => (List.append_eq_nil_iff.mp h).1⟩
  · rintro ⟨before, after, heq, hbefore, rfl, hend⟩
    have hlong : (t.followedBy more).chars = before ++ (after ++ more) := by
      rw [Text.followedBy, heq, List.append_assoc]
    obtain ⟨rest, hrest, -, hafter⟩ := cut_before_end hlong hp
    obtain rfl := List.append_cancel_right hafter
    refine ⟨before, after ++ more, hlong, hbefore, rfl, .inr ?_⟩
    rw [hnext (List.reverse_ne_nil_iff.mpr hbefore) hrest]
    exact hend.resolve_left hrest

end Kind.Delimits

namespace Break.Grapheme

theorem splitAt_append {back ahead more : List Char} (hback : back ≠ []) (hahead : ahead ≠ []) :
    GraphemeBreak.rules.splitAt back (ahead ++ more) = GraphemeBreak.rules.splitAt back ahead := by
  obtain ⟨a, back, rfl⟩ := List.exists_cons_of_ne_nil hback
  obtain ⟨b, ahead, rfl⟩ := List.exists_cons_of_ne_nil hahead
  rw [List.cons_append, GraphemeBreak.splitAt_cons, GraphemeBreak.splitAt_cons]

/-- The boundaries of clusters that lie before the end of a text stay the same, whatever text follows. -/
theorem clusters_before_the_end_are_final (t : Text) (more : List Char) :
    ∃ positions longer, (∀ others, t.Walk .grapheme 0 others ↔ others = positions)
      ∧ t.breaks .grapheme 0 = .ok positions
      ∧ (∀ others, (t.followedBy more).Walk .grapheme 0 others ↔ others = longer)
      ∧ (t.followedBy more).breaks .grapheme 0 = .ok longer
      ∧ longer.filter (· < t.length) = positions.filter (· < t.length) :=
  delimits.boundaries_append splitAt_append t more

end Break.Grapheme
end TextBoundary
