import TextBoundary.Cluster
import TextBoundary.Proofs.Parts

namespace TextBoundary

variable {kind : Kind} {units : Units} {before : List Char} {runs : List (List Char)}

namespace Span

def firstWord (filter : WordFilter) (units : Units) (offset : Nat) (runs : List (List Char)) : Span :=
  let stop := offset + units.length runs.flatten
  ((lay units offset runs).find? fun s => filter.accepts s.chars).getD ⟨stop, stop, []⟩

def move (f : Nat → Nat) (s : Span) : Span := ⟨f s.start, f s.stop, s.chars⟩

theorem map_move_keep (f : Nat → Nat) (filter : Option WordFilter) (spans : List Span) :
    (keep filter spans).map (move f) = keep filter (spans.map (move f)) := by
  cases filter with
  | none => rfl
  | some filter =>
    rw [keep, keep, List.filter_map]
    rfl

theorem countP_chars_lay (p : List Char → Bool) (offset : Nat) :
    (lay units offset runs).countP (fun s => p s.chars) = runs.countP p := by
  have hmap : (lay units offset runs).map chars = runs := map_chars_lay offset
  conv_rhs => rw [← hmap, List.countP_map]
  rfl

theorem firstWord_cons (filter : WordFilter) (offset : Nat) (run : List Char) :
    firstWord filter units offset (run :: runs)
      = if filter.accepts run then ⟨offset, offset + units.length run, run⟩
        else firstWord filter units (offset + units.length run) runs := by
  cases h : filter.accepts run <;> simp [firstWord, lay, h, Nat.add_assoc]

end Span

namespace Text

variable {t : Text}

theorem hasCategory_eq {run rest : List Char} (ht : t.chars = before ++ (run ++ rest)) (mask : Mask) :
    t.hasCategory (t.units.length before) (t.units.length (before ++ run)) mask
      = .ok (anyCategory mask run) := by
  rw [hasCategory, checkRange, checkOffset_eq ht, checkOffset_eq (by rw [ht, List.append_assoc]),
    slice_eq ht, Units.length_append, if_neg (Nat.not_lt.mpr (Nat.le_add_right _ _))]
  rfl

theorem findWord_eq (h : Kind.word.Parts runs) (ht : t.chars = before ++ runs.flatten) (filter : WordFilter)
    {rounds : Nat} (hr : runs.length ≤ rounds) :
    t.findWord filter.mask rounds (t.units.length before)
      = .ok ((Span.firstWord filter t.units (t.units.length before) runs).start,
        (Span.firstWord filter t.units (t.units.length before) runs).stop) := by
  induction h generalizing before rounds with
  | nil =>
    rw [findWord.eq_def, if_pos (show t.length ≤ t.units.length before from Nat.le_of_eq (length_eq ht))]
    rfl
  | @cons run runs hleads hparts ih =>
    obtain ⟨rounds, rfl⟩ := Nat.exists_eq_add_of_le' (Nat.lt_of_lt_of_le (Nat.succ_pos _) hr)
    have hbreak := breakFrom_parts (hparts.cons hleads) ht
    rw [List.flatten_cons] at ht
    have hlt := lt_length_of_leads hleads ht
    have hcategory := hasCategory_eq ht filter.mask
    rw [findWord, if_neg (Nat.not_le.mpr hlt), hbreak, List.headD_cons, ok_bind, hcategory,
      ok_bind, Span.firstWord_cons]
    cases haccepts : filter.accepts run with
    | true =>
      have hany : anyCategory filter.mask run = true := haccepts
      simp only [hany, Units.length_append, ↓reduceIte]
      rfl
    | false =>
      have hany : anyCategory filter.mask run = false := haccepts
      simp only [hany, ← Units.length_append, Bool.false_eq_true, ↓reduceIte]
      exact ih (by rw [ht, List.append_assoc]) (Nat.le_of_succ_le_succ hr)

theorem foldl_lay {α : Type} (add : α → List Char → α) (ht : t.chars = before ++ runs.flatten) (a : α) :
    (Span.lay t.units (t.units.length before) runs).foldl (fun a s => add a (t.slice s.start s.stop)) a
      = runs.foldl add a := by
  induction runs generalizing before a with
  | nil => rfl
  | cons run runs ih =>
    rw [List.flatten_cons] at ht
    rw [Span.lay, List.foldl_cons, ← Units.length_append, slice_eq ht, ih (by rw [ht, List.append_assoc]),
      List.foldl_cons]

theorem foldl_width (p : List Char → Bool) (width : Nat) :
    runs.foldl (fun width run => width + if p run then 2 else 1) width = width + (runs.length + runs.countP p) := by
  induction runs generalizing width with
  | nil => rfl
  | cons run runs ih =>
    rw [List.foldl_cons, ih, List.length_cons, List.countP_cons]
    split <;> omega

theorem overClusters_eq {α : Type} (step : α → Nat → Nat → α) (h : Kind.grapheme.Parts runs)
    (ht : t.chars = before ++ runs.flatten) {rounds : Nat} (hr : runs.length ≤ rounds) (a : α) :
    t.overClusters step rounds (t.units.length before) a
      = .ok ((Span.lay t.units (t.units.length before) runs).foldl (fun a s => step a s.start s.stop) a) := by
  induction h generalizing before rounds a with
  | nil =>
    rw [overClusters.eq_def, if_pos (show t.length ≤ t.units.length before from Nat.le_of_eq (length_eq ht))]
    rfl
  | @cons run runs hleads hparts ih =>
    obtain ⟨rounds, rfl⟩ := Nat.exists_eq_add_of_le' (Nat.lt_of_lt_of_le (Nat.succ_pos _) hr)
    have hbreak := breakFrom_parts (hparts.cons hleads) ht
    rw [List.flatten_cons] at ht
    have hlt := lt_length_of_leads hleads ht
    rw [overClusters, if_neg (Nat.not_le.mpr hlt), hbreak, List.headD_cons, ok_bind,
      ih (by rw [ht, List.append_assoc]) (Nat.le_of_succ_le_succ hr), Units.length_append]
    rfl

section Parts

variable (ht : t.chars = before ++ runs.flatten)
include ht

theorem graphemes_eq (h : Kind.grapheme.Parts runs) :
    t.graphemes (t.units.length before) = .ok (Span.lay t.units (t.units.length before) runs) := by
  rw [graphemes, checkOffset_eq ht, tiles_eq h ht]
  rfl

theorem sentences_eq (h : Kind.sentence.Parts runs) :
    t.sentences (t.units.length before) = .ok (Span.lay t.units (t.units.length before) runs) := by
  rw [sentences, checkOffset_eq ht, tiles_eq h ht]
  rfl

theorem words_eq (h : Kind.word.Parts runs) (filter : WordFilter) :
    t.words (t.units.length before) filter
      = .ok (Span.keep (some filter) (Span.lay t.units (t.units.length before) runs)) := by
  rw [words, checkOffset_eq ht, tiles_eq h ht]
  rfl

theorem segments_eq (h : kind.Parts runs) (filter : Option WordFilter) :
    t.segments kind (t.units.length before) filter
      = .ok (Span.keep (if kind = .word then filter else none)
        (Span.lay t.units (t.units.length before) runs)) := by
  rw [segments, checkOffset_eq ht, tiles_eq h ht]
  cases kind <;> rfl

theorem nextGrapheme_eq (h : Kind.grapheme.Parts runs) :
    t.nextGrapheme (t.units.length before)
      = .ok (t.units.length before, t.units.length (before ++ runs.headD [])) := by
  rw [nextGrapheme, checkOffset_eq ht, breakFrom_parts h ht]
  rfl

theorem nextSentence_eq (h : Kind.sentence.Parts runs) :
    t.nextSentence (t.units.length before)
      = .ok (t.units.length before, t.units.length (before ++ runs.headD [])) := by
  rw [nextSentence, checkOffset_eq ht, breakFrom_parts h ht]
  rfl

theorem nextWord_eq (h : Kind.word.Parts runs) (filter : WordFilter) :
    t.nextWord (t.units.length before) filter
      = .ok ((Span.firstWord filter t.units (t.units.length before) runs).start,
        (Span.firstWord filter t.units (t.units.length before) runs).stop) := by
  rw [nextWord, checkOffset_eq ht]
  exact findWord_eq h ht filter (length_le_rounds h ht)

theorem graphemeLength_eq (h : Kind.grapheme.Parts runs) :
    t.graphemeLength (t.units.length before) = .ok runs.length := by
  have hcount : runs.foldl (fun count _ => count + 1) 0 = runs.length := by
    rw [List.foldl_add_const, Nat.one_mul, Nat.zero_add]
  rw [graphemeLength, checkOffset_eq ht, ← hcount, ← foldl_lay _ ht]
  exact overClusters_eq _ h ht (length_le_rounds h ht) 0

theorem graphemeWidth_eq (h : Kind.grapheme.Parts runs) :
    t.graphemeWidth (t.units.length before)
      = .ok (runs.length + runs.countP (anyCategory GeneralCategory.wide)) := by
  rw [graphemeWidth, checkOffset_eq ht, ← Nat.zero_add (_ + _), ← foldl_width, ← foldl_lay _ ht]
  exact overClusters_eq _ h ht (length_le_rounds h ht) 0

end Parts

def firstEnds (t : Text) (spans : List Span) : Nat × Nat :=
  (spans.head?.map fun s => (s.start, s.stop)).getD (t.length, t.length)

theorem firstEnds_lay (ht : t.chars = before ++ runs.flatten) :
    t.firstEnds (Span.lay t.units (t.units.length before) runs)
      = (t.units.length before, t.units.length (before ++ runs.headD [])) := by
  cases runs with
  | nil =>
    rw [Span.lay, firstEnds, length, ht, List.flatten_nil, List.headD_nil, List.append_nil]
    rfl
  | cons run runs =>
    rw [List.headD_cons, Units.length_append]
    rfl

/-- What an operation answers at a position is told by the spans from there on and the end of the text. With
`move` it says the same of spans at other positions. -/
def Told {α : Type} (kind : Kind) (answer : Text → Nat → Except TextError α) (move : (Nat → Nat) → α → α) : Prop :=
  ∃ told : List Span → Nat → α,
    (∀ {t : Text} {before : List Char} {runs : List (List Char)}, t.chars = before ++ runs.flatten →
      kind.Parts runs → answer t (t.units.length before)
        = .ok (told (Span.lay t.units (t.units.length before) runs) t.length))
    ∧ ∀ f spans stop, move f (told spans stop) = told (spans.map (Span.move f)) (f stop)

theorem told_nextBreak (kind : Kind) : Told kind (nextBreak kind) fun f => f := by
  refine ⟨fun spans stop => ((spans.head?.map Span.stop).getD stop), fun {t before runs} ht h => ?_,
    fun f spans stop => by cases spans <;> rfl⟩
  rw [nextBreak_parts h ht]
  cases runs with
  | nil => rw [length_eq ht, List.headD_nil, List.append_nil]; rfl
  | cons run runs => rw [List.headD_cons, Units.length_append]; rfl

theorem told_breaks (kind : Kind) : Told kind (breaks kind) fun f => List.map f :=
  ⟨fun spans _ => spans.map Span.stop, fun ht h => breaks_parts h ht, fun f spans _ => by simp [Span.move]⟩

theorem told_nextGrapheme : Told .grapheme nextGrapheme fun f => Prod.map f f := by
  refine ⟨fun spans stop => (spans.head?.map fun s => (s.start, s.stop)).getD (stop, stop), fun ht h => ?_,
    fun f spans stop => by cases spans <;> rfl⟩
  rw [nextGrapheme_eq ht h, ← firstEnds_lay ht, firstEnds]

theorem told_nextSentence : Told .sentence nextSentence fun f => Prod.map f f := by
  refine ⟨fun spans stop => (spans.head?.map fun s => (s.start, s.stop)).getD (stop, stop), fun ht h => ?_,
    fun f spans stop => by cases spans <;> rfl⟩
  rw [nextSentence_eq ht h, ← firstEnds_lay ht, firstEnds]

theorem told_nextWord (filter : WordFilter) :
    Told .word (fun t offset => t.nextWord offset filter) fun f => Prod.map f f := by
  refine ⟨fun spans stop => let word := (spans.find? fun s => filter.accepts s.chars).getD ⟨stop, stop, []⟩
    (word.start, word.stop), fun ht h => ?_, fun f spans stop => ?_⟩
  · dsimp only
    rw [nextWord_eq ht h, length_eq ht, Span.firstWord]
  · have hchars : (fun s : Span => filter.accepts s.chars) ∘ Span.move f = fun s => filter.accepts s.chars := rfl
    dsimp only
    rw [List.find?_map, hchars]
    cases spans.find? fun s => filter.accepts s.chars <;> rfl

theorem told_graphemes : Told .grapheme graphemes fun f => List.map (Span.move f) :=
  ⟨fun spans _ => spans, graphemes_eq, fun _ _ _ => rfl⟩

theorem told_sentences : Told .sentence sentences fun f => List.map (Span.move f) :=
  ⟨fun spans _ => spans, sentences_eq, fun _ _ _ => rfl⟩

theorem told_words (filter : WordFilter) :
    Told .word (fun t offset => t.words offset filter) fun f => List.map (Span.move f) :=
  ⟨fun spans _ => Span.keep (some filter) spans, fun ht h => words_eq ht h filter,
    fun f spans _ => Span.map_move_keep f _ spans⟩

theorem told_segments (kind : Kind) (filter : Option WordFilter) :
    Told kind (fun t offset => t.segments kind offset filter) fun f => List.map (Span.move f) :=
  ⟨fun spans _ => Span.keep (if kind = .word then filter else none) spans, fun ht h => segments_eq ht h filter,
    fun f spans _ => Span.map_move_keep f _ spans⟩

theorem told_graphemeLength : Told .grapheme graphemeLength fun _ => id := by
  refine ⟨fun spans _ => spans.length, fun ht h => ?_, fun f spans _ => ?_⟩
  · exact (graphemeLength_eq ht h).trans (congrArg Except.ok (Span.length_lay _).symm)
  · exact (List.length_map _).symm

theorem told_graphemeWidth : Told .grapheme graphemeWidth fun _ => id := by
  refine ⟨fun spans _ => spans.length + spans.countP fun s => anyCategory GeneralCategory.wide s.chars,
    fun ht h => ?_, fun f spans _ => ?_⟩ <;> dsimp only
  · rw [graphemeWidth_eq ht h, Span.length_lay, Span.countP_chars_lay]
  · rw [List.length_map, List.countP_map]
    rfl

end Text
end TextBoundary
