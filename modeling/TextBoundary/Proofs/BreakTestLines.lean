import Mathlib.Data.Finset.Sort
import Mathlib.Order.Interval.Finset.Nat
import TextBoundary.BreakTest
import TextBoundary.Proofs.BlankFields
import TextBoundary.Proofs.HexWords

namespace TextBoundary

open Blank (Blanks)

namespace Blank

/-- Fields in a text with blanks between any two of them, and maybe behind the last. -/
inductive Spaced : List (List Char) → List Char → Prop
  | last {field back : List Char} (hback : Blanks back) : Spaced [field] (field ++ back)
  | cons {field gap text : List Char} {others : List (List Char)} (hne : gap ≠ []) (hgap : Blanks gap)
    (htext : Spaced others text) : Spaced (field :: others) (field ++ (gap ++ text))

variable {c : Char} {text : List Char} {parts : List (List Char)}

theorem Spaced.fields_eq (h : Spaced parts text)
    (hparts : ∀ field ∈ parts, field ≠ [] ∧ ∀ c ∈ field, isBlank c = false) : fields text = parts := by
  induction h with
  | last hback =>
    obtain ⟨hne, hfield⟩ := hparts _ (.head _)
    rw [fields_append_blanks hback, fields_run hne hfield]
  | @cons field gap text others hne hgap _ ih =>
    obtain ⟨⟨hfield, hplain⟩, hothers⟩ := List.forall_mem_cons.mp hparts
    obtain ⟨b, gap, rfl⟩ := List.exists_cons_of_ne_nil hne
    obtain ⟨hb, hgap⟩ := List.forall_mem_cons.mp hgap
    rw [List.cons_append, fields_append_blank hb, fields_run hfield hplain, fields_blanks_append hgap, ih hothers,
      List.singleton_append]

theorem Spaced.not_mem (h : Spaced parts text) (hc : isBlank c = false) (hparts : ∀ field ∈ parts, c ∉ field) :
    c ∉ text := by
  have hgap {gap : List Char} (hgap : Blanks gap) : c ∉ gap := fun hmem => by
    rw [hgap c hmem] at hc
    exact nomatch hc
  induction h with
  | last hback => simpa using ⟨hparts _ (.head _), hgap hback⟩
  | cons _ hgap' _ ih =>
    obtain ⟨hfield, hothers⟩ := List.forall_mem_cons.mp hparts
    simpa using ⟨hfield, hgap hgap', ih hothers⟩

theorem blanks_space : Blanks [' '] := List.forall_mem_singleton.mpr rfl

theorem spaced_intercalate (h : parts ≠ []) : Spaced parts ([' '].intercalate parts) := by
  induction parts with
  | nil => exact absurd rfl h
  | cons field others ih =>
    cases others with
    | nil =>
      have hlast : Spaced [field] (field ++ []) := .last (List.forall_mem_nil _)
      rw [List.append_nil] at hlast
      exact List.intercalate_singleton.symm ▸ hlast
    | cons next others =>
      rw [List.intercalate_cons_cons, List.append_assoc]
      exact .cons (List.cons_ne_nil _ _) blanks_space (ih (List.cons_ne_nil _ _))

theorem trim_blanks (h : Blanks text) : trim text = [] := by
  rw [trim, List.dropWhile_eq_nil_iff.mpr h]
  rfl

end Blank

namespace BreakTest

/-- A text, and those of the positions inside it that are to be boundaries. -/
structure Statement where
  chars : List Char
  splits : Finset Nat
  chars_ne_nil : chars ≠ []
  splits_subset : splits ⊆ Finset.Ioo 0 chars.length
  deriving DecidableEq

namespace Statement

def breaks (s : Statement) : List Nat := s.splits.sort ++ [s.chars.length]

def mark (s : Statement) (position : Nat) : List Char :=
  if position ∈ s.breaks then breakMark else noBreakMark

def fields (s : Statement) (words : List (List Char)) : List (List Char) :=
  breakMark :: (words.zipIdx 1).flatMap fun (word, position) => [word, s.mark position]

end Statement

abbrev Spelled (words : List (List Char)) (chars : List Char) : Prop :=
  List.Forall₂ (fun word c => CodePoint.Spells word c.toNat) words chars

def Comment (cs : List Char) : Prop := ∀ c ∈ cs.head?, c = '#'

theorem comment_hash (cs : List Char) : Comment ('#' :: cs) := fun _ h => (Option.some.inj h).symm

/-- A line with a statement, or with none. -/
inductive Line : Option Statement → List Char → Prop
  | test {s : Statement} {words : List (List Char)} {front text comment : List Char}
    (hwords : Spelled words s.chars) (hfront : Blanks front)
    (htext : Blank.Spaced (s.fields words) text) (hcomment : Comment comment) :
    Line (some s) (front ++ (text ++ comment))
  | bare {front comment : List Char} (hfront : Blanks front) (hcomment : Comment comment) :
    Line none (front ++ comment)

/-- The lines of a text one by one; after the last there may be an empty one. -/
inductive States (content : String) (entries : List (Option Statement)) : Prop
  | lines {lines : List (List Char)} (hcontent : content.toList = ['\n'].intercalate lines)
    (hends : ∀ line ∈ lines, '\n' ∉ line) (hlines : List.Forall₂ Line entries lines) : States content entries

def numbered (first : Nat) (entries : List (Option Statement)) : List (Nat × Statement) :=
  (entries.zipIdx first).filterMap fun (entry, number) => entry.map (number, ·)

structure Gives (t : BreakTest) (entry : Nat × Statement) : Prop where
  line_eq : t.line = entry.1
  chars_eq : t.chars = entry.2.chars
  breaks_eq : t.breaks = entry.2.breaks

variable {s : Statement} {c : Char} {word : List Char} {words : List (List Char)} {chars : List Char}

namespace Statement

theorem mem_breaks (s : Statement) {position : Nat} :
    position ∈ s.breaks ↔ position ∈ s.splits ∨ position = s.chars.length := by
  simp [breaks]

theorem inside (s : Statement) {position : Nat} (h : position ∈ s.splits) :
    0 < position ∧ position < s.chars.length := Finset.mem_Ioo.mp (s.splits_subset h)

theorem sortedLT_breaks (s : Statement) : s.breaks.SortedLT := by
  have hlast : ∀ p ∈ s.splits.sort, ∀ q ∈ [s.chars.length], p < q := fun p hp q hq => by
    rw [List.mem_singleton.mp hq]
    exact (s.inside ((Finset.mem_sort _).mp hp)).2
  have hsorted := s.splits.sortedLT_sort.pairwise
  exact (List.pairwise_append.mpr ⟨hsorted, List.pairwise_singleton _ _, hlast⟩).sortedLT

theorem filter_range' (s : Statement) : (List.range' 1 s.chars.length).filter (· ∈ s.breaks) = s.breaks := by
  have hsorted : ((List.range' 1 s.chars.length).filter (· ∈ s.breaks)).SortedLT :=
    ((List.pairwise_lt_range' 1).filter _).sortedLT
  refine hsorted.eq_of_mem_iff s.sortedLT_breaks fun p => ?_
  rw [List.mem_filter, decide_eq_true_eq, and_iff_right_iff_imp, s.mem_breaks, List.mem_range'_1]
  have hpos : 0 < s.chars.length := List.length_pos_of_ne_nil s.chars_ne_nil
  rintro (hp | rfl)
  · have := s.inside hp
    omega
  · omega

theorem mark_length (s : Statement) : s.mark s.chars.length = breakMark :=
  if_pos (s.mem_breaks.mpr (.inr rfl))

theorem mark_eq (s : Statement) (position : Nat) : s.mark position = breakMark ∨ s.mark position = noBreakMark := by
  rw [mark]
  split
  · exact .inl rfl
  · exact .inr rfl

theorem head?_fields (s : Statement) (words : List (List Char)) : (s.fields words).head? = some breakMark := rfl

theorem getLast?_fields (s : Statement) (h : words.length = s.chars.length) :
    (s.fields words).getLast? = some breakMark := by
  rcases List.eq_nil_or_concat' words with rfl | ⟨front, word, rfl⟩
  · exact absurd (List.length_eq_zero_iff.mp h.symm) s.chars_ne_nil
  · have hposition : 1 + front.length = s.chars.length := by simpa [Nat.add_comm] using h
    refine List.getLast?_eq_some_iff.mpr
      ⟨breakMark :: ((front.zipIdx 1).flatMap (fun (word, position) => [word, s.mark position]) ++ [word]), ?_⟩
    simp [fields, List.zipIdx_append, hposition, s.mark_length]

end Statement

theorem ne_mark_of_spells {n : Nat} (h : CodePoint.Spells word n) : word ≠ breakMark ∧ word ≠ noBreakMark := by
  constructor <;> rintro rfl <;> exact absurd (h.plain _ (.head _)).2 (by decide)

theorem exists_spelled (h : Spelled words chars) :
    ∀ word ∈ words, ∃ n, CodePoint.Spells word n := by
  induction h with
  | nil => exact fun _ h => nomatch h
  | cons hword _ ih => exact List.forall_mem_cons.mpr ⟨⟨_, hword⟩, ih⟩

theorem plain_fields (s : Statement) (h : Spelled words chars) :
    ∀ field ∈ s.fields words, field ≠ [] ∧ ∀ c ∈ field, isBlank c = false ∧ c ≠ '#' := by
  have hmark {mark : List Char} (hmark : mark = breakMark ∨ mark = noBreakMark) :
      mark ≠ [] ∧ ∀ c ∈ mark, isBlank c = false ∧ c ≠ '#' := by
    rcases hmark with rfl | rfl <;>
      exact ⟨List.cons_ne_nil _ _, List.forall_mem_singleton.mpr (by decide)⟩
  intro field hfield
  rcases List.mem_cons.mp hfield with rfl | hfield
  · exact hmark (.inl rfl)
  obtain ⟨⟨word, position⟩, hmem, hfield⟩ := List.mem_flatMap.mp hfield
  rcases List.mem_cons.mp hfield with rfl | hfield
  · obtain ⟨n, hword⟩ := exists_spelled h field (List.fst_mem_of_mem_zipIdx hmem)
    exact ⟨hword.ne_nil, fun c hc => ⟨(hword.plain c hc).1, fun heq => (hword.plain c hc).2 (by simp [heq])⟩⟩
  · rw [List.mem_singleton.mp hfield]
    exact hmark (s.mark_eq position)

theorem char?_eq_some_iff : char? word = some c
    ↔ CodePoint.Spells word c.toNat ∨ ∃ digits, word = '+' :: digits ∧ CodePoint.Spells digits c.toNat := by
  have hlt : c.toNat < UInt32.size := c.val.toNat_lt
  simp only [char?, Option.bind_eq_some_iff, CodePoint.char?_iff, exists_eq_right, CodePoint.readHex?_eq_some_iff,
    hlt, and_true]

theorem char?_eq (h : CodePoint.Spells word c.toNat) : char? word = some c := char?_eq_some_iff.mpr (.inl h)

theorem readFields_word (h : CodePoint.Spells word c.toNat) (position : Nat) (fields : List (List Char)) :
    readFields position (word :: fields)
      = (readFields (position + 1) fields).map fun (chars, breaks) => (c :: chars, breaks) := by
  obtain ⟨hbreak, hjoin⟩ := ne_mark_of_spells h
  rw [readFields, if_neg hbreak, if_neg hjoin, char?_eq h]
  cases readFields (position + 1) fields <;> rfl

theorem readFields_mark (s : Statement) (position : Nat) (fields : List (List Char)) :
    readFields position (s.mark position :: fields) = (readFields position fields).map fun (chars, breaks) =>
      (chars, if position ∈ s.breaks then position :: breaks else breaks) := by
  rw [Statement.mark]
  by_cases h : position ∈ s.breaks
  · simp only [h, if_true]
    rw [readFields, if_pos rfl]
    cases readFields position fields <;> rfl
  · simp only [h, if_false]
    rw [readFields, if_neg (by decide), if_pos rfl]
    cases readFields position fields <;> rfl

theorem readFields_eq (s : Statement) (h : Spelled words chars) (position : Nat) :
    readFields position ((words.zipIdx (position + 1)).flatMap fun (word, position) => [word, s.mark position])
      = .ok (chars, (List.range' (position + 1) chars.length).filter (· ∈ s.breaks)) := by
  induction h generalizing position with
  | nil => rfl
  | cons hword _ ih =>
    rw [List.zipIdx_cons, List.flatMap_cons, List.cons_append, List.singleton_append, readFields_word hword,
      readFields_mark, ih, List.length_cons, List.range'_succ, List.filter_cons]
    simp [Except.map]

theorem readLine_eq (number : Nat) (test : List Char) (s : Statement) (h : Spelled words s.chars)
    (hfields : Blank.fields test = s.fields words) :
    readLine number test = .ok ⟨number, String.ofList test, s.chars, s.breaks⟩ := by
  rw [readLine, hfields]
  simp only [s.head?_fields, s.getLast?_fields h.length_eq, and_self, if_true]
  rw [Statement.fields, List.tail_cons, readFields_eq s h 0, s.filter_range']
  rfl

theorem takeWhile_comment {body comment : List Char} (h : '#' ∉ body) (hcomment : Comment comment) :
    (body ++ comment).takeWhile (· != '#') = body := by
  rw [List.takeWhile_append_of_pos fun c hc => bne_iff_ne.mpr (ne_of_mem_of_not_mem hc h)]
  cases comment with
  | nil => exact List.append_nil body
  | cons c comment =>
    obtain rfl : c = '#' := hcomment c rfl
    exact List.append_nil body

theorem not_mem_blanks {front : List Char} (h : Blanks front) : '#' ∉ front := fun hmem =>
  absurd (h '#' hmem) (by decide)

theorem readLines_cons {entry : Option Statement} {line : List Char} (h : Line entry line) (number : Nat)
    (lines : List (List Char)) :
    match entry with
    | none => readLines number (line :: lines) = readLines (number + 1) lines
    | some s => ∃ t : BreakTest, t.Gives (number, s)
      ∧ readLines number (line :: lines) = (readLines (number + 1) lines).map (t :: ·) := by
  cases h with
  | @bare front comment hfront hcomment =>
    have hstrip : strip (front ++ comment) = [] := by
      rw [strip, takeWhile_comment (not_mem_blanks hfront) hcomment, Blank.trim_blanks hfront]
    dsimp only
    rw [readLines, hstrip]
    exact if_pos rfl
  | @test s words front text comment hwords hfront htext hcomment =>
    have hplain := plain_fields s hwords
    have htext' : '#' ∉ text := htext.not_mem (by decide) fun field hfield hmem => ((hplain field hfield).2 _ hmem).2 rfl
    have hfields : Blank.fields (strip (front ++ (text ++ comment))) = s.fields words := by
      have hbody : '#' ∉ front ++ text := by simpa using ⟨not_mem_blanks hfront, htext'⟩
      rw [strip, ← List.append_assoc, takeWhile_comment hbody hcomment, Blank.fields_trim,
        Blank.fields_blanks_append hfront]
      exact htext.fields_eq fun field hfield =>
        ⟨(hplain field hfield).1, fun c hc => ((hplain field hfield).2 c hc).1⟩
    have hne : strip (front ++ (text ++ comment)) ≠ [] := fun hnil => by
      rw [hnil] at hfields
      exact nomatch hfields
    refine ⟨⟨number, String.ofList (strip (front ++ (text ++ comment))), s.chars, s.breaks⟩, ⟨rfl, rfl, rfl⟩, ?_⟩
    rw [readLines]
    simp only [hne, if_false, readLine_eq number _ s hwords hfields]
    cases readLines (number + 1) lines <;> rfl

theorem readLines_eq {entries : List (Option Statement)} {lines : List (List Char)}
    (h : List.Forall₂ Line entries lines) (first : Nat) :
    ∃ tests, readLines first lines = .ok tests ∧ List.Forall₂ Gives tests (numbered first entries) := by
  induction h generalizing first with
  | nil => exact ⟨[], rfl, .nil⟩
  | @cons entry line entries lines hline _ ih =>
    obtain ⟨tests, htests, hgives⟩ := ih (first + 1)
    have hcons := readLines_cons hline first lines
    cases entry with
    | none => exact ⟨tests, hcons.trans htests, hgives⟩
    | some s =>
      obtain ⟨t, ht, hcons⟩ := hcons
      exact ⟨t :: tests, by rw [hcons, htests]; rfl, .cons ht hgives⟩

theorem parse_eq {content : String} {entries : List (Option Statement)} (h : States content entries) :
    ∃ tests, parse content = .ok tests ∧ List.Forall₂ Gives tests (numbered 1 entries) := by
  obtain ⟨hcontent, hends, hlines⟩ := h
  rw [parse, Blank.splitOn_eq, hcontent]
  cases hlines with
  | nil => exact ⟨[], rfl, .nil⟩
  | cons hline hlines =>
    rw [List.splitOn_intercalate _ hends (List.cons_ne_nil _ _)]
    exact readLines_eq (.cons hline hlines) 1

end BreakTest
end TextBoundary
