import TextBoundary.Proofs.RuleSet
import TextBoundary.Proofs.Scan

namespace TextBoundary.GraphemeBreak

/-- GB3 to GB999. GB1 and GB2 are the ends of the text. -/
def rules : RuleSet .grapheme where
  first := [
    -- GB3 to GB5
    ⟨[.one cr], .join, [.one lf]⟩,
    ⟨[.one (control ||| cr ||| lf)], .split, []⟩,
    ⟨[], .split, [.one (control ||| cr ||| lf)]⟩,
    -- GB6 to GB8
    ⟨[.one hangulL], .join, [.one (hangulL ||| hangulV ||| hangulLV ||| hangulLVT)]⟩,
    ⟨[.one (hangulLV ||| hangulV)], .join, [.one (hangulV ||| hangulT)]⟩,
    ⟨[.one (hangulLVT ||| hangulT)], .join, [.one hangulT]⟩,
    -- GB9 to GB9b
    ⟨[], .join, [.one (extend ||| zwj)]⟩,
    ⟨[], .join, [.one spacingMark]⟩,
    ⟨[.one prepend], .join, []⟩,
    -- GB9c
    ⟨[.one conjunctConsonant, .many (conjunctExtend ||| conjunctLinker), .one conjunctLinker,
      .many (conjunctExtend ||| conjunctLinker)], .join, [.one conjunctConsonant]⟩,
    -- GB11
    ⟨[.one extendedPictographic, .many extend, .one zwj], .join, [.one extendedPictographic]⟩,
    -- GB12 and GB13
    ⟨[.edge regionalIndicator, .pairs regionalIndicator, .one regionalIndicator], .join,
      [.one regionalIndicator]⟩]
  ignored := .empty
  anchors := .empty
  later := []
  otherwise := .split

open Piece

variable {a b : Char} {back ahead : List Char}

def attached (a b : Char) : Bool :=
  Kind.grapheme.has hangulL a && Kind.grapheme.has (hangulL ||| hangulV ||| hangulLV ||| hangulLVT) b
  || Kind.grapheme.has (hangulLV ||| hangulV) a && Kind.grapheme.has (hangulV ||| hangulT) b
  || Kind.grapheme.has (hangulLVT ||| hangulT) a && Kind.grapheme.has hangulT b
  || Kind.grapheme.has (extend ||| zwj) b
  || Kind.grapheme.has spacingMark b
  || Kind.grapheme.has prepend a

def conjunctBack : List Char → Bool :=
  fit .grapheme [.many (conjunctExtend ||| conjunctLinker), .one conjunctLinker,
    .many (conjunctExtend ||| conjunctLinker), .one conjunctConsonant]

def consonantBack : List Char → Bool :=
  fit .grapheme [.many (conjunctExtend ||| conjunctLinker), .one conjunctConsonant]

def pictographBack : List Char → Bool :=
  fit .grapheme [.one zwj, .many extend, .one extendedPictographic]

def emojiBack : List Char → Bool := fit .grapheme [.many extend, .one extendedPictographic]

def indicatorBack : List Char → Bool := oddRun (Kind.grapheme.has regionalIndicator)

theorem splitAt_eq :
    rules.splitAt back ahead = (Rule.decide .grapheme back ahead rules.first .split == .split) := by
  have hseen : ∀ p c, rules.ignores p c = false := fun p c =>
    RuleSet.ignores_of_not_has (Kind.has_empty .grapheme c)
  have hhead : ahead.head?.any (rules.ignores back.head?) = false := by
    cases ahead with
    | nil => rfl
    | cons c ahead => exact hseen _ c
  rw [RuleSet.splitAt, RuleSet.verdict, hhead]
  rfl

theorem splitAt_cons :
    rules.splitAt (a :: back) (b :: ahead) =
      (!(Kind.grapheme.has cr a && Kind.grapheme.has lf b)
      && (Kind.grapheme.has (control ||| cr ||| lf) a || Kind.grapheme.has (control ||| cr ||| lf) b
        || !(attached a b
          || conjunctBack (a :: back) && Kind.grapheme.has conjunctConsonant b
          || pictographBack (a :: back) && Kind.grapheme.has extendedPictographic b
          || indicatorBack (a :: back) && Kind.grapheme.has regionalIndicator b))) := by
  rw [splitAt_eq, indicatorBack, ← fit_odd]
  simp only [rules, Rule.decide_join, Rule.decide_split, Rule.decide_nil, List.reverse_cons,
    List.reverse_nil, List.nil_append, List.cons_append, attached, conjunctBack, pictographBack,
    fit_one_cons, fit_nil, Bool.and_true, Bool.true_and, Bool.not_or, Bool.and_assoc, Bool.or_assoc,
    beq_self_eq_true]

theorem splitAt_of_attached (ha : Kind.grapheme.has (control ||| cr ||| lf) a = false)
    (hb : Kind.grapheme.has (control ||| cr ||| lf) b = false) (h : attached a b) :
    rules.splitAt (a :: back) (b :: ahead) = false := by
  rw [splitAt_cons, ha, hb, h]
  simp

theorem splitAt_of_control (h : Kind.grapheme.has (control ||| cr ||| lf) a)
    (hcrlf : (Kind.grapheme.has cr a && Kind.grapheme.has lf b) = false) :
    rules.splitAt (a :: back) (b :: ahead) := by
  rw [splitAt_cons, h, hcrlf]
  rfl

theorem conjunctBack_cons :
    conjunctBack (a :: back) = (Kind.grapheme.has conjunctLinker a && consonantBack back
      || Kind.grapheme.has (conjunctExtend ||| conjunctLinker) a && conjunctBack back) := by
  rw [conjunctBack, fit_many_cons, fit_one_cons, consonantBack]

theorem consonantBack_cons :
    consonantBack (a :: back) = (Kind.grapheme.has conjunctConsonant a
      || Kind.grapheme.has (conjunctExtend ||| conjunctLinker) a && consonantBack back) := by
  rw [consonantBack, fit_many_cons, fit_one_cons, fit_nil, Bool.and_true]

theorem pictographBack_cons :
    pictographBack (a :: back) = (Kind.grapheme.has zwj a && emojiBack back) := by
  rw [pictographBack, fit_one_cons, emojiBack]

theorem emojiBack_cons :
    emojiBack (a :: back) = (Kind.grapheme.has extendedPictographic a
      || Kind.grapheme.has extend a && emojiBack back) := by
  rw [emojiBack, fit_many_cons, fit_one_cons, fit_nil, Bool.and_true]

theorem indicatorBack_cons :
    indicatorBack (a :: back) = (Kind.grapheme.has regionalIndicator a && !indicatorBack back) := rfl

@[simp] theorem conjunctBack_singleton : conjunctBack [a] = false := by
  simp [conjunctBack, fit_many_cons]

@[simp] theorem consonantBack_singleton :
    consonantBack [a] = Kind.grapheme.has conjunctConsonant a := by
  simp [consonantBack, fit_many_cons]

@[simp] theorem emojiBack_singleton : emojiBack [a] = Kind.grapheme.has extendedPictographic a := by
  simp [emojiBack, fit_many_cons]

@[simp] theorem pictographBack_singleton : pictographBack [a] = false := by
  simp [pictographBack]

@[simp] theorem indicatorBack_singleton :
    indicatorBack [a] = Kind.grapheme.has regionalIndicator a := by
  simp [indicatorBack, oddRun]

theorem joiner_of_linker (h : Kind.grapheme.has conjunctLinker a) :
    Kind.grapheme.has (conjunctExtend ||| conjunctLinker) a := by
  simp [h]

theorem extends_of_joiner (h : Kind.grapheme.has (conjunctExtend ||| conjunctLinker) a) :
    Kind.grapheme.has (extend ||| zwj) a :=
  Kind.has_of_within (by decide) h

theorem not_control_of_extends (h : Kind.grapheme.has (extend ||| zwj) a) :
    Kind.grapheme.has (control ||| cr ||| lf) a = false :=
  Kind.not_has_of_apart (by decide) h

theorem splitAt_of_conjunct (hback : conjunctBack back) (hb : Kind.grapheme.has conjunctConsonant b) :
    rules.splitAt back (b :: ahead) = false := by
  cases back with
  | nil => simp [conjunctBack] at hback
  | cons x back =>
    have hx : Kind.grapheme.has (conjunctExtend ||| conjunctLinker) x := by
      rw [conjunctBack_cons] at hback
      simp only [Bool.or_eq_true, Bool.and_eq_true] at hback
      rcases hback with ⟨hx, -⟩ | ⟨hx, -⟩
      · exact joiner_of_linker hx
      · exact hx
    have hxc := not_control_of_extends (extends_of_joiner hx)
    have hbc : Kind.grapheme.has (control ||| cr ||| lf) b = false :=
      Kind.not_has_of_apart (by decide) hb
    rw [splitAt_cons, hxc, hbc, hback, hb]
    simp

theorem splitAt_of_pictograph (hback : pictographBack back)
    (hb : Kind.grapheme.has extendedPictographic b) : rules.splitAt back (b :: ahead) = false := by
  cases back with
  | nil => simp [pictographBack] at hback
  | cons x back =>
    have hx : Kind.grapheme.has zwj x := by
      rw [pictographBack_cons, Bool.and_eq_true] at hback
      exact hback.1
    have hxc : Kind.grapheme.has (control ||| cr ||| lf) x = false :=
      Kind.not_has_of_apart (by decide) hx
    have hbc : Kind.grapheme.has (control ||| cr ||| lf) b = false :=
      Kind.not_has_of_apart (by decide) hb
    rw [splitAt_cons, hxc, hbc, hback, hb]
    simp

theorem splitAt_of_indicator (hback : indicatorBack back)
    (hb : Kind.grapheme.has regionalIndicator b) : rules.splitAt back (b :: ahead) = false := by
  cases back with
  | nil => exact Bool.noConfusion hback
  | cons x back =>
    have hx : Kind.grapheme.has regionalIndicator x := by
      rw [indicatorBack_cons, Bool.and_eq_true] at hback
      exact hback.1
    have hxc : Kind.grapheme.has (control ||| cr ||| lf) x = false :=
      Kind.not_has_of_apart (by decide) hx
    have hbc : Kind.grapheme.has (control ||| cr ||| lf) b = false :=
      Kind.not_has_of_apart (by decide) hb
    rw [splitAt_cons, hxc, hbc, hback, hb]
    simp

theorem consonantBack_append {u : List Char} :
    consonantBack (u ++ back) ↔ consonantBack u
      ∨ (∀ c ∈ u, Kind.grapheme.has (conjunctExtend ||| conjunctLinker) c) ∧ consonantBack back := by
  induction u with
  | nil => simp [consonantBack]
  | cons c u ih =>
    rw [List.cons_append, consonantBack_cons, consonantBack_cons, List.forall_mem_cons]
    simp only [Bool.or_eq_true, Bool.and_eq_true, ih]
    grind

theorem conjunctBack_append {u : List Char} :
    conjunctBack (u ++ back) ↔ conjunctBack u
      ∨ (∀ c ∈ u, Kind.grapheme.has (conjunctExtend ||| conjunctLinker) c)
        ∧ (conjunctBack back ∨ (∃ c ∈ u, Kind.grapheme.has conjunctLinker c) ∧ consonantBack back) := by
  induction u with
  | nil => simp [conjunctBack]
  | cons c u ih =>
    have hc : Kind.grapheme.has conjunctLinker c → _ := joiner_of_linker
    rw [List.cons_append, conjunctBack_cons, conjunctBack_cons, List.forall_mem_cons]
    simp only [Bool.or_eq_true, Bool.and_eq_true, ih, consonantBack_append, List.mem_cons,
      exists_eq_or_imp]
    grind

theorem emojiBack_append {u : List Char} :
    emojiBack (u ++ back) ↔ emojiBack u ∨ (∀ c ∈ u, Kind.grapheme.has extend c) ∧ emojiBack back := by
  induction u with
  | nil => simp [emojiBack]
  | cons c u ih =>
    rw [List.cons_append, emojiBack_cons, emojiBack_cons, List.forall_mem_cons]
    simp only [Bool.or_eq_true, Bool.and_eq_true, ih]
    grind

/-- Nothing that stands in `back` is still awaited in `ahead`: no conjunct, no pictograph, and no
second indicator of a pair. -/
structure Settled (back ahead : List Char) : Prop where
  conjunct {u v : List Char} {c : Char} (h : ahead = u ++ c :: v) (hu : u ≠ [])
    (hj : ∀ x ∈ u, Kind.grapheme.has (conjunctExtend ||| conjunctLinker) x)
    (hc : Kind.grapheme.has conjunctConsonant c) :
    conjunctBack back = false
      ∧ ((∃ x ∈ u, Kind.grapheme.has conjunctLinker x) → consonantBack back = false)
  pictograph {u v : List Char} {z c : Char} (h : ahead = u ++ z :: c :: v)
    (hu : ∀ x ∈ u, Kind.grapheme.has extend x) (hz : Kind.grapheme.has zwj z)
    (hc : Kind.grapheme.has extendedPictographic c) : emojiBack back = false
  indicator {v : List Char} {c : Char} (h : ahead = c :: v)
    (hc : Kind.grapheme.has regionalIndicator c) : indicatorBack back = false

namespace Settled

theorem conjunctBack_eq {u v : List Char} {b : Char} (h : Settled back (u ++ b :: v)) (hu : u ≠ []) :
    (conjunctBack (u.reverse ++ back) && Kind.grapheme.has conjunctConsonant b)
      = (conjunctBack u.reverse && Kind.grapheme.has conjunctConsonant b) := by
  cases hb : Kind.grapheme.has conjunctConsonant b with
  | false => simp
  | true =>
    rw [Bool.and_true, Bool.and_true, Bool.eq_iff_iff, conjunctBack_append]
    simp only [List.mem_reverse, or_iff_left_iff_imp]
    rintro ⟨hj, hback⟩
    obtain ⟨hconjunct, hconsonant⟩ := h.conjunct rfl hu hj hb
    rcases hback with hback | ⟨hlinked, hback⟩
    · simp [hconjunct] at hback
    · simp [hconsonant hlinked] at hback

theorem pictographBack_eq {u v : List Char} {a b : Char} (h : Settled back (u ++ a :: b :: v)) :
    (pictographBack (a :: (u.reverse ++ back)) && Kind.grapheme.has extendedPictographic b)
      = (pictographBack (a :: u.reverse) && Kind.grapheme.has extendedPictographic b) := by
  rw [pictographBack_cons, pictographBack_cons]
  cases hb : Kind.grapheme.has extendedPictographic b with
  | false => simp
  | true =>
    cases ha : Kind.grapheme.has zwj a with
    | false => rfl
    | true =>
      rw [Bool.eq_iff_iff]
      simp only [Bool.true_and, Bool.and_true, emojiBack_append, List.mem_reverse,
        or_iff_left_iff_imp, and_imp]
      intro hu hback
      simp [h.pictograph rfl hu ha hb] at hback

theorem indicatorBack_eq {u v : List Char} (h : Settled back (u ++ v)) (hu : u ≠ []) :
    indicatorBack (u.reverse ++ back) = indicatorBack u.reverse := by
  obtain ⟨a, u, rfl⟩ := List.exists_cons_of_ne_nil hu
  rw [List.reverse_cons, List.append_assoc, List.singleton_append]
  cases ha : Kind.grapheme.has regionalIndicator a with
  | true => rw [List.append_cons, indicatorBack, oddRun_append (h.indicator rfl ha)]
  | false =>
    have hback : indicatorBack (a :: back) = false := by rw [indicatorBack_cons, ha]; rfl
    have hnil : indicatorBack [a] = false := by rw [indicatorBack_cons, ha]; rfl
    rw [indicatorBack, oddRun_append hback, oddRun_append hnil]

theorem restarts (h : Settled back ahead) : Restarts rules.splitAt back ahead := by
  rintro u v rfl hu hv
  obtain ⟨b, v, rfl⟩ := List.exists_cons_of_ne_nil hv
  have hconjunct := h.conjunctBack_eq hu
  have hindicator := h.indicatorBack_eq hu
  rcases List.eq_nil_or_concat' u with rfl | ⟨w, a, rfl⟩
  · exact (hu rfl).elim
  rw [List.append_assoc] at h
  have hpictograph := h.pictographBack_eq
  simp only [List.reverse_append, List.reverse_cons, List.reverse_nil, List.nil_append,
    List.cons_append] at hconjunct hindicator ⊢
  rw [splitAt_cons, splitAt_cons, hconjunct, hpictograph, hindicator]

end Settled

theorem splitAt_singleton :
    rules.splitAt [a] (b :: ahead) = (!(Kind.grapheme.has cr a && Kind.grapheme.has lf b)
      && (Kind.grapheme.has (control ||| cr ||| lf) a || Kind.grapheme.has (control ||| cr ||| lf) b
        || !(attached a b
          || Kind.grapheme.has regionalIndicator a && Kind.grapheme.has regionalIndicator b))) := by
  rw [splitAt_cons, conjunctBack_singleton, pictographBack_singleton, indicatorBack_singleton,
    Bool.false_and, Bool.false_and, Bool.or_false, Bool.or_false]

/-- A whole number of pairs keeps only what extends its last indicator. -/
theorem splitAt_of_pairs (ha : Kind.grapheme.has regionalIndicator a)
    (hpairs : indicatorBack (a :: back) = false)
    (hb : Kind.grapheme.has (extend ||| zwj ||| spacingMark) b = false) :
    rules.splitAt (a :: back) (b :: ahead) := by
  have hapart : Kind.grapheme.has (cr ||| zwj ||| hangulL ||| hangulLV ||| hangulV ||| hangulLVT
      ||| hangulT ||| prepend ||| conjunctExtend ||| conjunctLinker) a = false :=
    Kind.not_has_of_apart (by decide) ha
  simp only [Kind.has_or, Bool.or_eq_false_iff] at hapart hb
  rw [splitAt_cons, hpairs, conjunctBack_cons, pictographBack_cons]
  simp [attached, hapart, hb]

theorem Settled.of_inert (h : Kind.grapheme.has (conjunctExtend ||| conjunctLinker ||| conjunctConsonant
    ||| extend ||| extendedPictographic) a = false) (hindicator : indicatorBack (a :: back) = false) :
    Settled (a :: back) ahead := by
  simp only [Kind.has_or, Bool.or_eq_false_iff] at h
  constructor
  case conjunct =>
    intros
    simp [conjunctBack_cons, consonantBack_cons, h]
  case pictograph =>
    intros
    simp [emojiBack_cons, h]
  case indicator =>
    intros
    exact hindicator

theorem Settled.of_head (h : Kind.grapheme.has (extend ||| zwj) b = false)
    (hri : Kind.grapheme.has regionalIndicator b → indicatorBack back = false) :
    Settled back (b :: ahead) := by
  constructor
  case conjunct =>
    intro u v c heq hu hj hc
    obtain ⟨x, u, rfl⟩ := List.exists_cons_of_ne_nil hu
    obtain ⟨rfl, -⟩ := List.cons.inj heq
    have := extends_of_joiner (hj _ (.head _))
    simp [h] at this
  case pictograph =>
    intro u v z c heq hu hz hc
    simp only [Kind.has_or, Bool.or_eq_false_iff] at h
    cases u with
    | nil =>
      obtain ⟨rfl, -⟩ := List.cons.inj heq
      simp [h] at hz
    | cons x u =>
      obtain ⟨rfl, -⟩ := List.cons.inj heq
      simpa [h] using hu _ (.head _)
  case indicator =>
    intro v c heq hc
    obtain ⟨rfl, -⟩ := List.cons.inj heq
    exact hri hc

theorem Settled.of_neutral (h : Kind.grapheme.has (extend ||| zwj ||| regionalIndicator) b = false) :
    Settled back (b :: ahead) := by
  simp only [Kind.has_or, Bool.or_eq_false_iff] at h
  apply Settled.of_head <;> simp [h]

theorem settled_of_split (h : rules.splitAt (a :: back) (b :: ahead)) :
    Settled (a :: back) (b :: ahead) := by
  rw [splitAt_cons] at h
  cases ha : Kind.grapheme.has (control ||| cr ||| lf) a with
  | true =>
    apply Settled.of_inert (Kind.not_has_of_apart (by decide) ha)
    rw [indicatorBack_cons, Kind.not_has_of_apart (by decide) ha, Bool.false_and]
  | false =>
    cases hb : Kind.grapheme.has (control ||| cr ||| lf) b with
    | true => exact .of_neutral (Kind.not_has_of_apart (by decide) hb)
    | false =>
      simp only [ha, hb, Bool.false_or, Bool.and_eq_true, Bool.not_eq_true', Bool.or_eq_false_iff] at h
      obtain ⟨-, ⟨⟨hattached, hconjunct⟩, hpictograph⟩, hindicator⟩ := h
      cases hri : Kind.grapheme.has regionalIndicator b with
      | false =>
        apply Settled.of_neutral
        simp only [attached, Bool.or_eq_false_iff] at hattached
        simp_all
      | true =>
        have hextends : Kind.grapheme.has (extend ||| zwj) b = false :=
          Kind.not_has_of_apart (by decide) hri
        apply Settled.of_head hextends
        intro
        simpa [hri] using hindicator

end TextBoundary.GraphemeBreak
