import TextBoundary.Proofs.RuleSet
import TextBoundary.Proofs.Scan

namespace TextBoundary.SentenceBreak

/-- SB3 to SB998. SB1 and SB2 are the ends of the text. -/
def rules : RuleSet .sentence where
  first := [
    -- SB3 and SB4
    ⟨[.one cr], .join, [.one lf]⟩,
    ⟨[.one (sep ||| cr ||| lf)], .split, []⟩]
  -- SB5
  ignored := format ||| extend
  anchors := sep ||| cr ||| lf
  later := [
    -- SB6 and SB7
    ⟨[.one aTerm], .join, [.one numeric]⟩,
    ⟨[.one (upper ||| lower), .one aTerm], .join, [.one upper]⟩,
    -- SB8 and SB8a
    ⟨[.one aTerm, .many close, .many sp], .join,
      [.others (oLetter ||| upper ||| lower ||| sep ||| cr ||| lf ||| sTerm ||| aTerm), .one lower]⟩,
    ⟨[.one (sTerm ||| aTerm), .many close, .many sp], .join, [.one (sContinue ||| sTerm ||| aTerm)]⟩,
    -- SB9 to SB11
    ⟨[.one (sTerm ||| aTerm), .many close], .join, [.one (close ||| sp ||| sep ||| cr ||| lf)]⟩,
    ⟨[.one (sTerm ||| aTerm), .many close, .many sp], .join, [.one (sp ||| sep ||| cr ||| lf)]⟩,
    ⟨[.one (sTerm ||| aTerm), .many close, .many sp, .optional (sep ||| cr ||| lf)], .split, []⟩]
  otherwise := .join

open Piece

variable {m : Mask} {a b c : Char} {back ahead run seen : List Char}

def closedBack (m : Mask) : List Char → Bool := fit .sentence [.many close, .one m]

def spacedBack (m : Mask) : List Char → Bool := fit .sentence [.many sp, .many close, .one m]

def initialBack : List Char → Bool := fit .sentence [.one aTerm, .one (upper ||| lower)]

def lowerAhead : List Char → Bool :=
  fit .sentence [.others (oLetter ||| upper ||| lower ||| sep ||| cr ||| lf ||| sTerm ||| aTerm), .one lower]

def breaks (seen : List Char) (b : Char) (ahead : List Char) : Bool :=
  !(fit .sentence [.one aTerm] seen && Kind.sentence.has numeric b)
  && !(initialBack seen && Kind.sentence.has upper b)
  && !(spacedBack aTerm seen && lowerAhead (b :: ahead))
  && !(spacedBack (sTerm ||| aTerm) seen && Kind.sentence.has (sContinue ||| sTerm ||| aTerm) b)
  && !(closedBack (sTerm ||| aTerm) seen && Kind.sentence.has (close ||| sp ||| sep ||| cr ||| lf) b)
  && !(spacedBack (sTerm ||| aTerm) seen && Kind.sentence.has (sp ||| sep ||| cr ||| lf) b)
  && spacedBack (sTerm ||| aTerm) seen

theorem lowerAhead_cons : lowerAhead (a :: ahead) = (Kind.sentence.has lower a
    || !Kind.sentence.has (oLetter ||| upper ||| lower ||| sep ||| cr ||| lf ||| sTerm ||| aTerm) a
      && lowerAhead ahead) := by
  rw [lowerAhead, fit_others_cons, fit_one_cons, fit_nil, Bool.and_true]

theorem lowerAhead_condense (previous : Option Char) :
    lowerAhead (rules.condense previous ahead) = lowerAhead ahead := by
  induction ahead generalizing previous with
  | nil => rfl
  | cons c ahead ih =>
    rw [RuleSet.condense]
    split
    case isTrue h =>
      have hc : Kind.sentence.has (format ||| extend) c := by
        simp only [RuleSet.ignores, Bool.and_eq_true] at h
        exact h.1
      have hlower : Kind.sentence.has lower c = false := Kind.not_has_of_apart (by decide) hc
      have hother : Kind.sentence.has
          (oLetter ||| upper ||| lower ||| sep ||| cr ||| lf ||| sTerm ||| aTerm) c = false :=
        Kind.not_has_of_apart (by decide) hc
      rw [ih, lowerAhead_cons, hlower, hother]
      rfl
    case isFalse => rw [lowerAhead_cons, lowerAhead_cons, ih]

theorem fit_optional_separator (h : seen.head?.any (Kind.sentence.has (sep ||| cr ||| lf)) = false) :
    fit .sentence [.optional (sep ||| cr ||| lf), .many sp, .many close, .one (sTerm ||| aTerm)] seen
      = spacedBack (sTerm ||| aTerm) seen := by
  cases seen with
  | nil => rw [fit_optional_nil, spacedBack]
  | cons c seen =>
    rw [List.head?_cons, Option.any_some] at h
    rw [fit_optional_cons, h, Bool.false_and, Bool.or_false, spacedBack]

theorem decide_later (h : seen.head?.any (Kind.sentence.has (sep ||| cr ||| lf)) = false)
    (previous : Option Char) :
    (Rule.decide .sentence seen (b :: rules.condense previous ahead) rules.later rules.otherwise
      == .split) = breaks seen b ahead := by
  have hlower : fit .sentence [.others (oLetter ||| upper ||| lower ||| sep ||| cr ||| lf ||| sTerm
      ||| aTerm), .one lower] (b :: rules.condense previous ahead) = lowerAhead (b :: ahead) := by
    rw [lowerAhead_cons, ← lowerAhead_condense previous, ← lowerAhead_cons, lowerAhead]
  have hend := fit_optional_separator h
  have hjoin : (Verdict.join == Verdict.split) = false := rfl
  generalize rules.condense previous ahead = kept at hlower ⊢
  simp only [rules, Rule.decide_join, Rule.decide_split, Rule.decide_nil, List.reverse_cons,
    List.reverse_nil, List.nil_append, List.cons_append, hlower, hend, hjoin]
  simp only [breaks, initialBack, spacedBack, closedBack, fit_one_cons, fit_nil, Bool.and_true,
    Bool.and_assoc, Bool.or_false]

theorem splitAt_cons :
    rules.splitAt (a :: back) (b :: ahead) = (!(Kind.sentence.has cr a && Kind.sentence.has lf b)
      && (Kind.sentence.has (sep ||| cr ||| lf) a
        || !Kind.sentence.has (format ||| extend) b && breaks (rules.trim (a :: back)) b ahead)) := by
  cases ha : Kind.sentence.has (sep ||| cr ||| lf) a with
  | true =>
    rw [RuleSet.splitAt, RuleSet.verdict, rules]
    simp only [Rule.decide_join, Rule.decide_split, List.reverse_singleton, fit_one_cons, fit_nil, ha]
    simp
  | false =>
    have hhead : (rules.trim (a :: back)).head?.any (Kind.sentence.has rules.anchors) = false :=
      RuleSet.head_trim (by simpa [rules] using ha)
    rw [RuleSet.splitAt_cons (by simpa [rules] using ha), show rules.ignored = format ||| extend from rfl]
    cases hb : Kind.sentence.has (format ||| extend) b with
    | true => simp [rules, Rule.decide_join, Rule.decide_split, Rule.decide_nil, ha]
    | false =>
      rw [if_neg (by simp), ← decide_later hhead (some b)]
      generalize Rule.decide _ _ _ rules.later rules.otherwise = verdict
      simp [rules, Rule.decide_join, Rule.decide_split, Rule.decide_nil, ha]

@[simp] theorem closedBack_nil : closedBack m [] = false := by
  simp [closedBack]

@[simp] theorem spacedBack_nil : spacedBack m [] = false := by
  simp [spacedBack]

theorem closedBack_cons :
    closedBack m (a :: back) = (Kind.sentence.has m a || Kind.sentence.has close a && closedBack m back) := by
  rw [closedBack, fit_many_cons, fit_one_cons, fit_nil, Bool.and_true]

theorem spacedBack_cons :
    spacedBack m (a :: back)
      = (closedBack m (a :: back) || Kind.sentence.has sp a && spacedBack m back) := by
  rw [spacedBack, fit_many_cons, closedBack]

theorem spacedBack_of_closed (h : closedBack m seen) : spacedBack m seen := by
  cases seen with
  | nil => simp at h
  | cons a seen => rw [spacedBack_cons, h, Bool.true_or]

theorem exists_of_closedBack (h : closedBack m seen) : ∃ x ∈ seen, Kind.sentence.has m x := by
  induction seen with
  | nil => simp at h
  | cons a seen ih =>
    rw [closedBack_cons, Bool.or_eq_true, Bool.and_eq_true] at h
    rcases h with h | ⟨-, h⟩
    · exact ⟨a, .head _, h⟩
    · obtain ⟨x, hx, hxm⟩ := ih h
      exact ⟨x, .tail _ hx, hxm⟩

theorem exists_of_spacedBack (h : spacedBack m seen) : ∃ x ∈ seen, Kind.sentence.has m x := by
  induction seen with
  | nil => simp at h
  | cons a seen ih =>
    rw [spacedBack_cons, Bool.or_eq_true, Bool.and_eq_true] at h
    rcases h with h | ⟨-, h⟩
    · exact exists_of_closedBack h
    · obtain ⟨x, hx, hxm⟩ := ih h
      exact ⟨x, .tail _ hx, hxm⟩

theorem closedBack_append (w : List Char) (h : Kind.sentence.has close a → closedBack m seen = false) :
    closedBack m (w ++ a :: seen) = closedBack m (w ++ [a]) := by
  induction w with
  | nil =>
    rw [List.nil_append, List.nil_append, closedBack_cons, closedBack_cons]
    cases ha : Kind.sentence.has close a <;> simp_all
  | cons c w ih => rw [List.cons_append, List.cons_append, closedBack_cons, closedBack_cons, ih]

theorem spacedBack_append (w : List Char) (h : Kind.sentence.has sp a → spacedBack m seen = false)
    (hclosed : Kind.sentence.has close a → closedBack m seen = false) :
    spacedBack m (w ++ a :: seen) = spacedBack m (w ++ [a]) := by
  induction w with
  | nil =>
    have := closedBack_append [] hclosed
    rw [List.nil_append, List.nil_append, spacedBack_cons, spacedBack_cons]
    cases ha : Kind.sentence.has sp a <;> simp_all
  | cons c w ih =>
    have := closedBack_append (c :: w) hclosed
    rw [List.cons_append, List.cons_append] at this ⊢
    rw [spacedBack_cons, spacedBack_cons, ih, this]

theorem closedBack_imp {n : Mask} (h : ∀ x ∈ seen, Kind.sentence.has m x → Kind.sentence.has n x) :
    closedBack m seen → closedBack n seen := by
  induction seen with
  | nil => simp
  | cons c seen ih =>
    rw [closedBack_cons, closedBack_cons]
    simp only [Bool.or_eq_true, Bool.and_eq_true]
    exact Or.imp (h c (.head _)) (And.imp_right (ih fun x hx => h x (.tail _ hx)))

theorem spacedBack_imp {n : Mask} (h : ∀ x ∈ seen, Kind.sentence.has m x → Kind.sentence.has n x) :
    spacedBack m seen → spacedBack n seen := by
  induction seen with
  | nil => simp
  | cons c seen ih =>
    rw [spacedBack_cons, spacedBack_cons]
    simp only [Bool.or_eq_true, Bool.and_eq_true]
    exact Or.imp (closedBack_imp h) (And.imp_right (ih fun x hx => h x (.tail _ hx)))

theorem splitAt_congr {other : List Char} (hhead : back.head? = other.head?)
    (h : breaks (rules.trim back) b ahead = breaks (rules.trim other) b ahead) :
    rules.splitAt back (b :: ahead) = rules.splitAt other (b :: ahead) := by
  cases back with
  | nil =>
    cases other with
    | nil => rfl
    | cons => simp at hhead
  | cons a back =>
    cases other with
    | nil => simp at hhead
    | cons c other =>
      obtain rfl : a = c := by simpa using hhead
      rw [splitAt_cons, splitAt_cons, h]

/-- Nothing that stands in `back` is still awaited in `ahead`: no space or closer behind a terminator,
and no initial. -/
structure Settled (back ahead : List Char) : Prop where
  seen : ahead.head?.any (rules.ignores back.head?) = false
  spaced (h : Kind.sentence.hasNext sp ahead) : spacedBack (sTerm ||| aTerm) (rules.trim back) = false
  closed (h : Kind.sentence.hasNext close ahead) :
    closedBack (sTerm ||| aTerm) (rules.trim back) = false
  initial {u v : List Char} {t x : Char} (h : ahead = t :: (u ++ x :: v)) (ht : Kind.sentence.has aTerm t)
    (hu : ∀ c ∈ u, Kind.sentence.has (format ||| extend) c) (hx : Kind.sentence.has upper x) :
    fit .sentence [.one (upper ||| lower)] (rules.trim back) = false

namespace Settled

variable {t : Char} {u v w : List Char}

theorem closedBack_eq (h : Settled back (t :: ahead)) (w : List Char) :
    closedBack (sTerm ||| aTerm) (w ++ t :: rules.trim back) = closedBack (sTerm ||| aTerm) (w ++ [t]) :=
  closedBack_append w h.closed

theorem spacedBack_eq (h : Settled back (t :: ahead)) (w : List Char) :
    spacedBack (sTerm ||| aTerm) (w ++ t :: rules.trim back) = spacedBack (sTerm ||| aTerm) (w ++ [t]) :=
  spacedBack_append w h.spaced h.closed

theorem spacedBack_aTerm_eq (h : Settled back (t :: ahead)) (w : List Char) :
    spacedBack aTerm (w ++ t :: rules.trim back) = spacedBack aTerm (w ++ [t]) := by
  have hterm : ∀ x ∈ rules.trim back, Kind.sentence.has aTerm x → Kind.sentence.has (sTerm ||| aTerm) x :=
    fun x _ hx => by simp [hx]
  apply spacedBack_append
  · exact fun ht => Bool.eq_false_iff.mpr (mt (spacedBack_imp hterm) (by simp [h.spaced ht]))
  · exact fun ht => Bool.eq_false_iff.mpr (mt (closedBack_imp hterm) (by simp [h.closed ht]))

theorem initialBack_eq (h : Settled back (t :: (u ++ b :: v)))
    (hempty : w = [] → ∀ d ∈ u, Kind.sentence.has (format ||| extend) d) :
    (initialBack (w ++ t :: rules.trim back) && Kind.sentence.has upper b)
      = (initialBack (w ++ [t]) && Kind.sentence.has upper b) := by
  match w with
  | x :: y :: w => simp [initialBack]
  | [x] => simp [initialBack]
  | [] =>
    cases hb : Kind.sentence.has upper b with
    | false => simp
    | true =>
      cases ht : Kind.sentence.has aTerm t with
      | false => simp [initialBack, ht]
      | true =>
        have hinitial := h.initial rfl ht (hempty rfl) hb
        simp only [initialBack, List.nil_append, fit_one_cons, hinitial, fit_one_nil]

theorem restarts (h : Settled back ahead) : Restarts rules.splitAt back ahead := by
  rintro u v rfl hu hv
  obtain ⟨t, u, rfl⟩ := List.exists_cons_of_ne_nil hu
  obtain ⟨b, v, rfl⟩ := List.exists_cons_of_ne_nil hv
  obtain ⟨w, hlong, hshort, hempty⟩ := RuleSet.trim_seen (by simpa using h.seen) u.reverse
  rw [List.cons_append] at h
  have hempty' : w = [] → ∀ d ∈ u, Kind.sentence.has (format ||| extend) d :=
    fun hw d hd => hempty hw d (List.mem_reverse.mpr hd)
  have hlower := h.spacedBack_aTerm_eq w
  have hinitial := h.initialBack_eq hempty'
  have hfirst : fit .sentence [.one aTerm] (w ++ t :: rules.trim back)
      = fit .sentence [.one aTerm] (w ++ [t]) := by
    cases w <;> simp
  rw [List.reverse_cons, List.append_assoc, List.singleton_append]
  apply splitAt_congr (by cases u.reverse <;> rfl)
  rw [hlong, hshort, breaks, breaks, h.closedBack_eq, h.spacedBack_eq, hlower, hinitial, hfirst]

end Settled

theorem ignores_eq_false (h : Kind.sentence.has (format ||| extend) b = false) (previous : Option Char) :
    rules.ignores previous b = false :=
  RuleSet.ignores_of_not_has h

theorem Settled.of_separator (ha : Kind.sentence.has (sep ||| cr ||| lf) a) :
    Settled (a :: back) ahead := by
  have hapart : Kind.sentence.has (format ||| extend ||| sp ||| close ||| upper ||| lower ||| sTerm
      ||| aTerm) a = false := Kind.not_has_of_apart (by decide) ha
  simp only [Kind.has_or, Bool.or_eq_false_iff] at hapart
  have htrim : rules.trim (a :: back) = a :: rules.trim back :=
    RuleSet.trim_cons (ignores_eq_false (by simp [hapart]) _)
  constructor
  case seen =>
    cases ahead with
    | nil => rfl
    | cons b ahead => exact RuleSet.ignores_anchor ha
  case spaced => simp [htrim, spacedBack_cons, closedBack_cons, hapart]
  case closed => simp [htrim, closedBack_cons, hapart]
  case initial =>
    intros
    simp [htrim, hapart]

theorem Settled.of_neutral
    (hb : Kind.sentence.has (format ||| extend ||| sp ||| close ||| aTerm) b = false) :
    Settled back (b :: ahead) := by
  simp only [Kind.has_or, Bool.or_eq_false_iff] at hb
  constructor
  case seen => exact ignores_eq_false (by simp [hb]) _
  case spaced => simp [hb]
  case closed => simp [hb]
  case initial =>
    rintro u v t x heq ht
    obtain ⟨rfl, -⟩ := List.cons.inj heq
    simp [hb] at ht

theorem Settled.of_continued (hb : Kind.sentence.has (sContinue ||| sTerm ||| aTerm) b)
    (hback : ∀ y ∈ back, Kind.sentence.has (upper ||| lower) y = false) :
    Settled back (b :: ahead) := by
  have hapart : Kind.sentence.has (format ||| extend ||| sp ||| close) b = false :=
    Kind.not_has_of_apart (by decide) hb
  simp only [Kind.has_or, Bool.or_eq_false_iff] at hapart
  constructor
  case seen => exact ignores_eq_false (by simp [hapart]) _
  case spaced => simp [hapart]
  case closed => simp [hapart]
  case initial =>
    intros
    cases htrim : rules.trim back with
    | nil => rfl
    | cons y seen =>
      have hy : y ∈ rules.trim back := htrim ▸ .head _
      rw [fit_one_cons, hback y (RuleSet.mem_of_mem_trim hy), Bool.false_and]

theorem settled_of_split (h : rules.splitAt (a :: back) (b :: ahead)) :
    Settled (a :: back) (b :: ahead) := by
  rw [splitAt_cons] at h
  cases ha : Kind.sentence.has (sep ||| cr ||| lf) a with
  | true => exact .of_separator ha
  | false =>
    rw [ha, Bool.false_or] at h
    simp only [Bool.and_eq_true, breaks, Bool.not_eq_true'] at h
    obtain ⟨-, hb, ⟨⟨⟨-, hcontinue⟩, hclosed⟩, hspaced⟩, hterminated⟩ := h
    rw [hterminated, Bool.true_and] at hcontinue hspaced
    simp only [Kind.has_or, Bool.or_eq_false_iff] at hcontinue hspaced
    constructor
    case seen => exact ignores_eq_false hb _
    case spaced => simp [hspaced]
    case closed =>
      intro hclose
      rw [Kind.hasNext_cons] at hclose
      simpa [hclose] using hclosed
    case initial =>
      rintro u v t x heq ht
      obtain ⟨rfl, -⟩ := List.cons.inj heq
      simp [hcontinue] at ht

theorem splitAt_of_separator (ha : Kind.sentence.has (sep ||| cr ||| lf) a)
    (hcrlf : (Kind.sentence.has cr a && Kind.sentence.has lf b) = false) :
    rules.splitAt (a :: back) (b :: ahead) := by
  rw [splitAt_cons, ha, hcrlf]
  rfl

section Joins

variable (ha : Kind.sentence.has (sep ||| cr ||| lf) a = false)
include ha

theorem splitAt_plain :
    rules.splitAt (a :: back) (b :: ahead)
      = (!Kind.sentence.has (format ||| extend) b && breaks (rules.trim (a :: back)) b ahead) := by
  have hcr : Kind.sentence.has cr a = false := Kind.not_has_of_within (by decide) ha
  rw [splitAt_cons, ha, hcr]
  simp

theorem splitAt_of_unspaced (h : spacedBack (sTerm ||| aTerm) (rules.trim (a :: back)) = false) :
    rules.splitAt (a :: back) (b :: ahead) = false := by
  rw [splitAt_plain ha, breaks, h]
  simp

theorem splitAt_of_closed (h : closedBack (sTerm ||| aTerm) (rules.trim (a :: back)))
    (hb : Kind.sentence.has (close ||| format ||| extend) b) :
    rules.splitAt (a :: back) (b :: ahead) = false := by
  rw [splitAt_plain ha, breaks, h]
  simp only [Kind.has_or, Bool.or_eq_true] at hb
  rcases hb with (hb | hb) | hb <;> simp [hb]

theorem splitAt_of_space (hb : Kind.sentence.has (sp ||| sep ||| cr ||| lf ||| format ||| extend) b) :
    rules.splitAt (a :: back) (b :: ahead) = false := by
  rw [splitAt_plain ha, breaks]
  simp only [Kind.has_or, Bool.or_eq_true] at hb
  cases spacedBack (sTerm ||| aTerm) (rules.trim (a :: back)) with
  | false => simp
  | true => rcases hb with ((((hb | hb) | hb) | hb) | hb) | hb <;> simp [hb]

theorem splitAt_of_lowerAhead
    (hterm : ∀ y ∈ a :: back, Kind.sentence.has (sTerm ||| aTerm) y → Kind.sentence.has aTerm y)
    (hlower : lowerAhead (b :: ahead)) : rules.splitAt (a :: back) (b :: ahead) = false := by
  have himp : spacedBack (sTerm ||| aTerm) (rules.trim (a :: back))
      → spacedBack aTerm (rules.trim (a :: back)) :=
    spacedBack_imp fun y hy => hterm y (RuleSet.mem_of_mem_trim hy)
  rw [splitAt_plain ha, breaks, hlower]
  cases hsa : spacedBack (sTerm ||| aTerm) (rules.trim (a :: back)) with
  | false => simp
  | true => simp [himp hsa]

theorem splitAt_of_continued (hb : Kind.sentence.has (sContinue ||| sTerm ||| aTerm) b) :
    rules.splitAt (a :: back) (b :: ahead) = false := by
  rw [splitAt_plain ha, breaks, hb]
  cases spacedBack (sTerm ||| aTerm) (rules.trim (a :: back)) <;> simp

theorem closedBack_trim (h : closedBack m (rules.trim (a :: back)))
    (hrun : ∀ x ∈ run, Kind.sentence.has (close ||| format ||| extend) x) :
    closedBack m (rules.trim (run.reverse ++ a :: back)) := by
  apply RuleSet.trim_run (p := fun seen => closedBack m seen) (by decide) _ ha h hrun
  intro x seen hx hplain hclosed
  have hclose : Kind.sentence.has close x := by
    simp only [rules, Kind.has_or, Bool.or_eq_true, Bool.or_eq_false_iff] at hx hplain
    simpa [hplain] using hx
  rw [closedBack_cons, hclose, hclosed]
  simp

theorem spacedBack_trim (h : spacedBack m (rules.trim (a :: back)))
    (hrun : ∀ x ∈ run, Kind.sentence.has (sp ||| format ||| extend) x) :
    spacedBack m (rules.trim (run.reverse ++ a :: back)) := by
  apply RuleSet.trim_run (p := fun seen => spacedBack m seen) (by decide) _ ha h hrun
  intro x seen hx hplain hspaced
  have hspace : Kind.sentence.has sp x := by
    simp only [rules, Kind.has_or, Bool.or_eq_true, Bool.or_eq_false_iff] at hx hplain
    simpa [hplain] using hx
  rw [spacedBack_cons, hspace, hspaced]
  simp

end Joins

end TextBoundary.SentenceBreak
