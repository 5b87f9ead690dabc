import TextBoundary.Proofs.RuleSet
import TextBoundary.Proofs.Scan

/-! The rules for words, where the scan departs from them, and what of the characters before a position
they depend on. -/

namespace TextBoundary.WordBreak

open Piece
open Break.Word (ahLetter ignored midNumLetQ newlines)

/-- WB3 to WB999. WB1 and WB2 are the ends of the text. -/
def rules : RuleSet .word where
  first := [
    -- WB3 to WB3b
    ⟨[.one cr], .join, [.one lf]⟩,
    ⟨[.one newlines], .split, []⟩,
    ⟨[], .split, [.one newlines]⟩,
    -- WB3c and WB3d
    ⟨[.one zwj], .join, [.one extendedPictographic]⟩,
    ⟨[.one wSegSpace], .join, [.one wSegSpace]⟩]
  -- WB4
  ignored := extend ||| zwj ||| format
  anchors := newlines
  later := [
    -- WB5 to WB7
    ⟨[.one ahLetter], .join, [.one ahLetter]⟩,
    ⟨[.one ahLetter], .join, [.one (midLetter ||| midNumLetQ), .one ahLetter]⟩,
    ⟨[.one ahLetter, .one (midLetter ||| midNumLetQ)], .join, [.one ahLetter]⟩,
    -- WB7a to WB7c
    ⟨[.one hebrewLetter], .join, [.one singleQuote]⟩,
    ⟨[.one hebrewLetter], .join, [.one doubleQuote, .one hebrewLetter]⟩,
    ⟨[.one hebrewLetter, .one doubleQuote], .join, [.one hebrewLetter]⟩,
    -- WB8 to WB10
    ⟨[.one numeric], .join, [.one numeric]⟩,
    ⟨[.one ahLetter], .join, [.one numeric]⟩,
    ⟨[.one numeric], .join, [.one ahLetter]⟩,
    -- WB11 and WB12
    ⟨[.one numeric, .one (midNum ||| midNumLetQ)], .join, [.one numeric]⟩,
    ⟨[.one numeric], .join, [.one (midNum ||| midNumLetQ), .one numeric]⟩,
    -- WB13 to WB13b
    ⟨[.one katakana], .join, [.one katakana]⟩,
    ⟨[.one (ahLetter ||| numeric ||| katakana ||| extendNumLet)], .join, [.one extendNumLet]⟩,
    ⟨[.one extendNumLet], .join, [.one (ahLetter ||| numeric ||| katakana)]⟩,
    -- WB15 and WB16
    ⟨[.edge regionalIndicator, .pairs regionalIndicator, .one regionalIndicator], .join,
      [.one regionalIndicator]⟩]
  otherwise := .split

/-- Where the scan splits although the rules join, with the characters before the position nearest first.
The look ahead for WB7b and WB7c takes the quote without its extenders, and a pair of indicators is closed
without asking WB3c behind it. -/
def missedAt (back ahead : List Char) : Bool :=
  fit .word [.one hebrewLetter] (rules.trim back)
    && fit .word [.one doubleQuote, .one ignored, .many ignored,
      .one hebrewLetter] ahead
  || fit .word [.one ignored] back
    && fit .word [.one doubleQuote, .one hebrewLetter] (rules.trim back)
    && fit .word [.one hebrewLetter] ahead
  || fit .word [.one zwj] back
    && fit .word [.one regionalIndicator, .one regionalIndicator, .pairs regionalIndicator,
      .edge regionalIndicator] (rules.trim back)
    && fit .word [.one extendedPictographic] ahead

def missed (before after : List Char) : Bool := missedAt before.reverse after

/-- Where the scan splits a text. -/
def scanSplitAt (back ahead : List Char) : Bool := rules.splitAt back ahead || missedAt back ahead

variable {m n : Mask} {a b c : Char} {back ahead run seen : List Char}

theorem fit_one {ps : List Char} : fit .word [.one m] ps = Kind.word.hasNext m ps := by
  cases ps <;> simp

def following (ahead : List Char) : List Char :=
  ahead.dropWhile (Kind.word.has ignored)

/-- WB5 to WB16, with the characters that WB4 leaves before the position. `opened` and `closed` tell
whether WB7b and WB7c may apply. -/
def joins (opened closed : Bool) (seen : List Char) (b : Char) (ahead : List Char) : Bool :=
  Kind.word.hasNext ahLetter seen && Kind.word.has ahLetter b
  || Kind.word.hasNext ahLetter seen
    && (Kind.word.has (midLetter ||| midNumLetQ) b && Kind.word.hasNext ahLetter (following ahead))
  || fit .word [.one (midLetter ||| midNumLetQ), .one ahLetter] seen && Kind.word.has ahLetter b
  || Kind.word.hasNext hebrewLetter seen && Kind.word.has singleQuote b
  || opened && Kind.word.hasNext hebrewLetter seen
    && (Kind.word.has doubleQuote b && Kind.word.hasNext hebrewLetter (following ahead))
  || closed && fit .word [.one doubleQuote, .one hebrewLetter] seen && Kind.word.has hebrewLetter b
  || Kind.word.hasNext numeric seen && Kind.word.has numeric b
  || Kind.word.hasNext ahLetter seen && Kind.word.has numeric b
  || Kind.word.hasNext numeric seen && Kind.word.has ahLetter b
  || fit .word [.one (midNum ||| midNumLetQ), .one numeric] seen && Kind.word.has numeric b
  || Kind.word.hasNext numeric seen
    && (Kind.word.has (midNum ||| midNumLetQ) b && Kind.word.hasNext numeric (following ahead))
  || Kind.word.hasNext katakana seen && Kind.word.has katakana b
  || Kind.word.hasNext (ahLetter ||| numeric ||| katakana ||| extendNumLet) seen
    && Kind.word.has extendNumLet b
  || Kind.word.hasNext extendNumLet seen && Kind.word.has (ahLetter ||| numeric ||| katakana) b
  || oddRun (Kind.word.has regionalIndicator) seen && Kind.word.has regionalIndicator b

theorem decide_later (hb : Kind.word.has newlines b = false) :
    (Rule.decide .word seen (b :: rules.condense (some b) ahead) rules.later rules.otherwise
      == .split) = !joins true true seen b ahead := by
  have hfollowing : ∀ m, Kind.word.hasNext m (rules.condense (some b) ahead)
      = Kind.word.hasNext m (following ahead) := by
    intro m
    rw [Kind.hasNext, RuleSet.head_condense hb]
    rfl
  generalize rules.condense (some b) ahead = kept at hfollowing ⊢
  simp only [rules, Rule.decide_join, Rule.decide_nil, List.reverse_cons, List.reverse_nil,
    List.nil_append, List.cons_append, fit_one_cons, fit_nil, fit_odd, fit_one, hfollowing]
  simp only [joins, Bool.not_or, Bool.and_assoc, Bool.and_true, Bool.true_and, beq_self_eq_true]

theorem splitAt_cons :
    rules.splitAt (a :: back) (b :: ahead) = (!(Kind.word.has cr a && Kind.word.has lf b)
      && (Kind.word.has newlines a || (Kind.word.has newlines b
        || !(Kind.word.has zwj a && Kind.word.has extendedPictographic b)
          && (!(Kind.word.has wSegSpace a && Kind.word.has wSegSpace b)
            && (!Kind.word.has ignored b
              && !joins true true (rules.trim (a :: back)) b ahead))))) := by
  cases ha : Kind.word.has newlines a with
  | true =>
    rw [RuleSet.splitAt, RuleSet.verdict, rules]
    simp only [Rule.decide_join, Rule.decide_split, List.reverse_singleton, fit_one_cons, fit_nil, ha]
    simp
  | false =>
    rw [RuleSet.splitAt_cons ha]
    cases hb : Kind.word.has newlines b with
    | true =>
      generalize (if Kind.word.has rules.ignored b = true then Verdict.join else _) = verdict
      simp [rules, Rule.decide_join, Rule.decide_split, ha, hb]
    | false =>
      rw [show rules.ignored = ignored from rfl, ← decide_later hb]
      generalize Rule.decide _ _ _ rules.later rules.otherwise = verdict
      cases Kind.word.has ignored b <;>
        simp [rules, Rule.decide_join, Rule.decide_split, Rule.decide_nil, ha, hb]

def quoteOpens (seen : List Char) (b : Char) (ahead : List Char) : Bool :=
  Kind.word.hasNext hebrewLetter seen
    && (Kind.word.has doubleQuote b && Kind.word.hasNext hebrewLetter (following ahead))

def quoteCloses (seen : List Char) (b : Char) : Bool :=
  fit .word [.one doubleQuote, .one hebrewLetter] seen && Kind.word.has hebrewLetter b

def paired : List Char → Bool :=
  fit .word [.one regionalIndicator, .one regionalIndicator, .pairs regionalIndicator,
    .edge regionalIndicator]

theorem paired_eq : paired seen
    = (Kind.word.hasNext regionalIndicator seen && !oddRun (Kind.word.has regionalIndicator) seen) := by
  cases seen with
  | nil => rfl
  | cons c seen =>
    rw [paired, fit_one_cons, fit_odd, oddRun, Kind.hasNext_cons]
    cases Kind.word.has regionalIndicator c <;> simp

theorem joins_eq (opened closed : Bool) : joins opened closed seen b ahead
    = (joins false false seen b ahead || opened && quoteOpens seen b ahead
      || closed && quoteCloses seen b) := by
  simp only [joins, quoteOpens, quoteCloses, Bool.false_and, Bool.or_false]
  ac_rfl

theorem fit_many_one (h : Kind.word.apart m n) :
    fit .word [.many m, .one n] ahead = Kind.word.hasNext n (ahead.dropWhile (Kind.word.has m)) := by
  induction ahead with
  | nil => simp
  | cons c ahead ih =>
    rw [fit_many_cons, fit_one_cons, ih, fit_nil, List.dropWhile_cons]
    cases hc : Kind.word.has m c with
    | true => simp [Kind.not_has_of_apart h hc]
    | false => simp

theorem fit_following (h : Kind.word.apart ignored n) :
    fit .word [.one ignored, .many ignored, .one n] ahead
      = (Kind.word.hasNext ignored ahead && Kind.word.hasNext n (following ahead)) := by
  cases ahead with
  | nil => rfl
  | cons c ahead =>
    rw [fit_one_cons, fit_many_one h, Kind.hasNext_cons, following, List.dropWhile_cons]
    cases Kind.word.has ignored c <;> simp

theorem missedAt_cons :
    missedAt (a :: back) (b :: ahead) = (Kind.word.hasNext ignored ahead
        && quoteOpens (rules.trim (a :: back)) b ahead
      || Kind.word.has ignored a && quoteCloses (rules.trim (a :: back)) b
      || Kind.word.has zwj a && Kind.word.has extendedPictographic b
        && paired (rules.trim (a :: back))) := by
  rw [missedAt, fit_one_cons, fit_following (by decide), fit_one]
  simp only [fit_one_cons, fit_nil, Bool.and_true, quoteOpens, quoteCloses, paired]
  ac_rfl

theorem joins_of_doubleQuote (hb : Kind.word.has doubleQuote b) :
    joins false false seen b ahead = false := by
  have hapart : Kind.word.has (aLetter ||| hebrewLetter ||| midLetter ||| midNumLet ||| singleQuote
      ||| numeric ||| midNum ||| katakana ||| extendNumLet ||| regionalIndicator) b = false :=
    Kind.not_has_of_apart (by decide) hb
  simp only [Kind.has_or, Bool.or_eq_false_iff] at hapart
  simp [joins, ahLetter, midNumLetQ, hapart]

theorem joins_behind_doubleQuote (ha : Kind.word.hasNext doubleQuote seen) (opened : Bool) :
    joins opened false seen b ahead = false := by
  have hapart : Kind.word.hasNext (aLetter ||| hebrewLetter ||| midLetter ||| midNumLet
      ||| numeric ||| midNum ||| singleQuote ||| katakana ||| extendNumLet ||| regionalIndicator) seen
      = false :=
    Kind.not_hasNext_of_apart (by decide) ha
  obtain ⟨c, seen, rfl, -⟩ := Kind.hasNext_iff.mp ha
  simp only [Kind.hasNext_cons, Kind.has_or, Bool.or_eq_false_iff] at hapart
  simp [joins, ahLetter, midNumLetQ, hapart, oddRun]

theorem joins_of_paired (h : paired seen) (opened closed : Bool) :
    joins opened closed seen b ahead = false := by
  rw [paired_eq, Bool.and_eq_true, Bool.not_eq_true'] at h
  obtain ⟨ha, hodd⟩ := h
  have hapart : Kind.word.hasNext (aLetter ||| hebrewLetter ||| midLetter ||| midNumLet ||| singleQuote
      ||| doubleQuote ||| numeric ||| midNum ||| katakana ||| extendNumLet) seen = false :=
    Kind.not_hasNext_of_apart (by decide) ha
  obtain ⟨c, seen, rfl, -⟩ := Kind.hasNext_iff.mp ha
  simp only [Kind.hasNext_cons, Kind.has_or, Bool.or_eq_false_iff] at hapart
  simp [joins, ahLetter, midNumLetQ, hapart, hodd]

theorem quote_of_quoteOpens (h : quoteOpens seen b ahead) :
    Kind.word.has doubleQuote b ∧ quoteCloses seen b = false := by
  simp only [quoteOpens, Bool.and_eq_true] at h
  refine ⟨h.2.1, ?_⟩
  rw [quoteCloses, Kind.not_has_of_apart (by decide) h.2.1, Bool.and_false]

theorem quote_of_quoteCloses (h : quoteCloses seen b) :
    Kind.word.has hebrewLetter b ∧ Kind.word.hasNext doubleQuote seen := by
  rw [quoteCloses, Bool.and_eq_true] at h
  refine ⟨h.2, ?_⟩
  cases seen with
  | nil => simp at h
  | cons c seen =>
    rw [fit_one_cons, Bool.and_eq_true] at h
    exact h.1.1

theorem scanSplitAt_cons :
    scanSplitAt (a :: back) (b :: ahead) = (!(Kind.word.has cr a && Kind.word.has lf b)
      && (Kind.word.has newlines a || (Kind.word.has newlines b
        || !(Kind.word.has zwj a && Kind.word.has extendedPictographic b
            && !paired (rules.trim (a :: back)))
          && (!(Kind.word.has wSegSpace a && Kind.word.has wSegSpace b)
            && (!Kind.word.has ignored b
              && !joins (!Kind.word.hasNext ignored ahead)
                (!Kind.word.has ignored a) (rules.trim (a :: back)) b ahead))))) := by
  rw [scanSplitAt, splitAt_cons, missedAt_cons, joins_eq, joins_eq (!_)]
  cases hopens : quoteOpens (rules.trim (a :: back)) b ahead with
  | true =>
    obtain ⟨hb, hrest⟩ := quote_of_quoteOpens hopens
    have hapart : Kind.word.has (lf ||| newlines ||| extendedPictographic ||| wSegSpace ||| ignored) b
        = false := Kind.not_has_of_apart (by decide) hb
    simp only [Kind.has_or, Bool.or_eq_false_iff] at hapart
    simp [hapart, joins_of_doubleQuote hb, hrest]
  | false =>
    cases hcloses : quoteCloses (rules.trim (a :: back)) b with
    | true =>
      obtain ⟨hb, hquote⟩ := quote_of_quoteCloses hcloses
      have hapart : Kind.word.has (lf ||| newlines ||| extendedPictographic ||| wSegSpace ||| ignored) b
        = false := Kind.not_has_of_apart (by decide) hb
      simp only [Kind.has_or, Bool.or_eq_false_iff] at hapart
      simp [hapart, joins_behind_doubleQuote hquote]
    | false =>
      cases hpaired : paired (rules.trim (a :: back)) with
      | false => simp
      | true =>
        cases hz : Kind.word.has zwj a && Kind.word.has extendedPictographic b with
        | false => simp
        | true =>
          obtain ⟨ha, hb⟩ := Bool.and_eq_true_iff.mp hz
          have hwseg : Kind.word.has wSegSpace a = false := Kind.not_has_of_apart (by decide) ha
          have hapart : Kind.word.has (lf ||| ignored) b = false :=
            Kind.not_has_of_apart (by decide) hb
          simp only [Kind.has_or, Bool.or_eq_false_iff] at hapart
          simp [hapart, hwseg, joins_of_paired hpaired]

theorem scanSplitAt_congr {other : List Char} (hhead : back.head? = other.head?)
    (hpaired : paired (rules.trim back) = paired (rules.trim other))
    (hjoins : ∀ opened,
      joins opened (!Kind.word.hasNext ignored back) (rules.trim back) b ahead
        = joins opened (!Kind.word.hasNext ignored back) (rules.trim other) b ahead) :
    scanSplitAt back (b :: ahead) = scanSplitAt other (b :: ahead) := by
  cases back with
  | nil =>
    cases other with
    | nil => rfl
    | cons => simp at hhead
  | cons a back =>
    cases other with
    | nil => simp at hhead
    | cons c other =>
      obtain rfl : a = c := by simpa using hhead
      simp only [Kind.hasNext_cons] at hjoins
      rw [scanSplitAt_cons, scanSplitAt_cons, hpaired, hjoins]

def Uncrossed (outer middle : Mask) (back ahead : List Char) : Prop :=
  ∀ t u x v, ahead = t :: (u ++ x :: v) → Kind.word.has middle t →
    (∀ c ∈ u, Kind.word.has ignored c) → Kind.word.has outer x →
    Kind.word.hasNext outer (rules.trim back) = false

/-- Nothing that stands in `back` is still awaited in `ahead`: no letter or number behind a middle character
or a quote, and no second indicator of a pair. -/
structure Settled (back ahead : List Char) : Prop where
  seen : ahead.head?.any (rules.ignores back.head?) = false
  letter : Uncrossed ahLetter (midLetter ||| midNumLetQ) back ahead
  number : Uncrossed numeric (midNum ||| midNumLetQ) back ahead
  quote {t x : Char} {v : List Char} (h : ahead = t :: x :: v) (ht : Kind.word.has doubleQuote t)
    (hx : Kind.word.has hebrewLetter x) : Kind.word.hasNext hebrewLetter (rules.trim back) = false
  indicator {t : Char} {v : List Char} (h : ahead = t :: v) (ht : Kind.word.has regionalIndicator t) :
    oddRun (Kind.word.has regionalIndicator) (rules.trim back) = false

section Restart

variable {t : Char} {u v w : List Char}

theorem hasNext_restart : Kind.word.hasNext m (w ++ t :: seen) = Kind.word.hasNext m (w ++ [t]) := by
  cases w <;> rfl

theorem crossed_restart {outer middle : Mask} (h : Uncrossed outer middle back (t :: (u ++ b :: v)))
    (hempty : w = [] → ∀ c ∈ u, Kind.word.has ignored c) :
    (fit .word [.one middle, .one outer] (w ++ t :: rules.trim back) && Kind.word.has outer b)
      = (fit .word [.one middle, .one outer] (w ++ [t]) && Kind.word.has outer b) := by
  match w with
  | x :: y :: w => simp
  | [x] => simp
  | [] =>
    cases hb : Kind.word.has outer b with
    | false => simp
    | true =>
      cases ht : Kind.word.has middle t with
      | false => simp [ht]
      | true =>
        have hback := h t u b v rfl ht (hempty rfl) hb
        simp [fit_one, hback]

theorem quote_restart {closed : Bool} (h : Settled back (t :: (u ++ b :: v)))
    (hempty : w = [] → closed → u = []) :
    (closed && fit .word [.one doubleQuote, .one hebrewLetter] (w ++ t :: rules.trim back)
        && Kind.word.has hebrewLetter b)
      = (closed && fit .word [.one doubleQuote, .one hebrewLetter] (w ++ [t])
        && Kind.word.has hebrewLetter b) := by
  match w with
  | x :: y :: w => simp
  | [x] => simp
  | [] =>
    cases hclosed : closed with
    | false => rfl
    | true =>
      obtain rfl := hempty rfl hclosed
      cases hb : Kind.word.has hebrewLetter b with
      | false => simp
      | true =>
        cases ht : Kind.word.has doubleQuote t with
        | false => simp [ht]
        | true =>
          have hback := h.quote rfl ht hb
          simp [fit_one, hback]

theorem indicator_restart (h : Settled back (t :: ahead)) :
    oddRun (Kind.word.has regionalIndicator) (w ++ t :: rules.trim back)
      = oddRun (Kind.word.has regionalIndicator) (w ++ [t]) := by
  cases ht : Kind.word.has regionalIndicator t with
  | true => rw [List.append_cons, oddRun_append (h.indicator rfl ht)]
  | false =>
    have hlong : oddRun (Kind.word.has regionalIndicator) (t :: rules.trim back) = false := by
      rw [oddRun, ht]
      rfl
    have hshort : oddRun (Kind.word.has regionalIndicator) [t] = false := by
      rw [oddRun, ht]
      rfl
    rw [oddRun_append hlong, oddRun_append hshort]

end Restart

theorem Settled.restarts (h : Settled back ahead) : Restarts scanSplitAt back ahead := by
  rintro u v rfl hu hv
  obtain ⟨t, u, rfl⟩ := List.exists_cons_of_ne_nil hu
  obtain ⟨b, v, rfl⟩ := List.exists_cons_of_ne_nil hv
  -- `w` is what the later rules see between `t` and `b`; they reach past `t` only if that is nothing
  obtain ⟨w, hlong, hshort, hempty⟩ := RuleSet.trim_seen (by simpa using h.seen) u.reverse
  rw [List.cons_append] at h
  have hignored : w = [] → ∀ c ∈ u, Kind.word.has ignored c :=
    fun hw c hc => hempty hw c (List.mem_reverse.mpr hc)
  have hletter := crossed_restart h.letter hignored
  have hnumber := crossed_restart h.number hignored
  have hindicator := indicator_restart (w := w) h
  rw [List.reverse_cons, List.append_assoc, List.singleton_append]
  apply scanSplitAt_congr (by cases u.reverse <;> rfl)
  · rw [hlong, hshort, paired_eq, paired_eq, hindicator, hasNext_restart]
  · intro opened
    have hclosed : w = []
        → (!Kind.word.hasNext ignored (u.reverse ++ t :: back)) = true → u = [] := by
      intro hw hlast
      rcases List.eq_nil_or_concat' u with rfl | ⟨u, c, rfl⟩
      · rfl
      · rw [List.reverse_append, List.reverse_singleton, List.singleton_append, List.cons_append,
          Kind.hasNext_cons, hignored hw c (by simp)] at hlast
        exact Bool.noConfusion hlast
    have hquote := quote_restart h hclosed
    rw [hlong, hshort]
    generalize (!Kind.word.hasNext ignored (u.reverse ++ t :: back)) = closed at *
    simp only [joins, hletter, hnumber, hquote, hindicator, hasNext_restart]

theorem Settled.of_neutral (hb : Kind.word.has (ignored ||| midLetter ||| midNum
    ||| midNumLetQ ||| doubleQuote ||| regionalIndicator) b = false) : Settled back (b :: ahead) := by
  simp only [Kind.has_or, Bool.or_eq_false_iff] at hb
  constructor
  case seen => exact RuleSet.ignores_of_not_has hb.1.1.1.1.1
  case letter =>
    intro t u x v heq ht
    obtain ⟨rfl, -⟩ := List.cons.inj heq
    simp [hb] at ht
  case number =>
    intro t u x v heq ht
    obtain ⟨rfl, -⟩ := List.cons.inj heq
    simp [hb] at ht
  case quote =>
    intro t x v heq ht
    obtain ⟨rfl, -⟩ := List.cons.inj heq
    simp [hb] at ht
  case indicator =>
    intro t v heq ht
    obtain ⟨rfl, -⟩ := List.cons.inj heq
    simp [hb] at ht

theorem trim_of_newline (ha : Kind.word.has newlines a) :
    rules.trim (a :: back) = a :: rules.trim back :=
  RuleSet.trim_cons (RuleSet.ignores_of_not_has (Kind.not_has_of_apart (by decide) ha))

theorem Settled.of_newline (ha : Kind.word.has newlines a) : Settled (a :: back) ahead := by
  have hapart : Kind.word.has (ignored ||| aLetter ||| hebrewLetter ||| numeric
      ||| regionalIndicator) a = false := Kind.not_has_of_apart (by decide) ha
  simp only [Kind.has_or, Bool.or_eq_false_iff] at hapart
  have htrim := @trim_of_newline a back ha
  constructor
  case seen =>
    cases ahead with
    | nil => rfl
    | cons b ahead => exact RuleSet.ignores_anchor ha
  case letter =>
    intros _ _ _ _ _ _ _ _
    simp [htrim, ahLetter, hapart]
  case number =>
    intros _ _ _ _ _ _ _ _
    simp [htrim, hapart]
  case quote =>
    intros
    simp [htrim, hapart]
  case indicator =>
    intros
    simp [htrim, oddRun, hapart]

theorem following_run {u v : List Char} {x : Char}
    (hu : ∀ c ∈ u, Kind.word.has ignored c)
    (hx : Kind.word.has ignored x = false) : following (u ++ x :: v) = x :: v :=
  Kind.dropWhile_run hu hx

theorem uncrossed_of_not_joined {outer middle : Mask}
    (hapart : Kind.word.apart outer ignored)
    (h : (Kind.word.hasNext outer (rules.trim back)
      && (Kind.word.has middle b && Kind.word.hasNext outer (following ahead))) = false) :
    Uncrossed outer middle back (b :: ahead) := by
  intro t u x v heq ht hu hx
  obtain ⟨rfl, rfl⟩ := List.cons.inj heq
  rw [following_run hu (Kind.not_has_of_apart hapart hx), ht, Kind.hasNext_cons, hx] at h
  simpa using h

theorem settled_of_split (h : scanSplitAt (a :: back) (b :: ahead)) :
    Settled (a :: back) (b :: ahead) := by
  cases ha : Kind.word.has newlines a with
  | true => exact .of_newline ha
  | false =>
    cases hb : Kind.word.has newlines b with
    | true => exact .of_neutral (Kind.not_has_of_apart (by decide) hb)
    | false =>
      rw [scanSplitAt_cons, ha, hb, Bool.false_or, Bool.false_or] at h
      simp only [Bool.and_eq_true, Bool.not_eq_true'] at h
      obtain ⟨-, -, -, hignored, hjoins⟩ := h
      simp only [joins, Bool.or_eq_false_iff, and_assoc] at hjoins
      obtain ⟨-, hletter, -, -, hquote, -, -, -, -, -, hnumber, -, -, -, hindicator⟩ := hjoins
      constructor
      case seen => exact RuleSet.ignores_of_not_has hignored
      case letter => exact uncrossed_of_not_joined (by decide) hletter
      case number => exact uncrossed_of_not_joined (by decide) hnumber
      case quote =>
        intro t x v heq ht hx
        obtain ⟨rfl, rfl⟩ := List.cons.inj heq
        have hplain : Kind.word.has ignored x = false :=
          Kind.not_has_of_apart (by decide) hx
        have hfollowing : following (x :: v) = x :: v := following_run (List.forall_mem_nil _) hplain
        rw [hfollowing, ht, Kind.hasNext_cons, Kind.hasNext_cons, hx, hplain] at hquote
        simpa using hquote
      case indicator =>
        intro t v heq ht
        obtain ⟨rfl, -⟩ := List.cons.inj heq
        simpa [ht] using hindicator

section Joins

variable (ha : Kind.word.has newlines a = false)
include ha

theorem scanSplitAt_plain :
    scanSplitAt (a :: back) (b :: ahead) = (Kind.word.has newlines b
      || !(Kind.word.has zwj a && Kind.word.has extendedPictographic b
          && !paired (rules.trim (a :: back)))
        && (!(Kind.word.has wSegSpace a && Kind.word.has wSegSpace b)
          && (!Kind.word.has ignored b
            && !joins (!Kind.word.hasNext ignored ahead)
              (!Kind.word.has ignored a) (rules.trim (a :: back)) b ahead))) := by
  have hcr : Kind.word.has cr a = false := Kind.not_has_of_within (by decide) ha
  rw [scanSplitAt_cons, ha, hcr]
  simp

theorem scanSplitAt_of_ignored (hb : Kind.word.has ignored b) :
    scanSplitAt (a :: back) (b :: ahead) = false := by
  have hplain : Kind.word.has newlines b = false := Kind.not_has_of_apart (by decide) hb
  rw [scanSplitAt_plain ha, hb, hplain]
  simp

theorem scanSplitAt_of_joins (hb : Kind.word.has newlines b = false)
    (hjoins : joins (!Kind.word.hasNext ignored ahead)
      (!Kind.word.has ignored a) (rules.trim (a :: back)) b ahead) :
    scanSplitAt (a :: back) (b :: ahead) = false := by
  rw [scanSplitAt_plain ha, hb, hjoins]
  simp

theorem scanSplitAt_of_paired (hspace : Kind.word.has wSegSpace a = false)
    (hb : Kind.word.has ignored b = false) (h : paired (rules.trim (a :: back))) :
    scanSplitAt (a :: back) (b :: ahead) := by
  rw [scanSplitAt_plain ha, hspace, hb, h, joins_of_paired h]
  simp

end Joins

theorem scanSplitAt_of_pictograph (ha : Kind.word.has zwj a) (hb : Kind.word.has extendedPictographic b)
    (h : paired (rules.trim (a :: back)) = false) : scanSplitAt (a :: back) (b :: ahead) = false := by
  have hplain : Kind.word.has newlines b = false := Kind.not_has_of_apart (by decide) hb
  rw [scanSplitAt_plain (Kind.not_has_of_apart (by decide) ha), ha, hb, h, hplain]
  rfl

theorem scanSplitAt_of_spaces (ha : Kind.word.has wSegSpace a) (hb : Kind.word.has wSegSpace b) :
    scanSplitAt (a :: back) (b :: ahead) = false := by
  have hplain : Kind.word.has newlines b = false := Kind.not_has_of_apart (by decide) hb
  rw [scanSplitAt_plain (Kind.not_has_of_apart (by decide) ha), ha, hb, hplain]
  simp

theorem scanSplitAt_of_newline (ha : Kind.word.has newlines a)
    (hcrlf : (Kind.word.has cr a && Kind.word.has lf b) = false) :
    scanSplitAt (a :: back) (b :: ahead) := by
  rw [scanSplitAt_cons, ha, hcrlf]
  rfl

theorem scanSplitAt_of_crlf (ha : Kind.word.has cr a) (hb : Kind.word.has lf b) :
    scanSplitAt (a :: back) (b :: ahead) = false := by
  rw [scanSplitAt_cons, ha, hb]
  rfl

theorem splitAt_of_joins (ha : Kind.word.has newlines a = false) (hb : Kind.word.has newlines b = false)
    (hjoins : joins true true (rules.trim (a :: back)) b ahead) :
    rules.splitAt (a :: back) (b :: ahead) = false := by
  rw [splitAt_cons, ha, hb, hjoins]
  simp

theorem splitAt_of_missedAt (h : missedAt back ahead) : rules.splitAt back ahead = false := by
  match back, ahead with
  | [], _ => simp [missedAt, RuleSet.trim] at h
  | _ :: _, [] => simp [missedAt] at h
  | a :: back, b :: ahead =>
    rw [missedAt_cons] at h
    simp only [Bool.or_eq_true, Bool.and_eq_true] at h
    rcases h with (⟨-, hopens⟩ | ⟨ha, hcloses⟩) | ⟨⟨ha, hb⟩, -⟩
    · have ha : Kind.word.has newlines a = false := by
        rw [← Bool.not_eq_true]
        intro ha
        rw [trim_of_newline ha, quoteOpens, Kind.hasNext_cons,
          Kind.not_has_of_apart (by decide) ha] at hopens
        exact Bool.noConfusion hopens
      have hb : Kind.word.has newlines b = false :=
        Kind.not_has_of_apart (by decide) (quote_of_quoteOpens hopens).1
      apply splitAt_of_joins ha hb
      rw [joins_eq, hopens]
      simp
    · have hb : Kind.word.has newlines b = false :=
        Kind.not_has_of_apart (by decide) (quote_of_quoteCloses hcloses).1
      apply splitAt_of_joins (Kind.not_has_of_apart (by decide) ha) hb
      rw [joins_eq, hcloses]
      simp
    · have hnewline : Kind.word.has newlines a = false := Kind.not_has_of_apart (by decide) ha
      have hplain : Kind.word.has newlines b = false := Kind.not_has_of_apart (by decide) hb
      rw [splitAt_cons, ha, hb, hnewline, hplain]
      simp

end TextBoundary.WordBreak
