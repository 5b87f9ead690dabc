import TextBoundary.Proofs.Extenders
import TextBoundary.Proofs.Walk
import TextBoundary.Proofs.WordRules

namespace TextBoundary.Break.Word

open Cursor WordBreak

variable {units : Units} {c d e : Scanner units} {a b t : Char} {back tail run rest u : List Char}

theorem held_of_ignored (ha : Kind.word.has newlines a = false)
    (hrun : ∀ x ∈ run, Kind.word.has ignored x) : Held scanSplitAt (a :: back) run rest :=
  Held.of_mask scanSplitAt_of_ignored (by decide) ha hrun

theorem passed_neutral (hcd : Moved run c d) (hne : run ≠ []) (hj : Joined scanSplitAt [] run d.ahead)
    (hahead : d.ahead = b :: rest)
    (hb : Kind.word.has (ahLetter ||| numeric ||| katakana ||| extendNumLet ||| extendedPictographic
      ||| wSegSpace) b)
    (hsplit : scanSplitAt run.reverse (b :: rest) = false) :
    c.Passed scanSplitAt newlines (.ok (.again d)) :=
  Passed.again_before hcd hne hj hahead (Settled.of_neutral (Kind.not_has_of_apart (by decide) hb)).restarts
    (Kind.not_has_of_apart (by decide) hb) hsplit

theorem pictograph_tried (hd : d.Ready) (hs : d.saved = none) :
    Tried (fun run rest => true ∧ (∃ t, run = [t] ∧ Kind.word.has zwj t)
      ∧ Kind.word.hasNext extendedPictographic rest) d (pictograph d) :=
  beside_tried hd hs (by rw [hd.meets, Bool.true_and])

theorem acrossQuote_tried (h : Accepted rules c d a tail) :
    Tried (fun run rest => Kind.word.has hebrewLetter a
      ∧ (∃ t, run = [t] ∧ Kind.word.has doubleQuote t) ∧ Kind.word.hasNext hebrewLetter rest) d
      (acrossQuote d) :=
  beside_tried h.ready h.saved (by rw [h.meets, h.ready.meets])

theorem skipIgnored_spec (rounds : Nat) (hc : c.Ready) (hr : c.ahead.length ≤ rounds) :
    (∃ d run, skipIgnored rounds c = .ok (.joined d) ∧ Moved run c d
      ∧ (∀ x ∈ run, Kind.word.has ignored x) ∧ Kind.word.hasNext zwj run.reverse
      ∧ Kind.word.hasNext extendedPictographic d.ahead)
    ∨ ∃ d, skipIgnored rounds c = .ok (.refused d)
      ∧ Moved (c.ahead.takeWhile (Kind.word.has ignored)) c d
      ∧ (Kind.word.hasNext zwj (c.ahead.takeWhile (Kind.word.has ignored)).reverse
        && Kind.word.hasNext extendedPictographic d.ahead) = false := by
  induction rounds generalizing c with
  | zero =>
    have hnil : c.ahead = [] := List.eq_nil_of_length_eq_zero (Nat.le_zero.mp hr)
    rw [skipIgnored, hc.meets, hnil]
    exact .inr ⟨c, rfl, .refl hc, rfl⟩
  | succ rounds ih =>
    rw [skipIgnored, hc.meets, hc.meets]
    cases hahead : c.ahead with
    | nil => exact .inr ⟨c, by simp, .refl hc, by simp⟩
    | cons x rest =>
      cases hx : Kind.word.has ignored x with
      | false => exact .inr ⟨c, by simp [hx], by simpa [hx] using Moved.refl hc, by simp [hx]⟩
      | true =>
        obtain ⟨d, hd, hcd, hrest, -⟩ := hc.advance_spec hahead
        have hdr := hcd.ready hc
        simp only [Kind.hasNext_cons, hx, if_true, hd, ok_bind, hdr.meets]
        cases hjoin : Kind.word.has zwj x && Kind.word.hasNext extendedPictographic d.ahead with
        | true =>
          obtain ⟨hz, hnext⟩ := Bool.and_eq_true_iff.mp hjoin
          exact .inl ⟨d, [x], rfl, hcd, by simpa using hx, hz, hnext⟩
        | false =>
          rw [List.takeWhile_cons, if_pos hx, List.reverse_cons, ← hrest]
          rcases ih hdr (by simp_all) with ⟨e, run, he, hde, hrun, hz, hnext⟩ | ⟨e, he, hde, hlast⟩
          · have hne : run.reverse ≠ [] := fun h => by simp [h] at hz
            refine .inl ⟨e, x :: run, he, hcd.trans hde, List.forall_mem_cons.mpr ⟨hx, hrun⟩, ?_, hnext⟩
            rw [List.reverse_cons, Kind.hasNext_append hne, hz]
          · refine .inr ⟨e, he, hcd.trans hde, ?_⟩
            by_cases hnil : d.ahead.takeWhile (Kind.word.has ignored) = []
            · rw [hnil] at hde ⊢
              rwa [hde.ahead_eq] at hjoin
            · rwa [Kind.hasNext_append (by simpa using hnil)]

theorem extenders_spec (hc : c.Ready) :
    (∃ d run, extenders c = .ok (.joined d) ∧ Moved run c d
      ∧ (∀ x ∈ run, Kind.word.has ignored x) ∧ Kind.word.hasNext zwj run.reverse
      ∧ Kind.word.hasNext extendedPictographic d.ahead)
    ∨ ∃ d, extenders c = .ok (.refused d) ∧ Moved (c.ahead.takeWhile (Kind.word.has ignored)) c d
      ∧ d.current = c.current
      ∧ (Kind.word.hasNext zwj (c.ahead.takeWhile (Kind.word.has ignored)).reverse
        && Kind.word.hasNext extendedPictographic d.ahead) = false := by
  rcases skipIgnored_spec c.remaining hc hc.length_le_remaining with
    ⟨d, run, hd, hspec⟩ | ⟨d, hd, hcd, hlast⟩
  · exact .inl ⟨d, run, by rw [extenders, hd]; rfl, hspec⟩
  · exact .inr ⟨d.setCurrent c.current, by rw [extenders, hd]; rfl, hcd.setCurrent _, rfl, hlast⟩

theorem joined_self (h : Accepted rules c d a tail) :
    Joined scanSplitAt [] (a :: tail) rest :=
  Held.joined (held_of_ignored h.plain h.ignored)

theorem joined_append (h : Accepted rules c d a tail)
    (hrun : Held scanSplitAt (tail.reverse ++ [a]) run rest) :
    Joined scanSplitAt [] (a :: tail ++ run) rest :=
  Held.joined (Held.append (held_of_ignored h.plain h.ignored) hrun)

theorem not_split_of_joins (h : Accepted rules c d a tail) (hb : Kind.word.has newlines b = false)
    (hjoins : ∀ closed, joins (!Kind.word.hasNext ignored rest) closed [a] b rest) :
    scanSplitAt (tail.reverse ++ [a]) (b :: rest) = false := by
  obtain ⟨x, back, hback, hx⟩ := h.back_plain
  rw [hback]
  apply scanSplitAt_of_joins hx hb
  rw [← hback, h.trim]
  exact hjoins _

def adjacent (a b : Char) : Bool :=
  Kind.word.has ahLetter a && Kind.word.has ahLetter b
  || alphanumeric (Kind.word.category a.toNat) (Kind.word.category b.toNat)
  || connected (Kind.word.category a.toNat) (Kind.word.category b.toNat)

theorem adjacent_iff : adjacent a b ↔
    (Kind.word.has ahLetter a && Kind.word.has ahLetter b)
    ∨ (Kind.word.has numeric a && Kind.word.has numeric b)
    ∨ (Kind.word.has ahLetter a && Kind.word.has numeric b)
    ∨ (Kind.word.has numeric a && Kind.word.has ahLetter b)
    ∨ (Kind.word.has katakana a && Kind.word.has katakana b)
    ∨ (Kind.word.has (ahLetter ||| numeric ||| katakana ||| extendNumLet) a
      && Kind.word.has extendNumLet b)
    ∨ (Kind.word.has extendNumLet a && Kind.word.has (ahLetter ||| numeric ||| katakana) b) := by
  simp only [adjacent, alphanumeric, connected, Bool.or_eq_true, or_assoc]
  rfl

theorem joins_of_adjacent (h : adjacent a b) (opened closed : Bool) : joins opened closed [a] b rest := by
  rw [adjacent_iff] at h
  simp only [joins, Kind.hasNext_cons]
  rcases h with h | h | h | h | h | h | h <;> rw [h] <;> simp only [Bool.true_or, Bool.or_true]

theorem adjacent_passed (h : Accepted rules c d a tail) (hahead : d.ahead = b :: rest)
    (hadjacent : adjacent a b) : c.Passed scanSplitAt newlines (.ok (.again d)) := by
  have hb : Kind.word.has (ahLetter ||| numeric ||| katakana ||| extendNumLet) b := by
    have := adjacent_iff.mp hadjacent
    simp only [Bool.and_eq_true] at this
    rcases this with h | h | h | h | h | h | h <;> exact Kind.has_of_within (by decide) h.2
  apply passed_neutral h.moved (by simp) (joined_self h) hahead (Kind.has_of_within (by decide) hb)
  rw [List.reverse_cons]
  exact not_split_of_joins h (Kind.not_has_of_apart (by decide) hb) (joins_of_adjacent hadjacent _)

theorem not_split_of_pair (h : Accepted rules c d a tail)
    (ht : Kind.word.has (ignored ||| newlines) t = false)
    (hu : ∀ x ∈ u, Kind.word.has ignored x) (hb : Kind.word.has newlines b = false)
    (hjoins : ∀ opened closed : Bool, (u = [] → closed) → joins opened closed [t, a] b rest) :
    scanSplitAt ((t :: u).reverse ++ (tail.reverse ++ [a])) (b :: rest) = false := by
  rw [Kind.has_or, Bool.or_eq_false_iff] at ht
  have htrim := h.trim_pair ht.1 ht.2 hu
  rcases List.eq_nil_or_concat' u with rfl | ⟨v, x, rfl⟩
  · rw [List.reverse_singleton, List.singleton_append] at htrim ⊢
    apply scanSplitAt_of_joins ht.2 hb
    rw [htrim]
    exact hjoins _ _ fun _ => congrArg not ht.1
  · have hx : Kind.word.has newlines x = false := Kind.not_has_of_apart (by decide) (hu x (by simp))
    have hreverse : (t :: (v ++ [x])).reverse ++ (tail.reverse ++ [a])
        = x :: ((t :: v).reverse ++ (tail.reverse ++ [a])) := by simp
    rw [hreverse] at htrim ⊢
    apply scanSplitAt_of_joins hx hb
    rw [htrim]
    exact hjoins _ _ fun hnil => by simp at hnil

/-- What stands on both sides in WB6 and WB7, and in WB11 and WB12, with what may stand between. -/
inductive Links : Mask → Mask → Prop
  | letters : Links ahLetter (midLetter ||| midNumLetQ)
  | numbers : Links numeric (midNum ||| midNumLetQ)

namespace Links

variable {outer middle : Mask}

theorem within (h : Links outer middle) : Kind.word.within outer (ahLetter ||| numeric) := by
  cases h <;> decide

theorem apart (h : Links outer middle) : Kind.word.apart middle (ignored ||| newlines) := by
  cases h <;> decide

theorem joins_front (h : Links outer middle) (ha : Kind.word.has outer a) (ht : Kind.word.has middle t)
    (hnext : Kind.word.hasNext outer (following rest)) (opened closed : Bool) :
    joins opened closed [a] t rest := by
  cases h <;> simp only [joins, Kind.hasNext_cons, ha, ht, hnext, Bool.and_true, Bool.true_or, Bool.or_true]

theorem joins_back (h : Links outer middle) (ha : Kind.word.has outer a) (ht : Kind.word.has middle t)
    (hb : Kind.word.has outer b) (opened closed : Bool) : joins opened closed [t, a] b rest := by
  cases h <;> simp only [joins, Piece.fit_one_cons, Piece.fit_nil, ha, ht, hb, Bool.and_true, Bool.true_or,
    Bool.or_true]

end Links

theorem across_passed {outer middle : Mask} (hlinks : Links outer middle) (h : Accepted rules c d a tail)
    (hde : Moved run d e) (hacross : Across .word ignored outer middle outer a run e.ahead) :
    c.Passed scanSplitAt newlines (.ok (.again e)) := by
  obtain ⟨ha, ⟨t, u, rfl, ht, hu⟩, hnext⟩ := hacross
  obtain ⟨b, rest, hahead, hb⟩ := Kind.hasNext_iff.mp hnext
  have hb' : Kind.word.has (ahLetter ||| numeric) b := Kind.has_of_within hlinks.within hb
  have ht' := Kind.not_has_of_apart hlinks.apart ht
  have htn : Kind.word.has newlines t = false := by
    rw [Kind.has_or, Bool.or_eq_false_iff] at ht'
    exact ht'.2
  have hfollowing : Kind.word.hasNext outer (following (u ++ e.ahead)) := by
    rw [hahead, following_run hu (Kind.not_has_of_apart (by decide) hb')]
    exact hb
  have hheld : Held scanSplitAt (tail.reverse ++ [a]) (t :: u) e.ahead :=
    ⟨not_split_of_joins h htn fun closed => hlinks.joins_front ha ht hfollowing _ _, held_of_ignored htn hu⟩
  apply passed_neutral (h.moved.trans hde) (by simp) (joined_append h hheld) hahead
    (Kind.has_of_within (by decide) hb')
  rw [Accepted.reverse_eq]
  exact not_split_of_pair h ht' hu (Kind.not_has_of_apart (by decide) hb') fun opened closed _ =>
    hlinks.joins_back ha ht hb opened closed

theorem quote_passed (h : Accepted rules c d a tail) (hde : Moved run d e)
    (hquote : Kind.word.has hebrewLetter a ∧ (∃ t, run = [t] ∧ Kind.word.has doubleQuote t)
      ∧ Kind.word.hasNext hebrewLetter e.ahead) : c.Passed scanSplitAt newlines (.ok (.again e)) := by
  obtain ⟨ha, ⟨t, rfl, ht⟩, hnext⟩ := hquote
  obtain ⟨b, rest, hahead, hb⟩ := Kind.hasNext_iff.mp hnext
  have htn : Kind.word.has newlines t = false := Kind.not_has_of_apart (by decide) ht
  have hbi : Kind.word.has ignored b = false := Kind.not_has_of_apart (by decide) hb
  have hfollowing : following (b :: rest) = b :: rest := following_run (List.forall_mem_nil _) hbi
  have hheld : Held scanSplitAt (tail.reverse ++ [a]) [t] e.ahead := by
    refine ⟨not_split_of_joins h htn fun closed => ?_, trivial⟩
    rw [List.nil_append, hahead, joins_eq, Kind.hasNext_cons, hbi, quoteOpens, hfollowing,
      Kind.hasNext_cons, Kind.hasNext_cons, ha, ht, hb]
    simp
  apply passed_neutral (h.moved.trans hde) (by simp) (joined_append h hheld) hahead
    (Kind.has_of_within (by decide) hb)
  rw [Accepted.reverse_eq]
  apply not_split_of_pair h (Kind.not_has_of_apart (by decide) ht) (List.forall_mem_nil _)
    (Kind.not_has_of_apart (by decide) hb)
  intro opened closed hclosed
  rw [joins_eq, hclosed rfl, quoteCloses, Piece.fit_one_cons, Piece.fit_one_cons, ht, ha, hb]
  simp

theorem singleQuote_passed (h : Accepted rules c d a tail)
    (hletter : ∀ run rest, d.ahead = run ++ rest →
      ¬Across .word ignored ahLetter (midLetter ||| midNumLetQ) ahLetter a run rest)
    (hfound : Kind.word.has hebrewLetter a && Kind.word.hasNext singleQuote d.ahead) :
    c.Passed scanSplitAt newlines (.ok (.again d)) := by
  obtain ⟨ha, hnext⟩ := Bool.and_eq_true_iff.mp hfound
  obtain ⟨b, rest, hahead, hb⟩ := Kind.hasNext_iff.mp hnext
  have hbn : Kind.word.has newlines b = false := Kind.not_has_of_apart (by decide) hb
  apply Passed.again_before h.moved (by simp) (joined_self h) hahead _ hbn
  · rw [List.reverse_cons]
    apply not_split_of_joins h hbn
    intro closed
    simp only [joins, Kind.hasNext_cons, ha, hb, Bool.and_true, Bool.true_or, Bool.or_true]
  · apply Settled.restarts
    rw [List.reverse_cons]
    have hapart : Kind.word.has (numeric ||| regionalIndicator) a = false :=
      Kind.not_has_of_apart (by decide) ha
    rw [Kind.has_or, Bool.or_eq_false_iff] at hapart
    constructor
    case seen => exact RuleSet.ignores_of_not_has (Kind.not_has_of_apart (by decide) hb)
    case letter =>
      intro t u x v heq ht hu hx
      rw [h.trim, Kind.hasNext_cons, Bool.eq_false_iff]
      exact fun ha => hletter (t :: u) (x :: v) (hahead.trans heq) ⟨ha, ⟨t, u, rfl, ht, hu⟩, hx⟩
    case number =>
      intro t u x v heq ht hu hx
      rw [h.trim, Kind.hasNext_cons, hapart.1]
    case quote =>
      intro t x v heq ht hx
      obtain ⟨rfl, -⟩ := List.cons.inj heq
      rw [Kind.not_has_of_apart (by decide) hb] at ht
      exact Bool.noConfusion ht
    case indicator =>
      intro t v heq ht
      obtain ⟨rfl, -⟩ := List.cons.inj heq
      rw [Kind.not_has_of_apart (by decide) hb] at ht
      exact Bool.noConfusion ht

theorem indicator_passed (h : Accepted rules c d a tail)
    (hfound : Kind.word.has regionalIndicator a && Kind.word.hasNext regionalIndicator d.ahead) :
    c.Passed scanSplitAt newlines (do return .stop (← (← d.advance).absorb ignored .empty)) := by
  obtain ⟨ha, hnext⟩ := Bool.and_eq_true_iff.mp hfound
  obtain ⟨t, rest, hahead, ht⟩ := Kind.hasNext_iff.mp hnext
  obtain ⟨e, he, hde, hrest, -⟩ := h.ready.advance_spec hahead
  have her := hde.ready h.ready
  obtain ⟨f, hf, hef, hend, -⟩ := absorb_all_spec ignored her
  rw [he, ok_bind, hf]
  have htn : Kind.word.has newlines t = false := Kind.not_has_of_apart (by decide) ht
  have hu : ∀ x ∈ e.ahead.takeWhile (Kind.word.has ignored), Kind.word.has ignored x :=
    fun x => Kind.has_of_mem_takeWhile
  have hcf : Moved (a :: tail ++ t :: e.ahead.takeWhile (Kind.word.has ignored)) c f :=
    h.moved.trans (hde.trans hef)
  have hheld : Held scanSplitAt (tail.reverse ++ [a])
      (t :: e.ahead.takeWhile (Kind.word.has ignored)) f.ahead := by
    refine ⟨not_split_of_joins h htn fun closed => ?_, held_of_ignored htn hu⟩
    simp [joins, Piece.oddRun, ha, ht]
  apply Passed.stop_before hcf (by simp) (joined_append h hheld)
  intro b more hmore
  have hb := Kind.hasNext_dropWhile .word ignored e.ahead
  rw [← hend, hmore, Kind.hasNext_cons] at hb
  have hpaired : paired [t, a] := by simp [paired_eq, Piece.oddRun, ha, ht]
  obtain ⟨x, back, hback, hx⟩ := exists_last t (e.ahead.takeWhile (Kind.word.has ignored))
    (tail.reverse ++ [a])
  have hapart : Kind.word.has (newlines ||| wSegSpace) x = false := by
    rcases List.mem_cons.mp hx with rfl | hx
    · exact Kind.not_has_of_apart (by decide) ht
    · exact Kind.not_has_of_apart (by decide) (hu x hx)
  rw [Kind.has_or, Bool.or_eq_false_iff] at hapart
  rw [Accepted.reverse_eq]
  rw [← h.trim_pair (Kind.not_has_of_apart (by decide) ht) htn hu] at hpaired
  rw [hback] at hpaired ⊢
  exact scanSplitAt_of_paired hapart.1 hapart.2 hb hpaired

theorem not_joined_of_refused {outer middle : Mask}
    (h : ∀ run more, b :: rest = run ++ more → ¬Across .word ignored outer middle outer a run more) :
    (Kind.word.has outer a
      && (Kind.word.has middle b && Kind.word.hasNext outer (following rest))) = false := by
  rw [Bool.eq_false_iff]
  intro hjoined
  simp only [Bool.and_eq_true] at hjoined
  apply h (b :: rest.takeWhile (Kind.word.has ignored)) (following rest)
  · rw [List.cons_append]
    exact congrArg (b :: ·) List.takeWhile_append_dropWhile.symm
  · exact ⟨hjoined.1, ⟨b, _, rfl, hjoined.2.1, fun x => Kind.has_of_mem_takeWhile⟩, hjoined.2.2⟩

theorem not_joins_of_refused (hadjacent : adjacent a b = false)
    (hletter : ∀ run more, b :: rest = run ++ more →
      ¬Across .word ignored ahLetter (midLetter ||| midNumLetQ) ahLetter a run more)
    (hsingle : (Kind.word.has hebrewLetter a && Kind.word.has singleQuote b) = false)
    (hquote : ∀ run more, b :: rest = run ++ more → ¬(Kind.word.has hebrewLetter a
      ∧ (∃ t, run = [t] ∧ Kind.word.has doubleQuote t) ∧ Kind.word.hasNext hebrewLetter more))
    (hnumber : ∀ run more, b :: rest = run ++ more →
      ¬Across .word ignored numeric (midNum ||| midNumLetQ) numeric a run more)
    (hindicator : (Kind.word.has regionalIndicator a && Kind.word.has regionalIndicator b) = false)
    (closed : Bool) : joins (!Kind.word.hasNext ignored rest) closed [a] b rest = false := by
  have hopens : (!Kind.word.hasNext ignored rest && quoteOpens [a] b rest) = false := by
    rw [Bool.eq_false_iff]
    intro hopens
    simp only [quoteOpens, Kind.hasNext_cons, Bool.and_eq_true, Bool.not_eq_true'] at hopens
    obtain ⟨hplain, ha, hb, hnext⟩ := hopens
    have hfollowing : following rest = rest := Kind.dropWhile_of_not_hasNext hplain
    exact hquote [b] rest rfl ⟨ha, ⟨b, rfl, hb⟩, hfollowing ▸ hnext⟩
  have hcloses : quoteCloses [a] b = false := by simp [quoteCloses]
  have hmiddle := not_joined_of_refused hletter
  have hmiddle' := not_joined_of_refused hnumber
  rw [← Bool.not_eq_true, adjacent_iff] at hadjacent
  simp only [not_or, Bool.not_eq_true] at hadjacent
  obtain ⟨h₁, h₂, h₃, h₄, h₅, h₆, h₇⟩ := hadjacent
  rw [joins_eq, hopens, hcloses, Bool.and_false, Bool.or_false, Bool.or_false]
  simp only [joins, Kind.hasNext_cons, Piece.fit_one_cons, Piece.fit_one_nil, Piece.oddRun, Bool.not_false,
    Bool.and_true, Bool.and_false, Bool.false_and, Bool.or_false, hmiddle, hmiddle', hsingle, hindicator,
    h₁, h₂, h₃, h₄, h₅, h₆, h₇]

theorem connectors_passed (h : Accepted rules c d a tail)
    (hzwj : (Kind.word.hasNext zwj (tail.reverse ++ [a])
      && Kind.word.hasNext extendedPictographic d.ahead) = false)
    (hspace : (Kind.word.hasNext wSegSpace (tail.reverse ++ [a])
      && Kind.word.hasNext wSegSpace d.ahead) = false)
    (hletters : (Kind.word.has ahLetter a && Kind.word.hasNext ahLetter d.ahead) = false)
    (hletter : ∀ run rest, d.ahead = run ++ rest →
      ¬Across .word ignored ahLetter (midLetter ||| midNumLetQ) ahLetter a run rest)
    (hsingle : (Kind.word.has hebrewLetter a && Kind.word.hasNext singleQuote d.ahead) = false)
    (hquote : ∀ run rest, d.ahead = run ++ rest → ¬(Kind.word.has hebrewLetter a
      ∧ (∃ t, run = [t] ∧ Kind.word.has doubleQuote t) ∧ Kind.word.hasNext hebrewLetter rest))
    (halphanumeric : alphanumeric d.current d.lookahead = false)
    (hnumber : ∀ run rest, d.ahead = run ++ rest →
      ¬Across .word ignored numeric (midNum ||| midNumLetQ) numeric a run rest) :
    c.Passed scanSplitAt newlines (connectors d) := by
  rw [connectors]
  split
  case isTrue hconnected =>
    obtain ⟨b, rest, hahead, hfound⟩ := h.exists_next hconnected (by simp [connected])
    exact adjacent_passed h hahead (by rw [adjacent, hfound, Bool.or_true])
  case isFalse hconnected =>
  rw [h.meets, h.ready.meets]
  split
  case isTrue hfound => exact indicator_passed h hfound
  case isFalse hindicator =>
    apply Passed.stop_before h.moved (by simp) (joined_self h)
    intro b rest hahead
    rw [hahead] at hzwj hspace hletters hletter hsingle hquote hnumber hindicator
    rw [h.current, h.next_eq hahead] at halphanumeric hconnected
    have hadjacent : adjacent a b = false := by
      rw [Kind.hasNext_cons] at hletters
      rw [adjacent, hletters, halphanumeric, Bool.eq_false_iff.mpr hconnected]
      rfl
    have hjoins := not_joins_of_refused hadjacent hletter hsingle hquote hnumber
      (Bool.eq_false_iff.mpr hindicator)
    have hb : Kind.word.has ignored b = false := by
      have hends := h.ends
      rwa [hahead, Kind.hasNext_cons] at hends
    obtain ⟨x, back, hback, hx⟩ := h.back_plain
    rw [hback, Kind.hasNext_cons, Kind.hasNext_cons] at hzwj hspace
    rw [List.reverse_cons, hback, scanSplitAt_plain hx, ← hback, h.trim, hjoins, hzwj, hspace, hb]
    simp

theorem letters_passed (h : Accepted rules c d a tail)
    (hzwj : (Kind.word.hasNext zwj (tail.reverse ++ [a])
      && Kind.word.hasNext extendedPictographic d.ahead) = false)
    (hspace : (Kind.word.hasNext wSegSpace (tail.reverse ++ [a])
      && Kind.word.hasNext wSegSpace d.ahead) = false) :
    c.Passed scanSplitAt newlines (letters d) := by
  rw [letters, h.meets, h.ready.meets]
  split
  case isTrue hfound =>
    obtain ⟨ha, hnext⟩ := Bool.and_eq_true_iff.mp hfound
    obtain ⟨b, rest, hahead, hb⟩ := Kind.hasNext_iff.mp hnext
    exact adjacent_passed h hahead (by rw [adjacent, ha, hb]; rfl)
  case isFalse hletters =>
  apply Passed.orElse (across_tried (by decide) h.ready h.saved h.current)
  case hjoined => exact fun run e => across_passed .letters h
  intro hletter
  rw [quotes, h.meets, h.ready.meets]
  split
  case isTrue hsingle => exact singleQuote_passed h hletter hsingle
  case isFalse hsingle =>
  apply Passed.orElse (acrossQuote_tried h)
  case hjoined => exact fun run e => quote_passed h
  intro hquote
  rw [numbers]
  split
  case isTrue hnumeric =>
    obtain ⟨b, rest, hahead, hfound⟩ := h.exists_next hnumeric (by simp [alphanumeric])
    exact adjacent_passed h hahead (by rw [adjacent, hfound, Bool.or_true, Bool.true_or])
  case isFalse hnumeric =>
  apply Passed.orElse (across_tried (by decide) h.ready h.saved h.current)
  case hjoined => exact fun run e => across_passed .numbers h
  intro hnumber
  exact connectors_passed h hzwj hspace (Bool.eq_false_iff.mpr hletters) hletter
    (Bool.eq_false_iff.mpr hsingle) hquote (Bool.eq_false_iff.mpr hnumeric) hnumber

theorem joiner_passed (ha : Kind.word.has newlines a = false) (hcd : Moved (a :: run) c d)
    (hrun : ∀ x ∈ run, Kind.word.has ignored x) (hz : Kind.word.hasNext zwj (run.reverse ++ [a]))
    (hnext : Kind.word.hasNext extendedPictographic d.ahead) :
    c.Passed scanSplitAt newlines (.ok (.again d)) := by
  obtain ⟨b, rest, hahead, hb⟩ := Kind.hasNext_iff.mp hnext
  apply passed_neutral hcd (by simp) (Held.joined (held_of_ignored ha hrun)) hahead
    (Kind.has_of_within (by decide) hb)
  have htrim : rules.trim (run.reverse ++ [a]) = [a] := by
    rw [RuleSet.trim_ignored (fun x hx => hrun x (List.mem_reverse.mp hx)) ha, RuleSet.trim_singleton]
  have hpaired : paired [a] = false := by simp [paired]
  obtain ⟨z, back, hback, hz⟩ := Kind.hasNext_iff.mp hz
  rw [List.reverse_cons, hback]
  apply scanSplitAt_of_pictograph hz hb
  rw [← hback, htrim, hpaired]

theorem not_space_of_ignored (h : ∀ x ∈ run, Kind.word.has ignored x) :
    Kind.word.hasNext wSegSpace run = false := by
  cases run with
  | nil => rfl
  | cons x run => exact Kind.not_has_of_apart (by decide) (h x (.head _))

theorem ends : Kind.word.Ends scanSplitAt cr lf newlines :=
  ⟨scanSplitAt_of_crlf, scanSplitAt_of_newline, by decide, by decide⟩

theorem spaces_passed (hcd : Moved [a] c d)
    (hspaces : Kind.word.has wSegSpace a && Kind.word.hasNext wSegSpace d.ahead) :
    c.Passed scanSplitAt newlines (.ok (.again d)) := by
  obtain ⟨ha, hnext⟩ := Bool.and_eq_true_iff.mp hspaces
  obtain ⟨b, rest, hahead, hb⟩ := Kind.hasNext_iff.mp hnext
  exact passed_neutral hcd (by simp) .singleton hahead (Kind.has_of_within (by decide) hb)
    (scanSplitAt_of_spaces ha hb)

theorem extended_passed (hc : c.Ready) (hs : c.saved = none) (hcd : Moved [a] c d)
    (hcur : d.current = Kind.word.category a.toNat) (hplain : Kind.word.has newlines a = false)
    (hjoiner : ¬(Kind.word.has zwj a && Kind.word.hasNext extendedPictographic d.ahead))
    (hspaces : ¬(Kind.word.has wSegSpace a && Kind.word.hasNext wSegSpace d.ahead)) :
    c.Passed scanSplitAt newlines (extenders d >>= (·.orElse letters)) := by
  rw [Bool.not_eq_true] at hjoiner hspaces
  rcases extenders_spec (hcd.ready hc) with ⟨e, run, he, hde, hrun, hz, hnext⟩ | ⟨e, he, hde, hecur, hlast⟩
  · rw [he, ok_bind]
    have hce : Moved (a :: run) c e := hcd.trans hde
    have hne : run.reverse ≠ [] := fun h => by simp [h] at hz
    exact joiner_passed hplain hce hrun (by rw [Kind.hasNext_append hne, hz]) hnext
  rw [he, ok_bind]
  have hce : Moved (a :: d.ahead.takeWhile (Kind.word.has ignored)) c e := hcd.trans hde
  have h : Accepted rules c e a (d.ahead.takeWhile (Kind.word.has ignored)) := {
    moved := hce
    ready := hce.ready hc
    saved := hce.saved_eq.trans hs
    current := hecur.trans hcur
    plain := hplain
    ignored := fun x => Kind.has_of_mem_takeWhile
    ends := by
      rw [hde.takeWhile_ahead]
      exact Kind.hasNext_dropWhile .word ignored d.ahead }
  by_cases hnil : d.ahead.takeWhile (Kind.word.has ignored) = []
  · rw [hnil] at hde h
    rw [hde.ahead_eq] at hjoiner hspaces
    exact letters_passed h hjoiner hspaces
  · -- the last extender is in front of the position, and no extender is a space
    have hne : (d.ahead.takeWhile (Kind.word.has ignored)).reverse ≠ [] := by simpa using hnil
    apply letters_passed h
    · rwa [Kind.hasNext_append hne]
    · rw [Kind.hasNext_append hne, not_space_of_ignored, Bool.false_and]
      exact fun x hx => Kind.has_of_mem_takeWhile (List.mem_reverse.mp hx)

theorem passed (hc : c.Ready) (hs : c.saved = none) (ha : c.ahead ≠ [])
    (hb : c.position = c.offset ∨ Kind.word.hasNext newlines c.ahead = false) :
    c.Passed scanSplitAt newlines (pass c) := by
  obtain ⟨a, rest, hahead⟩ := List.exists_cons_of_ne_nil ha
  obtain ⟨d, hd, hcd, -, hcur, haccepted, -⟩ := hc.advance_spec hahead
  have hmeets := meets_of_current hcur
  have hdr := hcd.ready hc
  have hds : d.saved = none := hcd.saved_eq.trans hs
  have hfirst : Kind.word.has newlines a → d.hasAccepted = false :=
    fun hnewline => not_hasAccepted hnewline hahead hb haccepted
  rw [pass, hd, ok_bind, hmeets, hmeets, hmeets, hdr.meets, hdr.meets]
  split
  case isTrue hcrlf => exact .stop_pair ends hc hcd hcrlf
  case isFalse hcrlf =>
  split
  case isTrue hnewline =>
    rw [hfirst hnewline, if_neg (by simp)]
    exact .stop_single ends hcd hnewline hcrlf
  case isFalse hplain =>
  rw [Bool.not_eq_true] at hplain
  split
  case isTrue hfound =>
    obtain ⟨hz, hnext⟩ := Bool.and_eq_true_iff.mp hfound
    exact joiner_passed hplain hcd (List.forall_mem_nil _) hz hnext
  case isFalse hjoiner =>
  apply Passed.orElse (pictograph_tried hdr hds)
  case hjoined =>
    rintro run e hde ⟨-, ⟨t, rfl, ht⟩, hnext⟩
    have hce : Moved [a, t] c e := hcd.trans hde
    exact joiner_passed hplain hce (by simp [ignored, ht]) ht hnext
  intro hpictograph
  rw [hmeets, hdr.meets]
  split
  case isTrue hspaces => exact spaces_passed hcd hspaces
  case isFalse hspaces => exact extended_passed hc hs hcd hcur hplain hjoiner hspaces

theorem delimits : Kind.word.Delimits scanSplitAt newlines where
  passed _ hc hs ha hb := passed hc hs ha hb
  restarts h := (settled_of_split h).restarts

/-- The rules join at a boundary found exactly where the scan misses them. -/
theorem joined_boundaries_are_missed (t : Text) :
    ∃ positions, (∀ others, t.Walk .word 0 others ↔ others = positions)
      ∧ t.breaks .word 0 = .ok positions
      ∧ ∀ before after, t.chars = before ++ after → before ≠ [] → after ≠ [] →
        (t.units.length before ∈ positions ∧ rules.splits before after = false
          ↔ missed before after) := by
  obtain ⟨positions, hwalk, hbreaks, hmem⟩ := delimits.inner_boundaries t
  refine ⟨positions, hwalk, hbreaks, fun before after h hbefore hafter => ?_⟩
  rw [hmem before after h hbefore hafter, scanSplitAt, RuleSet.splits, missed, Bool.or_eq_true]
  constructor
  · rintro ⟨hsplit | hmissed, hjoined⟩
    · exact absurd hsplit (by rw [hjoined]; decide)
    · exact hmissed
  · intro hmissed
    exact ⟨.inr hmissed, splitAt_of_missedAt hmissed⟩

theorem joined_boundary_behind_extended_quote :
    (Text.mk .codePoints ['א', '"', '\u0308', 'א']).breaks .word 0 = .ok [1, 3, 4]
      ∧ rules.splits ['א'] ['"', '\u0308', 'א'] = false
      ∧ rules.splits ['א', '"', '\u0308'] ['א'] = false := by
  decide +kernel

/-- Wherever the rules split a text inside, there is a boundary. -/
theorem rule_splits_are_boundaries (t : Text) :
    ∃ positions, (∀ others, t.Walk .word 0 others ↔ others = positions)
      ∧ t.breaks .word 0 = .ok positions
      ∧ ∀ before after, t.chars = before ++ after → before ≠ [] → after ≠ [] →
        rules.splits before after → t.units.length before ∈ positions := by
  obtain ⟨positions, hwalk, hbreaks, hmem⟩ := delimits.inner_boundaries t
  refine ⟨positions, hwalk, hbreaks, fun before after h hbefore hafter hsplit => ?_⟩
  rw [hmem before after h hbefore hafter, scanSplitAt, Bool.or_eq_true]
  exact .inl hsplit

end TextBoundary.Break.Word
