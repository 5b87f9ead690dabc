import TextBoundary.Proofs.GraphemeRules
import TextBoundary.Proofs.Walk

namespace TextBoundary.Break.Grapheme

open Cursor GraphemeBreak

variable {units : Units} {c d : Scanner units} {a b : Char} {back run rest : List Char}

theorem skipJoiners_spec (rounds : Nat) (linked : Bool) (h : c.Ready) (hr : c.ahead.length ≤ rounds) :
    ∃ d, skipJoiners rounds linked c
        = .ok (d, linked || (c.ahead.takeWhile (Kind.grapheme.has conjunctJoiner)).any
            (Kind.grapheme.has conjunctLinker))
      ∧ Moved (c.ahead.takeWhile (Kind.grapheme.has conjunctJoiner)) c d := by
  induction rounds generalizing c linked with
  | zero =>
    have hnil : c.ahead = [] := List.eq_nil_of_length_eq_zero (Nat.le_zero.mp hr)
    rw [skipJoiners, h.meets, hnil]
    exact ⟨c, by simp, .refl h⟩
  | succ rounds ih =>
    rw [skipJoiners, h.meets, h.meets]
    cases hc : c.ahead with
    | nil => exact ⟨c, by simp, .refl h⟩
    | cons b rest =>
      cases hb : Kind.grapheme.has conjunctJoiner b with
      | false => exact ⟨c, by simp [hb], by simpa [hb] using Moved.refl h⟩
      | true =>
        obtain ⟨d, hd, hcd, hrest, -⟩ := h.advance_spec hc
        obtain ⟨e, he, hde⟩ := ih (linked || Kind.grapheme.has conjunctLinker b) (hcd.ready h)
          (by simp_all)
        rw [hrest] at he hde
        refine ⟨e, by simp [hb, hd, he, Bool.or_assoc], ?_⟩
        rw [List.takeWhile_cons, hb, if_pos rfl]
        exact hcd.trans hde

def Conjoins (a : Char) (run rest : List Char) : Prop :=
  Kind.grapheme.has conjunctConsonant a ∧ (∀ x ∈ run, Kind.grapheme.has conjunctJoiner x)
    ∧ (∃ x ∈ run, Kind.grapheme.has conjunctLinker x) ∧ Kind.grapheme.hasNext conjunctConsonant rest

theorem conjunct_tried (hc : c.Ready) (hs : c.saved = none)
    (hcur : c.current = Kind.grapheme.category a.toNat) : Tried (Conjoins a) c (conjunct c) := by
  rw [conjunct, meets_of_current hcur, hc.meets]
  split
  case isFalse h =>
    apply Tried.refused
    rintro run rest heq ⟨ha, hjoiners, ⟨x, hx, -⟩, -⟩
    obtain ⟨y, run, rfl⟩ := List.exists_cons_of_ne_nil (List.ne_nil_of_mem hx)
    exact h (by simp [ha, heq, hjoiners y])
  case isTrue h =>
    rw [Bool.and_eq_true] at h
    obtain ⟨d, hd, hcd⟩ := skipJoiners_spec c.begun.remaining false hc.begun
      hc.begun.length_le_remaining
    have hdr := hcd.ready hc.begun
    have hdrop : d.ahead = c.ahead.dropWhile (Kind.grapheme.has conjunctJoiner) :=
      hcd.takeWhile_ahead
    apply Tried.attempt _ hs (by rw [hd]; rfl) hcd
    · intro hfound
      rw [Bool.false_or, Bool.and_eq_true, List.any_eq_true, hdr.meets] at hfound
      exact ⟨h.1, fun x => Kind.has_of_mem_takeWhile, hfound⟩
    · rintro hlost run rest heq ⟨ha, hjoiners, hlinked, hrest⟩
      have hend : Kind.grapheme.hasNext conjunctJoiner rest = false :=
        Kind.not_hasNext_of_apart (by decide) hrest
      rw [hdr.meets, hdrop, begun_ahead, heq, Kind.takeWhile_run hjoiners hend,
        Kind.dropWhile_run hjoiners hend, hrest, Bool.false_or, Bool.and_true,
        List.any_eq_true.mpr hlinked] at hlost
      exact Bool.noConfusion hlost

def Pictures (a : Char) (run rest : List Char) : Prop :=
  Kind.grapheme.has extendedPictographic a
    ∧ (∃ u z, run = u ++ [z] ∧ (∀ x ∈ u, Kind.grapheme.has extend x) ∧ Kind.grapheme.has zwj z)
    ∧ Kind.grapheme.hasNext extendedPictographic rest

theorem pictographs_tried (hc : c.Ready) (hs : c.saved = none)
    (hcur : c.current = Kind.grapheme.category a.toNat) : Tried (Pictures a) c (pictographs c) := by
  rw [pictographs, meets_of_current hcur, hc.meets]
  split
  case isFalse h =>
    apply Tried.refused
    rintro run rest heq ⟨ha, ⟨u, z, rfl, hu, hz⟩, -⟩
    apply h
    cases u with
    | nil => simp [ha, heq, hz]
    | cons x u => simp [ha, heq, hu x (.head _)]
  case isTrue h =>
    rw [Bool.and_eq_true] at h
    obtain ⟨d, hd, hcd⟩ := skipWhile_spec extend c.begun.remaining hc.begun
      hc.begun.length_le_remaining
    have hdr := hcd.ready hc.begun
    have hdrop : d.ahead = c.ahead.dropWhile (Kind.grapheme.has extend) := hcd.takeWhile_ahead
    have hsplit : ∀ {u v : List Char} {z : Char}, c.ahead = u ++ z :: v →
        (∀ x ∈ u, Kind.grapheme.has extend x) → Kind.grapheme.has zwj z → d.ahead = z :: v := by
      intro u v z heq hu hz
      rw [hdrop, heq]
      exact Kind.dropWhile_run hu (Kind.not_has_of_apart (by decide) hz)
    cases hz : d.lookahead.meets zwj with
    | false =>
      apply Tried.attempt false hs (by rw [hd, ok_bind, hz]; rfl) hcd
      · exact fun h => Bool.noConfusion h
      · rintro - run rest heq ⟨-, ⟨u, z, rfl, hu, hz'⟩, -⟩
        rw [hdr.meets, hsplit (by simpa using heq) hu hz', Kind.hasNext_cons, hz'] at hz
        exact Bool.noConfusion hz
    | true =>
      rw [hdr.meets, Kind.hasNext_iff] at hz
      obtain ⟨z, v, hahead, hz⟩ := hz
      obtain ⟨e, he, hde, hrest, -⟩ := hdr.advance_spec hahead
      have her := hde.ready hdr
      apply Tried.attempt _ hs _ (hcd.trans hde)
      rotate_right
      · rw [hd, ok_bind, hdr.meets, hahead, Kind.hasNext_cons, hz, if_pos rfl, he]
        rfl
      · intro hfound
        rw [her.meets] at hfound
        exact ⟨h.1, ⟨_, z, rfl, fun x => Kind.has_of_mem_takeWhile, hz⟩, hfound⟩
      · rintro hlost run rest heq ⟨-, ⟨u, y, rfl, hu, hy⟩, hnext⟩
        have := hsplit (by simpa using heq) hu hy
        rw [hahead] at this
        obtain ⟨rfl, rfl⟩ := List.cons.inj this
        rw [her.meets, hrest, hnext] at hlost
        exact Bool.noConfusion hlost

theorem held_of_extends (ha : Kind.grapheme.has controls a = false)
    (hrun : ∀ x ∈ run, Kind.grapheme.has (extend ||| zwj) x) :
    Held rules.splitAt (a :: back) run rest := by
  apply Held.of_mask _ (by decide) ha hrun
  intro a b back ahead ha hb
  apply splitAt_of_attached ha (not_control_of_extends hb)
  rw [attached, hb]
  simp

theorem attached_eq : attached a b
    = (syllable (Kind.grapheme.category a.toNat) (Kind.grapheme.category b.toNat)
    || Kind.grapheme.has (extend ||| zwj) b || Kind.grapheme.has spacingMark b
    || Kind.grapheme.has prepend a) := rfl

theorem settled_of_refused (hconjunct : ∀ u v, rest = u ++ v → ¬Conjoins a u v)
    (hpictographs : ∀ u v, rest = u ++ v → ¬Pictures a u v)
    (hindicator : Kind.grapheme.hasNext regionalIndicator rest = false) : Settled [a] rest := by
  constructor
  case conjunct =>
    rintro u v c rfl - hu hc
    refine ⟨conjunctBack_singleton, fun hlinked => ?_⟩
    rw [consonantBack_singleton, Bool.eq_false_iff]
    exact fun ha => hconjunct u _ rfl ⟨ha, hu, hlinked, hc⟩
  case pictograph =>
    rintro u v z c rfl hu hz hc
    rw [emojiBack_singleton, Bool.eq_false_iff]
    exact fun ha => hpictographs (u ++ [z]) (c :: v) (by simp) ⟨ha, ⟨u, z, rfl, hu, hz⟩, hc⟩
  case indicator =>
    rintro v c rfl hc
    rw [Kind.hasNext_cons, hc] at hindicator
    exact Bool.noConfusion hindicator

theorem pair_passed (hc : c.Ready) (hcd : Moved [a] c d) (hahead : d.ahead = b :: rest)
    (ha : Kind.grapheme.has regionalIndicator a) (hb : Kind.grapheme.has regionalIndicator b) :
    c.Passed rules.splitAt controls (do
      let e ← d.advance
      if e.lookahead.meets (extend ||| zwj ||| conjunctExtend ||| spacingMark) then return .again e
      else return .stop e) := by
  have hdr := hcd.ready hc
  obtain ⟨e, he, hde, -⟩ := hdr.advance_spec hahead
  have hce : Moved [a, b] c e := hcd.trans hde
  have hpair : rules.splitAt [a] (b :: e.ahead) = false :=
    splitAt_of_indicator (by rw [indicatorBack_singleton, ha]) hb
  have hj : Joined rules.splitAt [] [a, b] e.ahead :=
    Held.joined ⟨hpair, trivial⟩
  have hpairs : indicatorBack [b, a] = false := by
    rw [indicatorBack_cons, indicatorBack_singleton, ha, Bool.not_true, Bool.and_false]
  rw [he, ok_bind, (hde.ready hdr).meets]
  split
  case isTrue h =>
    obtain ⟨x, more, hmore, hx⟩ := Kind.hasNext_iff.mp h
    have hxc : Kind.grapheme.has controls x = false := Kind.not_has_of_apart (by decide) hx
    have hx : Kind.grapheme.has (extend ||| zwj ||| spacingMark) x := Kind.has_of_within (by decide) hx
    apply Passed.again_before hce (by simp) hj hmore
      (Settled.of_inert (Kind.not_has_of_apart (by decide) hb) hpairs).restarts hxc
    apply splitAt_of_attached (Kind.not_has_of_apart (by decide) hb) hxc
    simp only [Kind.has_or, Bool.or_eq_true] at hx
    rcases hx with (hx | hx) | hx <;> simp [attached, hx]
  case isFalse h =>
    apply Passed.stop_before hce (by simp) hj
    intro x more hmore
    rw [hmore, Kind.hasNext_cons] at h
    apply splitAt_of_pairs hb hpairs
    simp_all

theorem remaining_passed (hc : c.Ready) (hcd : Moved [a] c d)
    (hcur : d.current = Kind.grapheme.category a.toNat) (ha : Kind.grapheme.has controls a = false)
    (hlocal : ∀ b rest, d.ahead = b :: rest → attached a b → Kind.grapheme.has (extend ||| zwj) b)
    (hconjunct : ∀ run rest, d.ahead = run ++ rest → ¬Conjoins a run rest)
    (hpictographs : ∀ run rest, d.ahead = run ++ rest → ¬Pictures a run rest) :
    c.Passed rules.splitAt controls (remaining d) := by
  have hdr := hcd.ready hc
  rw [remaining, hdr.meets, hdr.meets, meets_of_current hcur]
  split
  case isTrue h =>
    have hri : Kind.grapheme.hasNext regionalIndicator d.ahead = false :=
      Kind.not_hasNext_of_apart (by decide) h
    have hsettled := settled_of_refused hconjunct hpictographs hri
    obtain ⟨b, rest, hahead, hb⟩ := Kind.hasNext_iff.mp h
    apply Passed.again_before hcd (by simp) .singleton hahead (hahead ▸ hsettled).restarts (not_control_of_extends hb)
    apply splitAt_of_attached ha (not_control_of_extends hb)
    rw [attached, hb]
    simp
  case isFalse hextends =>
    split
    case isTrue h =>
      obtain ⟨hri, hnext⟩ := Bool.and_eq_true_iff.mp h
      obtain ⟨b, rest, hahead, hb⟩ := Kind.hasNext_iff.mp hnext
      exact pair_passed hc hcd hahead hri hb
    case isFalse hri =>
      apply Passed.stop_before hcd (by simp) .singleton
      intro b rest hahead
      rw [hahead, Kind.hasNext_cons] at hextends hri
      have hattached : attached a b = false :=
        Bool.eq_false_iff.mpr fun h => hextends (hlocal b rest hahead h)
      have hcr : Kind.grapheme.has cr a = false := Kind.not_has_of_within (by decide) ha
      rw [List.reverse_singleton, splitAt_singleton, hattached, Bool.eq_false_iff.mpr hri, hcr]
      simp

theorem conjoined_passed {e : Scanner units} (hcd : Moved [a] c d) (hde : Moved run d e)
    (h : Conjoins a run e.ahead) : c.Passed rules.splitAt controls (.ok (.again e)) := by
  obtain ⟨ha, hrun, hlinked, hnext⟩ := h
  obtain ⟨b, more, hmore, hb⟩ := Kind.hasNext_iff.mp hnext
  have hbc : Kind.grapheme.has controls b = false := Kind.not_has_of_apart (by decide) hb
  have hce : Moved (a :: run) c e := hcd.trans hde
  apply Passed.again_before hce (by simp) _ hmore
    (Settled.of_neutral (Kind.not_has_of_apart (by decide) hb)).restarts hbc
  · apply splitAt_of_conjunct _ hb
    rw [List.reverse_cons, conjunctBack_append]
    refine .inr ⟨fun x hx => hrun x (List.mem_reverse.mp hx), .inr ⟨?_, ?_⟩⟩
    · simpa using hlinked
    · rw [consonantBack_singleton, ha]
  · apply Held.joined
    exact held_of_extends (Kind.not_has_of_apart (by decide) ha) fun x hx =>
      extends_of_joiner (hrun x hx)

theorem pictured_passed {e : Scanner units} (hcd : Moved [a] c d) (hde : Moved run d e)
    (h : Pictures a run e.ahead) : c.Passed rules.splitAt controls (.ok (.again e)) := by
  obtain ⟨ha, ⟨u, z, rfl, hu, hz⟩, hnext⟩ := h
  obtain ⟨b, more, hmore, hb⟩ := Kind.hasNext_iff.mp hnext
  have hbc : Kind.grapheme.has controls b = false := Kind.not_has_of_apart (by decide) hb
  have hce : Moved (a :: (u ++ [z])) c e := hcd.trans hde
  apply Passed.again_before hce (by simp) _ hmore
    (Settled.of_neutral (Kind.not_has_of_apart (by decide) hb)).restarts hbc
  · apply splitAt_of_pictograph _ hb
    rw [List.reverse_cons, List.reverse_append, List.reverse_singleton, List.singleton_append,
      List.cons_append, pictographBack_cons, hz, Bool.true_and, emojiBack_append]
    refine .inr ⟨fun x hx => hu x (List.mem_reverse.mp hx), ?_⟩
    rw [emojiBack_singleton, ha]
  · apply Held.joined
    apply held_of_extends (Kind.not_has_of_apart (by decide) ha)
    intro x hx
    rcases List.mem_append.mp hx with hx | hx
    · simp [hu x hx]
    · simp [List.mem_singleton.mp hx, hz]

theorem pass_control (hc : c.Ready) (hlt : c.offset < c.position) (hahead : c.ahead = a :: rest)
    (ha : Kind.grapheme.has controls a) :
    ∃ d, pass c = .ok (.stop d) ∧ d.position = c.position ∧ d.ahead = c.ahead := by
  obtain ⟨d, hd, hcd, hrest, hcur, haccepted, hback⟩ := hc.advance_spec hahead
  have hmeets := meets_of_current hcur
  refine ⟨d.retreat, ?_, hback⟩
  rw [pass, hd, ok_bind, hmeets, hmeets, haccepted, decide_eq_true hlt, ha]
  split <;> rfl

/-- GB6 to GB9b without GB9. GB9b does not ask what is ahead; the next pass undoes it at a control. -/
theorem attached_passed (hc : c.Ready) (hcd : Moved [a] c d) (ha : Kind.grapheme.has controls a = false)
    (h : ∀ b rest, d.ahead = b :: rest → Kind.grapheme.has prepend a
      ∨ attached a b ∧ Kind.grapheme.has (controls ||| extend ||| zwj ||| regionalIndicator) b = false) :
    c.Passed rules.splitAt controls (.ok (.again d)) := by
  cases hahead : d.ahead with
  | nil =>
    apply Passed.again hcd (by simp) .singleton
    · rw [hahead]
      exact .at_end
    · exact fun hne => (hne hahead).elim
  | cons b rest =>
    have hcr : Kind.grapheme.has cr a = false := Kind.not_has_of_within (by decide) ha
    cases hb : Kind.grapheme.has controls b with
    | true =>
      have hlt : d.offset < d.position := by
        have := units.size_pos a
        have := hc.offset_le
        rw [hcd.offset_eq, hcd.position_eq]
        simp only [Units.length]
        omega
      obtain ⟨e, he, hpos, hback⟩ := pass_control (hcd.ready hc) hlt hahead hb
      apply Passed.undone hcd (by simp) .singleton _ he hpos hback
      rw [controls] at hb
      rw [hahead, List.reverse_singleton, splitAt_singleton, hcr, hb]
      simp
    | false =>
      have hattached : attached a b := by
        rcases h b rest hahead with hprepend | ⟨hattached, -⟩
        · simp [attached, hprepend]
        · exact hattached
      have hsettled : Settled [a] (b :: rest) := by
        rcases h b rest hahead with hprepend | ⟨-, hneutral⟩
        · apply Settled.of_inert (Kind.not_has_of_apart (by decide) hprepend)
          rw [indicatorBack_cons, Kind.not_has_of_apart (by decide) hprepend, Bool.false_and]
        · exact .of_neutral (Kind.not_has_of_within (by decide) hneutral)
      exact Passed.again_before hcd (by simp) .singleton hahead hsettled.restarts hb
        (splitAt_of_attached ha hb hattached)

theorem attached_of_local
    (h : syllable (Kind.grapheme.category a.toNat) (Kind.grapheme.category b.toNat)
      ∨ Kind.grapheme.has spacingMark b) :
    attached a b ∧ Kind.grapheme.has (controls ||| extend ||| zwj ||| regionalIndicator) b = false := by
  have hb : Kind.grapheme.has (hangulL ||| hangulV ||| hangulT ||| hangulLV ||| hangulLVT
      ||| spacingMark) b := by
    simp only [syllable, Mask.meets_or, Bool.or_eq_true, Bool.and_eq_true] at h
    simp only [Kind.has_or, Bool.or_eq_true]
    simp only [Kind.has] at h ⊢
    grind
  refine ⟨?_, Kind.not_has_of_apart (by decide) hb⟩
  rw [attached_eq]
  rcases h with h | h <;> simp [h]

theorem ends : Kind.grapheme.Ends rules.splitAt cr lf controls where
  pair ha hb := by
    rw [splitAt_singleton, ha, hb]
    rfl
  behind := splitAt_of_control
  within := by decide
  apart := by decide

theorem uncontrolled_passed (hc : c.Ready) (hs : c.saved = none) (hcd : Moved [a] c d)
    (hcur : d.current = Kind.grapheme.category a.toNat) (hcontrol : Kind.grapheme.has controls a = false) :
    c.Passed rules.splitAt controls
      (if syllable d.current d.lookahead || d.lookahead.meets spacingMark || d.current.meets prepend then
        return .again d
      else do
        (← conjunct d).orElse fun d => do
          (← pictographs d).orElse remaining) := by
  have hdr := hcd.ready hc
  have hds : d.saved = none := hcd.saved_eq.trans hs
  have hcategory : ∀ b more, d.ahead = b :: more → d.lookahead = Kind.grapheme.category b.toNat := by
    intro b more hmore
    rw [hdr.lookahead_eq, hmore]
    rfl
  rw [meets_of_current hcur, hdr.meets, hcur]
  split
  case isTrue hlocal =>
    apply attached_passed hc hcd hcontrol
    intro b more hmore
    rw [hcategory b more hmore, hmore, Kind.hasNext_cons, Bool.or_eq_true, Bool.or_eq_true] at hlocal
    rcases hlocal with hlocal | hprepend
    · exact .inr (attached_of_local hlocal)
    · exact .inl hprepend
  case isFalse hlocal =>
    apply Passed.orElse (conjunct_tried hdr hds hcur)
    case hjoined => exact fun run e => conjoined_passed hcd
    intro hconjunct
    apply Passed.orElse (pictographs_tried hdr hds hcur)
    case hjoined => exact fun run e => pictured_passed hcd
    intro hpictographs
    apply remaining_passed hc hcd hcur hcontrol _ hconjunct hpictographs
    intro b more hmore hattached
    rw [hcategory b more hmore, hmore, Kind.hasNext_cons] at hlocal
    rw [attached_eq] at hattached
    simp only [Bool.or_eq_true] at hlocal hattached
    grind

theorem passed (hc : c.Ready) (hs : c.saved = none) (ha : c.ahead ≠ [])
    (hb : c.position = c.offset ∨ Kind.grapheme.hasNext controls c.ahead = false) :
    c.Passed rules.splitAt controls (pass c) := by
  obtain ⟨a, rest, hahead⟩ := List.exists_cons_of_ne_nil ha
  obtain ⟨d, hd, hcd, -, hcur, haccepted, -⟩ := hc.advance_spec hahead
  have hmeets := meets_of_current hcur
  have hdr := hcd.ready hc
  have hfirst : Kind.grapheme.has controls a → d.hasAccepted = false :=
    fun hcontrol => not_hasAccepted hcontrol hahead hb haccepted
  rw [pass, hd, ok_bind, hmeets, hmeets, hdr.meets]
  split
  case isTrue hcrlf =>
    obtain ⟨hcr, -⟩ := Bool.and_eq_true_iff.mp hcrlf
    rw [hfirst (by simp [controls, hcr]), if_neg (by simp)]
    exact .stop_pair ends hc hcd hcrlf
  case isFalse hcrlf =>
  split
  case isTrue hcontrol =>
    rw [hfirst hcontrol, if_neg (by simp)]
    exact .stop_single ends hcd hcontrol hcrlf
  case isFalse hcontrol => exact uncontrolled_passed hc hs hcd hcur (Bool.not_eq_true _ ▸ hcontrol)

theorem delimits : Kind.grapheme.Delimits rules.splitAt controls where
  passed _ hc hs ha hb := passed hc hs ha hb
  restarts h := (settled_of_split h).restarts

/-- The boundaries found are the end of the text and the positions inside it where the rules, read on all
that stands before and after, split it. -/
theorem clusters_end_at_splits (t : Text) :
    ∃ positions, (∀ others, t.Walk .grapheme 0 others ↔ others = positions)
      ∧ t.breaks .grapheme 0 = .ok positions
      ∧ positions.Pairwise (· < ·)
      ∧ ∀ p, p ∈ positions ↔ ∃ before after, t.chars = before ++ after ∧ before ≠ []
        ∧ p = t.units.length before ∧ (after = [] ∨ rules.splits before after) :=
  delimits.boundaries t

end TextBoundary.Break.Grapheme
