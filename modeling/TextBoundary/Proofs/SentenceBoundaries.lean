import TextBoundary.Proofs.Extenders
import TextBoundary.Proofs.SentenceRules
import TextBoundary.Proofs.Walk

namespace TextBoundary.Break.Sentence

open Cursor SentenceBreak

variable {units : Units} {c d e : Scanner units} {a b : Char} {back extenders run rest : List Char}

theorem has_passable (x : Char) : Kind.sentence.has passable x
    = !Kind.sentence.has (oLetter ||| upper ||| lower ||| sep ||| cr ||| lf ||| sTerm ||| aTerm) x := by
  have hvalues : values.all fun v => v.meets passable
      == !v.meets (oLetter ||| upper ||| lower ||| sep ||| cr ||| lf ||| sTerm ||| aTerm) := by decide
  exact beq_iff_eq.mp (List.all_eq_true.mp hvalues _ (Kind.category_mem .sentence x.toNat))

theorem lowerAhead_iff {ahead : List Char} : lowerAhead ahead ↔ ∃ run rest, ahead = run ++ rest
    ∧ (∀ x ∈ run, Kind.sentence.has passable x) ∧ Kind.sentence.hasNext lower rest := by
  constructor
  · intro h
    induction ahead with
    | nil => simp [lowerAhead] at h
    | cons x ahead ih =>
      rw [lowerAhead_cons, Bool.or_eq_true, Bool.and_eq_true, ← has_passable] at h
      rcases h with hx | ⟨hx, h⟩
      · exact ⟨[], x :: ahead, rfl, by simp, hx⟩
      · obtain ⟨run, rest, rfl, hrun, hrest⟩ := ih h
        exact ⟨x :: run, rest, rfl, List.forall_mem_cons.mpr ⟨hx, hrun⟩, hrest⟩
  · rintro ⟨run, rest, rfl, hrun, hrest⟩
    induction run with
    | nil =>
      obtain ⟨x, rest, rfl, hx⟩ := Kind.hasNext_iff.mp hrest
      rw [List.nil_append, lowerAhead_cons, hx, Bool.true_or]
    | cons x run ih =>
      obtain ⟨hx, hrun⟩ := List.forall_mem_cons.mp hrun
      rw [List.cons_append, lowerAhead_cons, ← has_passable, hx, ih hrun]
      simp

section Held

variable (ha : Kind.sentence.has paraSep a = false)
include ha

theorem held_of_spaces (hrun : ∀ x ∈ run, Kind.sentence.has (sp ||| ignored) x) :
    Held rules.splitAt (a :: back) run rest := by
  apply Held.of_mask _ (by decide) ha hrun
  exact fun ha hb => splitAt_of_space ha (Kind.has_of_within (by decide) hb)

theorem held_of_ignored (hrun : ∀ x ∈ run, Kind.sentence.has ignored x) :
    Held rules.splitAt (a :: back) run rest :=
  held_of_spaces ha fun x hx => Kind.has_of_within (by decide) (hrun x hx)

theorem held_of_closers (h : closedBack saTerm (rules.trim (a :: back)))
    (hrun : ∀ x ∈ run, Kind.sentence.has (close ||| ignored) x) :
    Held rules.splitAt (a :: back) run rest := by
  induction run generalizing a back with
  | nil => trivial
  | cons x run ih =>
    have hx := hrun x (.head _)
    have hone : ∀ y ∈ [x], Kind.sentence.has (close ||| ignored) y := by simpa using hx
    have hclosed := closedBack_trim ha h hone
    refine ⟨splitAt_of_closed ha h hx, ?_⟩
    exact ih (Kind.not_has_of_apart (by decide) hx) hclosed fun y hy => hrun y (.tail _ hy)

theorem held_of_passable
    (hterm : ∀ y ∈ a :: back, Kind.sentence.has saTerm y → Kind.sentence.has aTerm y)
    (hrun : ∀ x ∈ run, Kind.sentence.has passable x) (hrest : Kind.sentence.hasNext lower rest) :
    Held rules.splitAt (a :: back) run rest := by
  induction run generalizing a back with
  | nil => trivial
  | cons x run ih =>
    obtain ⟨hx, hrun'⟩ := List.forall_mem_cons.mp hrun
    refine ⟨splitAt_of_lowerAhead ha hterm (lowerAhead_iff.mpr ⟨x :: run, rest, rfl, hrun, hrest⟩), ?_⟩
    apply ih (Kind.not_has_of_apart (by decide) hx) _ hrun'
    have hxt : Kind.sentence.has saTerm x = false := Kind.not_has_of_apart (by decide) hx
    exact List.forall_mem_cons.mpr ⟨by simp [hxt], hterm⟩

end Held

theorem joined_self (h : Accepted rules c d a extenders) :
    Joined rules.splitAt [] (a :: extenders) rest :=
  Held.joined (held_of_ignored h.plain h.ignored)

theorem joined_append (h : Accepted rules c d a extenders)
    (hrun : Held rules.splitAt (extenders.reverse ++ [a]) run rest) :
    Joined rules.splitAt [] (a :: extenders ++ run) rest :=
  Held.joined (Held.append (held_of_ignored h.plain h.ignored) hrun)

theorem passed_again {run : List Char} (hcd : Moved run c d) (hne : run ≠ [])
    (hj : Joined rules.splitAt [] run d.ahead)
    (hsettled : d.ahead ≠ [] → Settled run.reverse d.ahead)
    (hsplit : d.ahead ≠ [] → rules.splitAt run.reverse d.ahead = false) :
    c.Passed rules.splitAt .empty (.ok (.again d)) := by
  apply Passed.again hcd hne hj
  · by_cases hd : d.ahead = []
    · rw [hd]
      exact .at_end
    · exact (hsettled hd).restarts
  · intro hd
    refine ⟨hsplit hd, ?_⟩
    obtain ⟨b, rest, hahead⟩ := List.exists_cons_of_ne_nil hd
    rw [hahead, Kind.hasNext_cons, Kind.has_empty]

def closers (ahead : List Char) : List Char := ahead.takeWhile (Kind.sentence.has (close ||| ignored))

def spaces (ahead : List Char) : List Char :=
  (ahead.dropWhile (Kind.sentence.has (close ||| ignored))).takeWhile (Kind.sentence.has (sp ||| ignored))

def taken (ahead : List Char) : List Char := closers ahead ++ spaces ahead

def closed (ahead : List Char) : List Char :=
  (ahead.dropWhile (Kind.sentence.has (close ||| ignored))).dropWhile (Kind.sentence.has (sp ||| ignored))

theorem has_closers {ahead : List Char} (x : Char) (h : x ∈ closers ahead) :
    Kind.sentence.has (close ||| ignored) x :=
  Kind.has_of_mem_takeWhile h

theorem has_spaces {ahead : List Char} (x : Char) (h : x ∈ spaces ahead) :
    Kind.sentence.has (sp ||| ignored) x :=
  Kind.has_of_mem_takeWhile h

theorem closing_spec (hc : c.Ready) (hnext : Kind.sentence.hasNext ignored c.ahead = false) :
    ∃ d, closing c = .ok d ∧ Moved (taken c.ahead) c d ∧ d.ahead = closed c.ahead
      ∧ d.current = c.current := by
  obtain ⟨d, hd, hcd, hcurd⟩ := absorb_spec close ignored hc
  have hdr := hcd.ready hc
  rw [Kind.absorbed_of_not_hasNext hnext] at hcd
  have hahead := hcd.takeWhile_ahead
  have hnext' : Kind.sentence.hasNext ignored d.ahead = false := by
    have := Kind.hasNext_dropWhile .sentence (close ||| ignored) c.ahead
    rw [← hahead, Kind.hasNext_or, Bool.or_eq_false_iff] at this
    exact this.2
  obtain ⟨e, he, hde, hcure⟩ := absorb_spec sp ignored hdr
  rw [Kind.absorbed_of_not_hasNext hnext'] at hde
  have hend := hde.takeWhile_ahead
  rw [hahead] at hde hend
  exact ⟨e, by rw [closing, hd, ok_bind, he], hcd.trans hde, hend, hcure.trans hcurd⟩

def Initial : Char → List Char → List Char → Prop :=
  Across .sentence ignored (upper ||| lower) aTerm upper

theorem initials_tried (h : Accepted rules c d a extenders) : Tried (Initial a) d (initials d) :=
  across_tried (by decide) h.ready h.saved h.current

def Lowered (a : Char) (run rest : List Char) : Prop :=
  Kind.sentence.has aTerm a ∧ (∀ x ∈ run, Kind.sentence.has passable x)
    ∧ Kind.sentence.hasNext lower rest

theorem passable_spec (hc : c.Ready) (hnext : Kind.sentence.hasNext ignored c.ahead = false) :
    ∃ d e f run, closing c = .ok d ∧ d.absorb passable .empty = .ok e ∧ e.absorb ignored .empty = .ok f
      ∧ Moved run c f ∧ (∀ x ∈ run, Kind.sentence.has passable x)
      ∧ Kind.sentence.hasNext passable f.ahead = false := by
  obtain ⟨d, hd, hcd, -, -⟩ := closing_spec hc hnext
  have hdr := hcd.ready hc
  obtain ⟨e, he, hde, hend, -⟩ := absorb_all_spec passable hdr
  have hstop : Kind.sentence.hasNext passable e.ahead = false :=
    hend ▸ Kind.hasNext_dropWhile .sentence passable d.ahead
  have hplain : Kind.sentence.hasNext ignored e.ahead = false := Kind.not_hasNext_of_within (by decide) hstop
  obtain ⟨f, hf, hef, hfend, -⟩ := absorb_all_spec ignored (hde.ready hdr)
  rw [Kind.takeWhile_of_not_hasNext hplain] at hef
  rw [Kind.dropWhile_of_not_hasNext hplain] at hfend
  refine ⟨d, e, f, _, hd, he, hf, (hcd.trans hde).trans hef, ?_, hfend ▸ hstop⟩
  simp only [taken, List.append_nil, List.mem_append]
  rintro x ((hx | hx) | hx)
  · exact Kind.has_of_within (by decide) (has_closers x hx)
  · exact Kind.has_of_within (by decide) (has_spaces x hx)
  · exact Kind.has_of_mem_takeWhile hx

theorem lowercase_tried (h : Accepted rules c d a extenders) : Tried (Lowered a) d (lowercase d) := by
  rw [lowercase, h.meets]
  split
  case isFalse hfalse => exact .refused fun run rest _ hlowered => hfalse hlowered.1
  case isTrue ha =>
    obtain ⟨e, f, g, run, he, hf, hg, hmoved, hrun, hstop⟩ := passable_spec h.ready.begun h.ends
    have hgr := hmoved.ready h.ready.begun
    cases hlower : Kind.sentence.hasNext lower g.ahead with
    | false =>
      apply Tried.attempt false h.saved _ hmoved
      · exact fun hfound => Bool.noConfusion hfound
      · rintro - other rest heq ⟨-, hother, hrest⟩
        have hpass : Kind.sentence.hasNext passable rest = false :=
          Kind.not_hasNext_of_apart (by decide) hrest
        -- both runs are all that is passable, so they end at the same place
        have hdrop := Kind.dropWhile_run hrun hstop
        rw [← hmoved.ahead_eq, begun_ahead, heq, Kind.dropWhile_run hother hpass] at hdrop
        rw [hdrop, hlower] at hrest
        exact Bool.noConfusion hrest
      · rw [he, ok_bind, hf, ok_bind, hg, ok_bind, hgr.meets, hlower]
        rfl
    | true =>
      have hplain : Kind.sentence.hasNext ignored g.ahead = false := Kind.not_hasNext_of_within (by decide) hstop
      obtain ⟨i, hi, hgi, hiend, -⟩ := absorb_all_spec ignored hgr
      rw [Kind.takeWhile_of_not_hasNext hplain] at hgi
      rw [Kind.dropWhile_of_not_hasNext hplain] at hiend
      apply Tried.attempt true h.saved _ (hmoved.trans hgi)
      · exact fun _ => ⟨ha, by simpa using hrun, hiend ▸ hlower⟩
      · exact fun hlost => Bool.noConfusion hlost
      · rw [he, ok_bind, hf, ok_bind, hg, ok_bind, hgr.meets, hlower, if_pos rfl, hi]
        rfl

def Continued (a : Char) (ahead run rest : List Char) : Prop :=
  Kind.sentence.has saTerm a ∧ run = taken ahead
    ∧ Kind.sentence.hasNext (sContinue ||| saTerm) rest

theorem continued_tried (h : Accepted rules c d a extenders) :
    Tried (Continued a d.ahead) d (continued d) := by
  rw [continued, h.meets]
  split
  case isFalse hfalse => exact .refused fun run rest _ hcontinued => hfalse hcontinued.1
  case isTrue ha =>
    have hbr := h.ready.begun
    obtain ⟨e, he, hde, -, -⟩ := closing_spec hbr h.ends
    have her := hde.ready hbr
    apply Tried.attempt _ h.saved (by rw [he, ok_bind]; rfl) hde
    · intro hfound
      rw [her.meets] at hfound
      exact ⟨ha, rfl, hfound⟩
    · rintro hlost run rest heq ⟨-, rfl, hrest⟩
      have : e.ahead = rest := List.append_cancel_left (hde.ahead_eq.symm.trans heq)
      rw [her.meets, this, hrest] at hlost
      exact Bool.noConfusion hlost

theorem numeric_passed (h : Accepted rules c d a extenders) (ha : Kind.sentence.has aTerm a)
    (hnext : Kind.sentence.hasNext numeric d.ahead) : c.Passed rules.splitAt .empty (.ok (.again d)) := by
  obtain ⟨b, rest, hahead, hb⟩ := Kind.hasNext_iff.mp hnext
  apply passed_again h.moved (by simp) (joined_self h)
  · exact fun _ => hahead ▸ .of_neutral (Kind.not_has_of_apart (by decide) hb)
  · intro
    obtain ⟨x, back, hback, hx⟩ := h.back_plain
    rw [hahead, List.reverse_cons, hback, splitAt_plain hx, ← hback, h.trim, breaks]
    simp [ha, hb]

theorem initial_passed (h : Accepted rules c d a extenders) (hde : Moved run d e)
    (hinitial : Initial a run e.ahead) : c.Passed rules.splitAt .empty (.ok (.again e)) := by
  obtain ⟨ha, ⟨t, u, rfl, ht, hu⟩, hnext⟩ := hinitial
  obtain ⟨b, rest, hahead, hb⟩ := Kind.hasNext_iff.mp hnext
  have hplain : Kind.sentence.has paraSep t = false := Kind.not_has_of_apart (by decide) ht
  have hletter : spacedBack saTerm [a] = false := by
    have hapart : Kind.sentence.has (saTerm ||| close ||| sp) a = false :=
      Kind.not_has_of_apart (by decide) ha
    rw [Kind.has_or, Kind.has_or, Bool.or_eq_false_iff, Bool.or_eq_false_iff] at hapart
    simp [spacedBack_cons, closedBack_cons, hapart]
  have hheld : Held rules.splitAt (extenders.reverse ++ [a]) (t :: u) e.ahead := by
    refine ⟨?_, held_of_ignored hplain hu⟩
    obtain ⟨x, back, hback, hx⟩ := h.back_plain
    rw [hback]
    apply splitAt_of_unspaced hx
    rw [← hback, h.trim]
    exact hletter
  have htrim : rules.trim ((a :: extenders ++ t :: u).reverse) = [t, a] := by
    rw [Accepted.reverse_eq]
    exact h.trim_pair (Kind.not_has_of_apart (by decide) ht) hplain hu
  have hlast : rules.Plain (a :: extenders ++ t :: u).reverse := by
    rw [Accepted.reverse_eq]
    apply h.back_plain.append
    exact List.forall_mem_cons.mpr ⟨hplain, fun x hx => Kind.not_has_of_apart (by decide) (hu x hx)⟩
  apply passed_again (h.moved.trans hde) (by simp) (joined_append h hheld)
  · exact fun _ => hahead ▸ .of_neutral (Kind.not_has_of_apart (by decide) hb)
  · intro
    obtain ⟨x, back, hback, hx⟩ := hlast
    rw [hahead, hback, splitAt_plain hx, ← hback, htrim, breaks]
    simp only [Kind.has_or] at ha
    simp [initialBack, ht, hb, ha]

theorem lowered_passed (h : Accepted rules c d a extenders) (hde : Moved run d e)
    (hlowered : Lowered a run e.ahead) : c.Passed rules.splitAt .empty (.ok (.again e)) := by
  obtain ⟨ha, hrun, hnext⟩ := hlowered
  obtain ⟨b, rest, hahead, hb⟩ := Kind.hasNext_iff.mp hnext
  have hplain : ∀ x ∈ run, Kind.sentence.has saTerm x = false :=
    fun x hx => Kind.not_has_of_apart (by decide) (hrun x hx)
  have hheld : Held rules.splitAt (extenders.reverse ++ [a]) run e.ahead := by
    have hterm := h.eq_of_mem (m := saTerm) (by decide) (List.forall_mem_nil _)
    obtain ⟨x, back, hback, hx⟩ := h.back_plain
    rw [List.reverse_nil, List.nil_append, hback] at hterm
    rw [hback]
    exact held_of_passable hx (fun y hy hyt => hterm y hy hyt ▸ ha) hrun hnext
  apply passed_again (h.moved.trans hde) (by simp) (joined_append h hheld)
  · exact fun _ => hahead ▸ .of_neutral (Kind.not_has_of_apart (by decide) hb)
  · intro
    have hterm := h.eq_of_mem (by decide) hplain
    obtain ⟨x, back, hback, hx⟩ :=
      h.back_plain.append fun x hx => Kind.not_has_of_apart (by decide) (hrun x hx)
    rw [hback] at hterm
    rw [hahead, Accepted.reverse_eq, hback]
    apply splitAt_of_lowerAhead hx fun y hy hyt => hterm y hy hyt ▸ ha
    rw [lowerAhead_cons, hb, Bool.true_or]

section Closing

variable {ahead : List Char} (h : Accepted rules c d a extenders) (ha : Kind.sentence.has saTerm a)
include h

omit h in
theorem has_taken (x : Char) (hx : x ∈ taken ahead) :
    Kind.sentence.has (close ||| sp ||| ignored) x := by
  rw [taken] at hx
  rcases List.mem_append.mp hx with hx | hx
  · exact Kind.has_of_within (by decide) (has_closers x hx)
  · exact Kind.has_of_within (by decide) (has_spaces x hx)

theorem plain_of_taken (ahead : List Char) :
    rules.Plain ((taken ahead).reverse ++ (extenders.reverse ++ [a])) :=
  h.back_plain.append fun x hx => Kind.not_has_of_apart (by decide) (has_taken x hx)

include ha

theorem closed_of_accepted : closedBack saTerm (rules.trim (extenders.reverse ++ [a])) := by
  rw [h.trim, closedBack_cons, ha, Bool.true_or]

theorem held_of_closing :
    Held rules.splitAt (extenders.reverse ++ [a]) (taken ahead) rest := by
  have hclosed := closed_of_accepted h ha
  have hplain : rules.Plain ((closers ahead).reverse ++ (extenders.reverse ++ [a])) :=
    h.back_plain.append fun x hx => Kind.not_has_of_apart (by decide) (has_closers x hx)
  apply Held.append
  · obtain ⟨x, back, hback, hx⟩ := h.back_plain
    rw [hback] at hclosed ⊢
    exact held_of_closers hx hclosed has_closers
  · obtain ⟨x, back, hback, hx⟩ := hplain
    rw [hback]
    exact held_of_spaces hx has_spaces

theorem spaced_of_closing : spacedBack saTerm
    (rules.trim ((taken ahead).reverse ++ (extenders.reverse ++ [a]))) := by
  have hclosed := closed_of_accepted h ha
  have hplain : rules.Plain ((closers ahead).reverse ++ (extenders.reverse ++ [a])) :=
    h.back_plain.append fun x hx => Kind.not_has_of_apart (by decide) (has_closers x hx)
  have hclosers : closedBack saTerm
      (rules.trim ((closers ahead).reverse ++ (extenders.reverse ++ [a]))) := by
    obtain ⟨x, back, hback, hx⟩ := h.back_plain
    rw [hback] at hclosed ⊢
    exact closedBack_trim hx hclosed has_closers
  obtain ⟨x, back, hback, hx⟩ := hplain
  rw [taken, List.reverse_append, List.append_assoc, hback]
  rw [hback] at hclosers
  exact spacedBack_trim hx (spacedBack_of_closed hclosers) has_spaces

end Closing

theorem continued_passed (h : Accepted rules c d a extenders) (hde : Moved run d e)
    (hcontinued : Continued a d.ahead run e.ahead) :
    c.Passed rules.splitAt .empty (.ok (.again e)) := by
  obtain ⟨ha, rfl, hnext⟩ := hcontinued
  obtain ⟨b, rest, hahead, hb⟩ := Kind.hasNext_iff.mp hnext
  apply passed_again (h.moved.trans hde) (by simp) (joined_append h (held_of_closing h ha))
  · intro
    rw [hahead, Accepted.reverse_eq]
    apply Settled.of_continued hb
    intro y hy
    rw [Bool.eq_false_iff]
    intro hletter
    have hya := h.eq_of_mem (by decide)
      (fun x hx => Kind.not_has_of_apart (by decide) (has_taken x hx)) y hy hletter
    rw [hya, Kind.not_has_of_apart (by decide) ha] at hletter
    exact Bool.noConfusion hletter
  · intro
    obtain ⟨x, back, hback, hx⟩ := plain_of_taken h d.ahead
    rw [hahead, Accepted.reverse_eq, hback]
    exact splitAt_of_continued hx hb

theorem unterminated_passed (h : Accepted rules c d a extenders) (ha : Kind.sentence.has saTerm a = false)
    (hinitial : ∀ run rest, d.ahead = run ++ rest → ¬Initial a run rest) :
    c.Passed rules.splitAt .empty (.ok (.again d)) := by
  have hclosed : closedBack saTerm [a] = false := by simp [closedBack_cons, ha]
  have hspaced : spacedBack saTerm [a] = false := by simp [spacedBack_cons, hclosed]
  apply passed_again h.moved (by simp) (joined_self h)
  · intro hne
    obtain ⟨b, rest, hahead⟩ := List.exists_cons_of_ne_nil hne
    have hseen := h.ends
    rw [hahead, Kind.hasNext_cons] at hseen
    rw [List.reverse_cons]
    constructor
    case seen =>
      rw [hahead]
      exact ignores_eq_false hseen _
    case spaced => exact fun _ => h.trim.symm ▸ hspaced
    case closed => exact fun _ => h.trim.symm ▸ hclosed
    case initial =>
      intro u v t x heq ht hu hx
      rw [h.trim, Piece.fit_one_cons, Piece.fit_nil, Bool.and_true, Bool.eq_false_iff]
      exact fun hletter => hinitial (t :: u) (x :: v) heq ⟨hletter, ⟨t, u, rfl, ht, hu⟩, hx⟩
  · intro hne
    obtain ⟨b, rest, hahead⟩ := List.exists_cons_of_ne_nil hne
    obtain ⟨x, back, hback, hx⟩ := h.back_plain
    rw [hahead, List.reverse_cons, hback]
    apply splitAt_of_unspaced hx
    rw [← hback, h.trim]
    exact hspaced

theorem taken_append_closed (ahead : List Char) : taken ahead ++ closed ahead = ahead := by
  rw [taken, closers, spaces, closed, List.append_assoc, List.takeWhile_append_dropWhile,
    List.takeWhile_append_dropWhile]

theorem trim_taken (h : Accepted rules c d a extenders) : taken d.ahead = [] ∨ ∃ y seen,
    rules.trim ((taken d.ahead).reverse ++ (extenders.reverse ++ [a])) = y :: seen
      ∧ Kind.sentence.has aTerm y = false := by
  cases htaken : taken d.ahead with
  | nil => exact .inl rfl
  | cons x run =>
    have hx : Kind.sentence.has rules.ignored x = false := by
      have hnext := h.ends
      rwa [← taken_append_closed d.ahead, htaken, List.cons_append, Kind.hasNext_cons] at hnext
    obtain ⟨y, seen, htrim, hy⟩ := RuleSet.trim_head hx
    exact .inr ⟨y, seen, htrim, Kind.not_has_of_apart (by decide) (has_taken y (htaken ▸ hy))⟩

theorem not_closed_of_close (hahead : closed d.ahead = b :: rest) (hb : Kind.sentence.has close b) :
    closedBack saTerm (rules.trim ((taken d.ahead).reverse ++ back)) = false := by
  have hstop := Kind.hasNext_dropWhile .sentence (close ||| ignored) d.ahead
  have hsplit : spaces d.ahead ++ closed d.ahead
      = d.ahead.dropWhile (Kind.sentence.has (close ||| ignored)) := by
    rw [spaces, closed, List.takeWhile_append_dropWhile]
  rw [← hsplit] at hstop
  cases hspaces : spaces d.ahead with
  | nil =>
    rw [hspaces, List.nil_append, hahead, Kind.hasNext_cons, Kind.has_or, hb] at hstop
    exact Bool.noConfusion hstop
  | cons x run =>
    have hx : Kind.sentence.has rules.ignored x = false := by
      rw [hspaces, List.cons_append, Kind.hasNext_cons, Kind.has_or, Bool.or_eq_false_iff] at hstop
      exact hstop.2
    obtain ⟨y, seen, htrim, hy⟩ := RuleSet.trim_head hx
    have hy := has_spaces y (hspaces ▸ hy)
    have hapart : Kind.sentence.has (close ||| saTerm) y = false := Kind.not_has_of_apart (by decide) hy
    rw [Kind.has_or, Bool.or_eq_false_iff] at hapart
    rw [taken, hspaces, List.reverse_append, List.append_assoc, htrim, closedBack_cons, hapart.1, hapart.2]
    rfl

theorem not_numeric_of_closing (h : Accepted rules c d a extenders) (hahead : closed d.ahead = b :: rest)
    (hnumeric : ¬(Kind.sentence.has aTerm a && Kind.sentence.hasNext numeric d.ahead)) :
    (Piece.fit .sentence [.one aTerm]
        (rules.trim ((taken d.ahead).reverse ++ (extenders.reverse ++ [a])))
      && Kind.sentence.has numeric b) = false := by
  rcases trim_taken h with htaken | ⟨y, seen, htrim, hy⟩
  · have hend : d.ahead = b :: rest := by
      have hsplit := taken_append_closed d.ahead
      rwa [htaken, List.nil_append, hahead, eq_comm] at hsplit
    rw [hend, Kind.hasNext_cons, Bool.not_eq_true] at hnumeric
    rw [htaken, List.reverse_nil, List.nil_append, h.trim, Piece.fit_one_cons, Piece.fit_nil,
      Bool.and_true, hnumeric]
  · rw [htrim, Piece.fit_one_cons, hy]
    rfl

theorem not_initial_of_closing (h : Accepted rules c d a extenders) :
    initialBack (rules.trim ((taken d.ahead).reverse ++ (extenders.reverse ++ [a]))) = false := by
  rcases trim_taken h with htaken | ⟨y, seen, htrim, hy⟩
  · rw [htaken, List.reverse_nil, List.nil_append, h.trim]
    simp [initialBack]
  · simp [htrim, initialBack, hy]

theorem not_lowered_of_closing (h : Accepted rules c d a extenders) (hahead : closed d.ahead = b :: rest)
    (hlowered : ∀ run rest, d.ahead = run ++ rest → ¬Lowered a run rest) :
    (spacedBack aTerm (rules.trim ((taken d.ahead).reverse ++ (extenders.reverse ++ [a])))
      && lowerAhead (b :: rest)) = false := by
  rw [Bool.eq_false_iff]
  intro hfound
  obtain ⟨hspaced, hlower⟩ := Bool.and_eq_true_iff.mp hfound
  obtain ⟨y, hy, hterm⟩ := exists_of_spacedBack hspaced
  obtain rfl := h.eq_of_mem (by decide) (fun x hx => Kind.not_has_of_apart (by decide) (has_taken x hx))
    y (RuleSet.mem_of_mem_trim hy) hterm
  obtain ⟨run, more, hsplit, hrun, hmore⟩ := lowerAhead_iff.mp hlower
  apply hlowered (taken d.ahead ++ run) more
  · rw [List.append_assoc, ← hsplit, ← hahead, taken_append_closed]
  · refine ⟨hterm, fun x hx => ?_, hmore⟩
    rcases List.mem_append.mp hx with hx | hx
    · exact Kind.has_of_within (by decide) (has_taken x hx)
    · exact hrun x hx

theorem split_of_closing (h : Accepted rules c d a extenders) (ha : Kind.sentence.has saTerm a)
    (hahead : closed d.ahead = b :: rest) (hb : Kind.sentence.has paraSep b = false)
    (hnumeric : ¬(Kind.sentence.has aTerm a && Kind.sentence.hasNext numeric d.ahead))
    (hlowered : ∀ run rest, d.ahead = run ++ rest → ¬Lowered a run rest)
    (hcontinued : ∀ run rest, d.ahead = run ++ rest → ¬Continued a d.ahead run rest) :
    rules.splitAt ((taken d.ahead).reverse ++ (extenders.reverse ++ [a])) (b :: rest) := by
  have hcontinue : Kind.sentence.has (sContinue ||| saTerm) b = false := by
    have hend : d.ahead = taken d.ahead ++ b :: rest := by rw [← hahead, taken_append_closed]
    exact Bool.eq_false_iff.mpr fun hb => hcontinued _ _ hend ⟨ha, rfl, hb⟩
  have hspace : Kind.sentence.has (sp ||| ignored) b = false := by
    have := Kind.hasNext_dropWhile .sentence (sp ||| ignored)
      (d.ahead.dropWhile (Kind.sentence.has (close ||| ignored)))
    rwa [← closed, hahead, Kind.hasNext_cons] at this
  have hspaced : spacedBack (sTerm ||| aTerm)
      (rules.trim ((taken d.ahead).reverse ++ (extenders.reverse ++ [a]))) := spaced_of_closing h ha
  have hclose : (closedBack (sTerm ||| aTerm)
        (rules.trim ((taken d.ahead).reverse ++ (extenders.reverse ++ [a])))
      && Kind.sentence.has close b) = false := by
    cases hb : Kind.sentence.has close b with
    | false => rw [Bool.and_false]
    | true => exact Bool.and_eq_false_iff.mpr (.inl (not_closed_of_close hahead hb))
  obtain ⟨x, back, hback, hx⟩ := plain_of_taken h d.ahead
  rw [hback, splitAt_plain hx, ← hback, breaks, not_numeric_of_closing h hahead hnumeric,
    not_initial_of_closing h, not_lowered_of_closing h hahead hlowered, hspaced]
  simp only [paraSep, saTerm, ignored, Kind.has_or, Bool.or_eq_false_iff] at hb hcontinue hspace
  rw [Bool.and_eq_false_iff] at hclose
  simpa [hb, hcontinue, hspace] using hclose

theorem terminated_passed (h : Accepted rules c d a extenders)
    (hnumeric : ¬(Kind.sentence.has aTerm a && Kind.sentence.hasNext numeric d.ahead))
    (hinitial : ∀ run rest, d.ahead = run ++ rest → ¬Initial a run rest)
    (hlowered : ∀ run rest, d.ahead = run ++ rest → ¬Lowered a run rest)
    (hcontinued : ∀ run rest, d.ahead = run ++ rest → ¬Continued a d.ahead run rest) :
    c.Passed rules.splitAt .empty (terminated d) := by
  rw [terminated, h.meets]
  split
  case isFalse ha => exact unterminated_passed h (Bool.eq_false_iff.mpr ha) hinitial
  case isTrue ha =>
    obtain ⟨e, he, hde, hend, -⟩ := closing_spec h.ready h.ends
    rw [he, ok_bind, (hde.ready h.ready).meets]
    have hce := h.moved.trans hde
    have hj : Joined rules.splitAt [] (a :: extenders ++ taken d.ahead) e.ahead :=
      joined_append h (held_of_closing h ha)
    split
    case isTrue hnext =>
      obtain ⟨b, rest, hahead, hb⟩ := Kind.hasNext_iff.mp hnext
      apply passed_again hce (by simp) hj
      · exact fun _ => hahead ▸ .of_neutral (Kind.not_has_of_apart (by decide) hb)
      · intro
        obtain ⟨x, back, hback, hx⟩ := plain_of_taken h d.ahead
        rw [hahead, Accepted.reverse_eq, hback]
        exact splitAt_of_space hx (Kind.has_of_within (by decide) hb)
    case isFalse hnext =>
      apply Passed.stop_before hce (by simp) hj
      intro b rest hahead
      rw [hahead, Kind.hasNext_cons, Bool.not_eq_true] at hnext
      rw [Accepted.reverse_eq]
      exact split_of_closing h ha (hend.symm.trans hahead) hnext hnumeric hlowered hcontinued

theorem ends : Kind.sentence.Ends rules.splitAt cr lf paraSep where
  pair ha hb := by
    rw [splitAt_cons, ha, hb]
    rfl
  behind := splitAt_of_separator
  within := by decide
  apart := by decide

theorem accepted_passed (h : Accepted rules c d a extenders) :
    c.Passed rules.splitAt .empty (if d.current.meets aTerm && d.lookahead.meets numeric then return .again d
      else do
        (← initials d).orElse fun d => do
          (← lowercase d).orElse fun d => do
            (← continued d).orElse terminated) := by
  rw [h.meets, h.ready.meets]
  split
  case isTrue hnumeric =>
    obtain ⟨ha, hnext⟩ := Bool.and_eq_true_iff.mp hnumeric
    exact numeric_passed h ha hnext
  case isFalse hnumeric =>
    apply Passed.orElse (initials_tried h)
    case hjoined => exact fun run e => initial_passed h
    intro hinitial
    apply Passed.orElse (lowercase_tried h)
    case hjoined => exact fun run e => lowered_passed h
    intro hlowered
    apply Passed.orElse (continued_tried h)
    case hjoined => exact fun run e => continued_passed h
    intro hcontinued
    exact terminated_passed h hnumeric hinitial hlowered hcontinued

theorem passed (hc : c.Ready) (hs : c.saved = none) (ha : c.ahead ≠ []) :
    c.Passed rules.splitAt .empty (pass c) := by
  obtain ⟨a, rest, hahead⟩ := List.exists_cons_of_ne_nil ha
  obtain ⟨d, hd, hcd, hrest, hcur, -⟩ := hc.advance_spec hahead
  have hmeets := meets_of_current hcur
  have hdr := hcd.ready hc
  rw [pass, hd, ok_bind, hmeets, hmeets, hdr.meets]
  split
  case isTrue hcrlf => exact .stop_pair ends hc hcd hcrlf
  case isFalse hcrlf =>
  split
  case isTrue hsep => exact .stop_single ends hcd hsep hcrlf
  case isFalse hplain =>
  rw [Bool.not_eq_true] at hplain
  obtain ⟨e, he, hde, hend, hcure⟩ := absorb_all_spec ignored hdr
  rw [he, ok_bind]
  have hce : Moved (a :: d.ahead.takeWhile (Kind.sentence.has ignored)) c e := hcd.trans hde
  have h : Accepted rules c e a (d.ahead.takeWhile (Kind.sentence.has ignored)) := {
    moved := hce
    ready := hce.ready hc
    saved := hce.saved_eq.trans hs
    current := hcure.trans hcur
    plain := hplain
    ignored := fun x => Kind.has_of_mem_takeWhile
    ends := hend ▸ Kind.hasNext_dropWhile .sentence ignored d.ahead }
  exact accepted_passed h

theorem delimits : Kind.sentence.Delimits rules.splitAt .empty where
  passed _ hc hs ha _ := passed hc hs ha
  restarts h := (settled_of_split h).restarts

/-- The boundaries found are the end of the text and the positions inside it where the rules, read on all
that stands before and after, split it. -/
theorem sentences_end_at_splits (t : Text) :
    ∃ positions, (∀ others, t.Walk .sentence 0 others ↔ others = positions)
      ∧ t.breaks .sentence 0 = .ok positions
      ∧ positions.Pairwise (· < ·)
      ∧ ∀ p, p ∈ positions ↔ ∃ before after, t.chars = before ++ after ∧ before ≠ []
        ∧ p = t.units.length before ∧ (after = [] ∨ rules.splits before after) :=
  delimits.boundaries t

end TextBoundary.Break.Sentence
