import TextBoundary.Break
import TextBoundary.Proofs.CursorLaws

/-! From the passes of a scan to its end. A predicate `split` tells where a text is split; the
characters before the position are given nearest first. If every pass goes over a run without a split
and stops only at a split, then a scan ends at the first split. -/

namespace TextBoundary

variable {split : List Char → List Char → Bool} {back run more rest ahead : List Char}

def Joined (split : List Char → List Char → Bool) (back run rest : List Char) : Prop :=
  ∀ u v, run = u ++ v → u ≠ [] → v ≠ [] → split (u.reverse ++ back) (v ++ rest) = false

def Held (split : List Char → List Char → Bool) : List Char → List Char → List Char → Prop
  | _, [], _ => True
  | back, c :: run, rest => split back (c :: (run ++ rest)) = false ∧ Held split (c :: back) run rest

/-- Past the first character of `ahead` it makes no difference what stood before. -/
def Restarts (split : List Char → List Char → Bool) (back ahead : List Char) : Prop :=
  ∀ u v, ahead = u ++ v → u ≠ [] → v ≠ [] → split (u.reverse ++ back) v = split u.reverse v

/-- `run` reaches from the front of `ahead` to the first split, or to the end. -/
structure Segment (split : List Char → List Char → Bool) (back ahead run rest : List Char) :
    Prop where
  ahead_eq : ahead = run ++ rest
  ne_nil : ahead ≠ [] → run ≠ []
  joined : Joined split back run rest
  ends : rest = [] ∨ split (run.reverse ++ back) rest

theorem Held.split_eq (h : Held split back run rest) {u v : List Char} (heq : run = u ++ v)
    (hv : v ≠ []) : split (u.reverse ++ back) (v ++ rest) = false := by
  induction run generalizing back u with
  | nil => exact (hv (List.append_eq_nil_iff.mp heq.symm).2).elim
  | cons c run ih =>
    cases u with
    | nil =>
      rw [List.nil_append] at heq
      exact heq ▸ h.1
    | cons d u =>
      obtain ⟨rfl, rfl⟩ := List.cons.inj heq
      simpa using ih h.2 rfl

theorem Held.append (hrun : Held split back run (more ++ rest))
    (hmore : Held split (run.reverse ++ back) more rest) : Held split back (run ++ more) rest := by
  induction run generalizing back with
  | nil => exact hmore
  | cons c run ih =>
    refine ⟨by simpa using hrun.1, ih hrun.2 ?_⟩
    simpa using hmore

theorem Held.of_mask {kind : Kind} {mask barrier : Mask} {a : Char}
    (hsplit : ∀ {a b back ahead}, kind.has barrier a = false → kind.has mask b →
      split (a :: back) (b :: ahead) = false)
    (hapart : kind.apart mask barrier) (ha : kind.has barrier a = false)
    (hrun : ∀ x ∈ run, kind.has mask x) : Held split (a :: back) run rest := by
  induction run generalizing a back with
  | nil => trivial
  | cons x run ih =>
    obtain ⟨hx, hrun⟩ := List.forall_mem_cons.mp hrun
    exact ⟨hsplit ha hx, ih (Kind.not_has_of_apart hapart hx) hrun⟩

theorem Held.joined {c : Char} (h : Held split (c :: back) run rest) :
    Joined split back (c :: run) rest := by
  intro u v heq hu hv
  obtain ⟨d, u, rfl⟩ := List.exists_cons_of_ne_nil hu
  obtain ⟨rfl, rfl⟩ := List.cons.inj heq
  simpa using h.split_eq rfl hv

theorem Joined.nil : Joined split back [] rest := by
  intro u v h hu
  simp_all

theorem Joined.singleton {c : Char} : Joined split back [c] rest := by
  intro u v h hu hv
  cases u with
  | nil => exact (hu rfl).elim
  | cons d u => simp_all

theorem Joined.append (hrun : Joined split back run (more ++ rest))
    (hmore : Joined split (run.reverse ++ back) more rest)
    (h : run ≠ [] → more ≠ [] → split (run.reverse ++ back) (more ++ rest) = false) :
    Joined split back (run ++ more) rest := by
  intro u v heq hu hv
  rcases List.append_eq_append_iff.mp heq with ⟨w, rfl, rfl⟩ | ⟨w, rfl, rfl⟩
  · -- the position is inside or at the front of `more`
    cases w with
    | nil => simpa using h (by simpa using hu) (by simpa using hv)
    | cons x w => simpa using hmore (x :: w) v rfl (by simp) hv
  · cases w with
    | nil => simpa using h (by simpa using hu) (by simpa using hv)
    | cons x w => simpa using hrun u (x :: w) rfl hu (by simp)

theorem Joined.of_restarts (hj : Joined split [] run rest) (hr : Restarts split back (run ++ rest)) :
    Joined split back run rest := by
  intro u v heq hu hv
  rw [hr u (v ++ rest) (by simp [heq]) hu (by simp [hv])]
  simpa using hj u v heq hu hv

theorem Restarts.nil : Restarts split [] ahead := by
  intro u v _ _ _
  rw [List.append_nil]

theorem Restarts.at_end : Restarts split back [] := by
  intro u v heq hu
  simp_all

theorem Restarts.trans (h : Restarts split back (run ++ ahead))
    (h' : Restarts split run.reverse ahead) : Restarts split (run.reverse ++ back) ahead := by
  intro u v heq hu hv
  have hlong := h (run ++ u) v (by simp [heq]) (by simp [hu]) hv
  rw [List.reverse_append, List.append_assoc] at hlong
  rw [hlong]
  exact h' u v heq hu hv

namespace Segment

theorem of_restarts (h : Segment split [] ahead run rest) (hr : Restarts split back ahead) :
    Segment split back ahead run rest where
  ahead_eq := h.ahead_eq
  ne_nil := h.ne_nil
  joined := h.joined.of_restarts (h.ahead_eq ▸ hr)
  ends := by
    by_cases hrest : rest = []
    · exact .inl hrest
    have hrun : run ≠ [] := h.ne_nil (by simp [h.ahead_eq, hrest])
    rw [hr run rest h.ahead_eq hrun hrest]
    simpa using h.ends

theorem extend {behind : List Char} (h : Segment split (run.reverse ++ back) behind more rest) (hne : run ≠ [])
    (hj : Joined split [] run behind) (hr : Restarts split back (run ++ behind))
    (hend : behind ≠ [] → split run.reverse behind = false) :
    Segment split back (run ++ behind) (run ++ more) rest where
  ahead_eq := by rw [h.ahead_eq, List.append_assoc]
  ne_nil := fun _ => by simp [hne]
  joined := by
    obtain rfl := h.ahead_eq
    refine (hj.of_restarts hr).append h.joined fun _ hmore => ?_
    have hbehind : more ++ rest ≠ [] := by simp [hmore]
    rw [hr run _ rfl hne hbehind]
    exact hend hbehind
  ends := by
    rw [List.reverse_append, List.append_assoc]
    exact h.ends

end Segment

/-- A text is split behind each character of `ends`, unless `first` and `second` make a pair of it and the next one. -/
structure Kind.Ends (kind : Kind) (split : List Char → List Char → Bool) (first second ends : Mask) : Prop where
  pair {a b : Char} {rest : List Char} : kind.has first a → kind.has second b → split [a] (b :: rest) = false
  behind {a b : Char} {back rest : List Char} : kind.has ends a →
    (kind.has first a && kind.has second b) = false → split (a :: back) (b :: rest)
  within : kind.within second ends
  apart : kind.apart second first

namespace Cursor

variable {kind : Kind} {units : Units}

/-- What may come of a pass over a run of the characters ahead of `c`. It may go on past the run, also
where the run should have ended if the next pass undoes itself at once. -/
inductive Passed (split : List Char → List Char → Bool) (barrier : Mask) (c : Cursor kind units) :
    Except Fault (Step (Cursor kind units)) → Prop
  | again {run : List Char} {d : Cursor kind units} : Moved run c d → run ≠ [] →
      Joined split [] run d.ahead → Restarts split run.reverse d.ahead →
      (d.ahead ≠ [] → split run.reverse d.ahead = false ∧ kind.hasNext barrier d.ahead = false) →
      Passed split barrier c (.ok (.again d))
  | undone {run : List Char} {d e : Cursor kind units} : Moved run c d → run ≠ [] →
      Joined split [] run d.ahead → split run.reverse d.ahead → kind.pass d = .ok (.stop e) →
      e.position = d.position → e.ahead = d.ahead → Passed split barrier c (.ok (.again d))
  | stop {run : List Char} {d : Cursor kind units} : Moved run c d → run ≠ [] →
      Joined split [] run d.ahead → (d.ahead = [] ∨ split run.reverse d.ahead) →
      Passed split barrier c (.ok (.stop d))

section Stop

variable {barrier : Mask} {c d : Cursor kind units}

theorem Passed.again_before {b : Char} (hcd : Moved run c d) (hne : run ≠ []) (hj : Joined split [] run d.ahead)
    (hahead : d.ahead = b :: rest) (hrestarts : Restarts split run.reverse (b :: rest))
    (hb : kind.has barrier b = false) (hsplit : split run.reverse (b :: rest) = false) :
    c.Passed split barrier (.ok (.again d)) := by
  rw [← hahead] at hrestarts hsplit
  apply Passed.again hcd hne hj hrestarts
  intro
  exact ⟨hsplit, by rw [hahead, Kind.hasNext_cons, hb]⟩

theorem Passed.stop_before (hcd : Moved run c d) (hne : run ≠ []) (hj : Joined split [] run d.ahead)
    (hsplit : ∀ b rest, d.ahead = b :: rest → split run.reverse (b :: rest)) :
    c.Passed split barrier (.ok (.stop d)) := by
  apply Passed.stop hcd hne hj
  cases hahead : d.ahead with
  | nil => exact .inl rfl
  | cons b rest => exact .inr (hsplit b rest hahead)

theorem Passed.stop_pair {a : Char} {first second ends : Mask} (E : kind.Ends split first second ends) (hc : c.Ready)
    (hcd : Moved [a] c d) (hpair : kind.has first a && kind.hasNext second d.ahead) :
    c.Passed split barrier (do return .stop (← d.advance)) := by
  obtain ⟨ha, hnext⟩ := Bool.and_eq_true_iff.mp hpair
  obtain ⟨b, rest, hahead, hb⟩ := Kind.hasNext_iff.mp hnext
  obtain ⟨e, he, hde, -⟩ := (hcd.ready hc).advance_spec hahead
  have hce : Moved [a, b] c e := hcd.trans hde
  rw [he]
  apply Passed.stop_before hce (by simp) (Held.joined ⟨E.pair ha hb, trivial⟩)
  intro x rest _
  apply E.behind (Kind.has_of_within E.within hb)
  rw [Kind.not_has_of_apart E.apart hb, Bool.false_and]

theorem Passed.stop_single {a : Char} {first second ends : Mask} (E : kind.Ends split first second ends)
    (hcd : Moved [a] c d) (ha : kind.has ends a) (hpair : ¬(kind.has first a && kind.hasNext second d.ahead)) :
    c.Passed split barrier (.ok (.stop d)) := by
  apply Passed.stop_before hcd (by simp) .singleton
  intro b rest hahead
  rw [hahead, Kind.hasNext_cons, Bool.not_eq_true] at hpair
  exact E.behind ha hpair

theorem not_hasAccepted {a : Char} (ha : kind.has barrier a) (hahead : c.ahead = a :: rest)
    (hb : c.position = c.offset ∨ kind.hasNext barrier c.ahead = false)
    (haccepted : d.hasAccepted = decide (c.offset < c.position)) : d.hasAccepted = false := by
  rw [hahead, Kind.hasNext_cons, ha] at hb
  have hstart : c.position = c.offset := hb.resolve_right (by simp)
  rw [haccepted, hstart, decide_eq_false_iff_not]
  exact Nat.lt_irrefl _

end Stop

theorem Passed.orElse {barrier : Mask} {joins : List Char → List Char → Prop} {c d : Cursor kind units}
    {trial : Except Fault (Trial (Cursor kind units))}
    {rules : Cursor kind units → Except Fault (Step (Cursor kind units))} (h : Tried joins d trial)
    (hjoined : ∀ run e, Moved run d e → joins run e.ahead → Passed split barrier c (.ok (.again e)))
    (hrefused : (∀ run rest, d.ahead = run ++ rest → ¬joins run rest) →
      Passed split barrier c (rules d)) :
    Passed split barrier c (trial >>= (·.orElse rules)) := by
  cases h with
  | joined hm hj => exact hjoined _ _ hm hj
  | refused hr => exact hrefused hr

theorem scan_atEnd {pass : Cursor kind units → Except Fault (Step (Cursor kind units))} {rounds : Nat}
    {c : Cursor kind units} (hc : c.Ready) (h : c.ahead = []) : c.scan pass rounds = .ok c := by
  rw [scan.eq_def, if_pos (hc.atEnd.mpr h)]

theorem scan_stop {pass : Cursor kind units → Except Fault (Step (Cursor kind units))} {rounds : Nat}
    {c d : Cursor kind units} (hc : c.Ready) (h : c.ahead ≠ []) (hr : c.ahead.length ≤ rounds)
    (hpass : pass c = .ok (.stop d)) : c.scan pass rounds = .ok d := by
  cases rounds with
  | zero => exact (h (List.eq_nil_of_length_eq_zero (Nat.le_zero.mp hr))).elim
  | succ rounds =>
    rw [scan, if_neg (mt hc.atEnd.mp h), hpass]
    rfl

theorem Moved.segment {c d : Cursor kind units} (h : Moved run c d) (hne : run ≠ [])
    (hj : Joined split [] run d.ahead) (hend : d.ahead = [] ∨ split run.reverse d.ahead)
    (hback : Restarts split back c.ahead) : Segment split back c.ahead run d.ahead :=
  have hseg : Segment split [] c.ahead run d.ahead := ⟨h.ahead_eq, fun _ => hne, hj, by simpa using hend⟩
  hseg.of_restarts hback

theorem Moved.length_le {c d : Cursor kind units} {rounds : Nat} (h : Moved run c d) (hne : run ≠ [])
    (hr : c.ahead.length ≤ rounds + 1) : d.ahead.length ≤ rounds := by
  have hpos := List.length_pos_of_ne_nil hne
  rw [h.ahead_eq, List.length_append] at hr
  omega

end Cursor

/-- The passes of a kind find the splits. A scan meets characters of the barrier only at its start. -/
structure Kind.Delimits (kind : Kind) (split : List Char → List Char → Bool) (barrier : Mask) :
    Prop where
  passed {units : Units} (c : Cursor kind units) (hc : c.Ready) (hs : c.saved = none)
    (ha : c.ahead ≠ []) (hb : c.position = c.offset ∨ kind.hasNext barrier c.ahead = false) :
    c.Passed split barrier (kind.pass c)
  restarts {a b : Char} {back ahead : List Char} (h : split (a :: back) (b :: ahead)) :
    Restarts split (a :: back) (b :: ahead)

namespace Kind.Delimits

open Cursor

variable {kind : Kind} {units : Units} {barrier : Mask}

theorem scan_spec (D : kind.Delimits split barrier) (rounds : Nat) (c : Cursor kind units)
    (back : List Char) (hc : c.Ready) (hs : c.saved = none) (hr : c.ahead.length ≤ rounds)
    (hb : c.position = c.offset ∨ kind.hasNext barrier c.ahead = false)
    (hback : Restarts split back c.ahead) :
    ∃ d run, c.scan kind.pass rounds = .ok d ∧ d.position = c.position + units.length run
      ∧ Segment split back c.ahead run d.ahead := by
  by_cases hnil : c.ahead = []
  · exact ⟨c, [], scan_atEnd hc hnil, rfl, rfl, fun h => (h hnil).elim, .nil, .inl hnil⟩
  induction rounds generalizing c back with
  | zero => exact (hnil (List.eq_nil_of_length_eq_zero (Nat.le_zero.mp hr))).elim
  | succ rounds ih =>
  rw [scan, if_neg (mt hc.atEnd.mp hnil)]
  have hpass := D.passed c hc hs hnil hb
  generalize kind.pass c = result at hpass
  cases hpass with
  | @stop run d hm hne hj hend => exact ⟨d, run, rfl, hm.position_eq, hm.segment hne hj hend hback⟩
  | @undone run d e hm hne hj hsplit hpass hpos hahead =>
    -- the pass went on over a split: the next one gives the position back, unless the text ends there
    have hseg := hm.segment hne hj (.inr hsplit) hback
    by_cases hd : d.ahead = []
    · exact ⟨d, run, scan_atEnd (hm.ready hc) hd, hm.position_eq, hseg⟩
    · exact ⟨e, run, scan_stop (hm.ready hc) hd (hm.length_le hne hr) hpass, hpos.trans hm.position_eq,
        hahead ▸ hseg⟩
  | @again run d hm hne hj hrestarts hnext =>
    -- what is behind the run restarts in front of the rest, so the hypothesis holds with all of it
    rw [hm.ahead_eq] at hback ⊢
    have hd := hm.ready hc
    by_cases hdone : d.ahead = []
    · refine ⟨d, run ++ [], scan_atEnd hd hdone, by simp [hm.position_eq], ?_⟩
      exact Segment.extend ⟨rfl, fun h => (h hdone).elim, .nil, .inl hdone⟩ hne hj hback (absurd hdone)
    · obtain ⟨hsplit, hbarrier⟩ := hnext hdone
      obtain ⟨e, more, he, hpos, hseg⟩ := ih d (run.reverse ++ back) hd (hm.saved_eq.trans hs)
        (hm.length_le hne hr) (.inr hbarrier) (hback.trans hrestarts) hdone
      refine ⟨e, run ++ more, he, ?_, hseg.extend hne hj hback fun _ => hsplit⟩
      rw [hpos, hm.position_eq, Units.length_append, Nat.add_assoc]

theorem find_spec (D : kind.Delimits split barrier) {length offset : Nat} {ahead : List Char}
    (h : length = offset + units.length ahead) :
    ∃ d run, (Cursor.before length offset ahead : Cursor kind units).find = .ok d
      ∧ d.position = offset + units.length run ∧ Segment split [] ahead run d.ahead := by
  have hc : (Cursor.before length offset ahead : Cursor kind units).Ready := .before length offset ahead h
  exact D.scan_spec _ _ [] hc rfl hc.length_le_remaining (.inl rfl) .nil

end Kind.Delimits
end TextBoundary
