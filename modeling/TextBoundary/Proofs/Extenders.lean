import TextBoundary.Proofs.RuleSet
import TextBoundary.Proofs.Scan

namespace TextBoundary

variable {kind : Kind} {units : Units}

theorem exists_last (c : Char) (run back : List Char) :
    ∃ d rest, (c :: run).reverse ++ back = d :: rest ∧ d ∈ c :: run := by
  rcases List.eq_nil_or_concat' run with rfl | ⟨w, d, rfl⟩
  · exact ⟨c, back, rfl, .head _⟩
  · exact ⟨d, (c :: w).reverse ++ back, by simp, by simp⟩

namespace RuleSet

variable {rules : RuleSet kind} {back run : List Char}

def Plain (rules : RuleSet kind) (back : List Char) : Prop :=
  ∃ c rest, back = c :: rest ∧ kind.has rules.anchors c = false

theorem Plain.append (h : rules.Plain back) (hrun : ∀ c ∈ run, kind.has rules.anchors c = false) :
    rules.Plain (run.reverse ++ back) := by
  rcases List.eq_nil_or_concat' run with rfl | ⟨w, c, rfl⟩
  · exact h
  · exact ⟨c, w.reverse ++ back, by simp, hrun c (by simp)⟩

end RuleSet

namespace Cursor

variable {rules : RuleSet kind} {c d : Cursor kind units} {a : Char} {back extenders run : List Char}

/-- A pass has accepted `a` with its extenders. -/
structure Accepted (rules : RuleSet kind) (c d : Cursor kind units) (a : Char) (extenders : List Char) :
    Prop where
  moved : Moved (a :: extenders) c d
  ready : d.Ready
  saved : d.saved = none
  current : d.current = kind.category a.toNat
  plain : kind.has rules.anchors a = false
  ignored : ∀ x ∈ extenders, kind.has rules.ignored x
  ends : kind.hasNext rules.ignored d.ahead = false

namespace Accepted

theorem reverse_eq (run : List Char) :
    (a :: extenders ++ run).reverse = run.reverse ++ (extenders.reverse ++ [a]) := by
  rw [List.reverse_append, List.reverse_cons]

variable (h : Accepted rules c d a extenders)
include h

theorem meets (mask : Mask) : d.current.meets mask = kind.has mask a := meets_of_current h.current mask

theorem next_eq {b : Char} {rest : List Char} (hahead : d.ahead = b :: rest) :
    d.lookahead = kind.category b.toNat := by
  rw [h.ready.lookahead_eq, hahead]
  rfl

theorem exists_next {rule : Mask → Mask → Bool} (hrule : rule d.current d.lookahead)
    (hempty : ∀ m, rule m .empty = false) :
    ∃ b rest, d.ahead = b :: rest ∧ rule (kind.category a.toNat) (kind.category b.toNat) := by
  cases hahead : d.ahead with
  | nil =>
    rw [h.ready.lookahead_eq, hahead, Kind.lookahead, hempty] at hrule
    exact Bool.noConfusion hrule
  | cons b rest =>
    rw [h.next_eq hahead, h.current] at hrule
    exact ⟨b, rest, rfl, hrule⟩

theorem trim : rules.trim (extenders.reverse ++ [a]) = [a] := by
  rw [RuleSet.trim_ignored (fun x hx => h.ignored x (List.mem_reverse.mp hx)) h.plain,
    RuleSet.trim_singleton]

theorem trim_pair {t : Char} {u : List Char} (ht : kind.has rules.ignored t = false)
    (hplain : kind.has rules.anchors t = false) (hu : ∀ x ∈ u, kind.has rules.ignored x) :
    rules.trim ((t :: u).reverse ++ (extenders.reverse ++ [a])) = [t, a] := by
  rw [List.reverse_cons, List.append_assoc, List.singleton_append,
    RuleSet.trim_ignored (fun x hx => hu x (List.mem_reverse.mp hx)) hplain,
    RuleSet.trim_cons (RuleSet.ignores_of_not_has ht), h.trim]

theorem back_plain : rules.Plain (extenders.reverse ++ [a]) :=
  RuleSet.Plain.append ⟨a, [], rfl, h.plain⟩ fun x hx =>
    Kind.not_has_of_apart rules.ignored_apart (h.ignored x hx)

theorem eq_of_mem {m : Mask} (hm : kind.apart rules.ignored m) (hrun : ∀ x ∈ run, kind.has m x = false)
    (y : Char) (hy : y ∈ run.reverse ++ (extenders.reverse ++ [a])) (hym : kind.has m y) : y = a := by
  simp only [List.mem_append, List.mem_reverse, List.mem_singleton] at hy
  rcases hy with hy | hy | hy
  · rw [hrun y hy] at hym
    exact Bool.noConfusion hym
  · rw [Kind.not_has_of_apart hm (h.ignored y hy)] at hym
    exact Bool.noConfusion hym
  · exact hy

end Accepted

/-- A character with its extenders that stands between one of `outer` and one of `target`. -/
def Across (kind : Kind) (ignored outer middle target : Mask) (a : Char) (run rest : List Char) : Prop :=
  kind.has outer a
    ∧ (∃ t u, run = t :: u ∧ kind.has middle t ∧ ∀ x ∈ u, kind.has ignored x)
    ∧ kind.hasNext target rest

theorem across_tried {ignored outer middle target : Mask} (hapart : kind.apart target ignored)
    (hd : d.Ready) (hs : d.saved = none) (hcur : d.current = kind.category a.toNat) :
    Tried (Across kind ignored outer middle target a) d
      (if d.current.meets outer && d.lookahead.meets middle then
        d.attempt fun c => do
          let c ← c.advance
          let c ← c.absorb ignored .empty
          return (c, c.lookahead.meets target)
      else .ok (.refused d)) := by
  rw [meets_of_current hcur, hd.meets]
  split
  case isFalse hfalse =>
    apply Tried.refused
    rintro run rest heq ⟨ha, ⟨t, u, rfl, ht, -⟩, -⟩
    exact hfalse (by rw [ha, heq, List.cons_append, Kind.hasNext_cons, ht]; rfl)
  case isTrue htrue =>
    obtain ⟨ha, hnext⟩ := Bool.and_eq_true_iff.mp htrue
    obtain ⟨t, rest, hahead, ht⟩ := Kind.hasNext_iff.mp hnext
    have hbr := hd.begun
    obtain ⟨e, he, hde, hrest, -⟩ := hbr.advance_spec hahead
    obtain ⟨f, hf, hef, hend, -⟩ := absorb_all_spec ignored (hde.ready hbr)
    have hfr := hef.ready (hde.ready hbr)
    apply Tried.attempt _ hs (by rw [he, ok_bind, hf, ok_bind]; rfl) (hde.trans hef)
    · intro hfound
      rw [hfr.meets] at hfound
      exact ⟨ha, ⟨t, _, rfl, ht, fun x => Kind.has_of_mem_takeWhile⟩, hfound⟩
    · rintro hlost run more heq ⟨-, ⟨s, u, rfl, -, hu⟩, hmore⟩
      rw [List.cons_append] at heq
      obtain ⟨rfl, rfl⟩ := List.cons.inj (hahead.symm.trans heq)
      rw [hfr.meets, hend, hrest, Kind.dropWhile_run hu (Kind.not_hasNext_of_apart hapart hmore),
        hmore] at hlost
      exact Bool.noConfusion hlost

theorem beside_tried {cond outer : Bool} {middle target : Mask} (hd : d.Ready) (hs : d.saved = none)
    (hcond : cond = (outer && kind.hasNext middle d.ahead)) :
    Tried (fun run rest => outer ∧ (∃ t, run = [t] ∧ kind.has middle t) ∧ kind.hasNext target rest) d
      (if cond then
        d.attempt fun c => do
          let c ← c.advance
          return (c, c.lookahead.meets target)
      else .ok (.refused d)) := by
  subst hcond
  split
  case isFalse hfalse =>
    apply Tried.refused
    rintro run rest heq ⟨houter, ⟨t, rfl, ht⟩, -⟩
    exact hfalse (by rw [houter, heq, List.singleton_append, Kind.hasNext_cons, ht]; rfl)
  case isTrue htrue =>
    obtain ⟨houter, hnext⟩ := Bool.and_eq_true_iff.mp htrue
    obtain ⟨t, rest, hahead, ht⟩ := Kind.hasNext_iff.mp hnext
    obtain ⟨e, he, hde, hrest, -⟩ := hd.begun.advance_spec hahead
    have her := hde.ready hd.begun
    apply Tried.attempt _ hs (by rw [he, ok_bind]; rfl) hde
    · intro hfound
      rw [her.meets] at hfound
      exact ⟨houter, ⟨t, rfl, ht⟩, hfound⟩
    · rintro hlost run more heq ⟨-, ⟨s, rfl, -⟩, hmore⟩
      obtain ⟨rfl, rfl⟩ := List.cons.inj (hahead.symm.trans heq)
      rw [her.meets, hrest, hmore] at hlost
      exact Bool.noConfusion hlost

end Cursor
end TextBoundary
