import TextBoundary.Proofs.Positions

namespace TextBoundary

theorem Units.length_dropLast_le (units : Units) (s : List Char) : units.length s.dropLast ≤ units.length s := by
  rcases List.eq_nil_or_concat' s with rfl | ⟨earlier, latest, rfl⟩
  · exact Nat.le_refl _
  · rw [List.dropLast_concat, length_append]
    exact Nat.le_add_right _ _

namespace Cursor

variable {kind : Kind} {units : Units} {c d e : Cursor kind units}

inductive Call
  | advance
  | absorb (matching extend : Mask)
  | setCurrent (current : Mask)
  | begin
  | commit
  | rollback
  deriving DecidableEq, Repr

namespace Call

def apply : Call → Cursor kind units → Except Fault (Cursor kind units)
  | advance, c => c.advance
  | absorb matching extend, c => c.absorb matching extend
  | setCurrent current, c => .ok (c.setCurrent current)
  | begin, c => c.begin
  | commit, c => c.commit
  | rollback, c => c.rollback

def isPlain : Call → Bool
  | begin | commit | rollback => false
  | advance | absorb .. | setCurrent _ => true

end Call

def run : List Call → Cursor kind units → Except Fault (Cursor kind units)
  | [], c => .ok c
  | call :: calls, c => do run calls (← call.apply c)

/-- The characters accepted and not undone since, and those of them that there were at the last begin. -/
structure Trail where
  taken : List Char
  kept : List Char

namespace Trail

def next (kind : Kind) (ahead : List Char) (trail : Trail) : Call → Trail
  | .advance => { trail with taken := trail.taken ++ (ahead.drop trail.taken.length).take 1 }
  | .absorb matching extend =>
    { trail with taken := trail.taken ++ kind.absorbed matching extend (ahead.drop trail.taken.length) }
  | .setCurrent _ => trail
  | .begin => { trail with kept := trail.taken }
  | .commit => trail
  | .rollback => { trail with taken := trail.kept }

def ofCalls (kind : Kind) (ahead : List Char) (calls : List Call) : Trail := calls.foldl (next kind ahead) ⟨[], []⟩

end Trail

structure Behind (kind : Kind) (units : Units) (offset : Nat) (ahead taken : List Char) (place : Place) : Prop where
  ahead_eq : ahead = taken ++ place.ahead
  position_eq : place.position = offset + units.length taken
  start_eq : place.start = offset + units.length taken.dropLast
  lookahead_eq : place.lookahead = kind.lookahead place.ahead

structure Follows (offset : Nat) (ahead : List Char) (trail : Trail) (c : Cursor kind units) : Prop where
  here : Behind kind units offset ahead trail.taken c.toPlace
  saved : ∀ place ∈ c.saved, Behind kind units offset ahead trail.kept place
  offset_eq : c.offset = offset
  length_eq : c.length = offset + units.length ahead

variable {offset rounds : Nat} {mask matching extend : Mask} {ahead taken kept : List Char} {trail : Trail} {call : Call}
  {calls : List Call}

theorem of_begin (h : c.begin = .ok d) : c.saved = none ∧ d = c.begun := by
  cases hsaved : c.saved with
  | none =>
    rw [Cursor.begin, hsaved] at h
    exact ⟨rfl, (Except.ok.inj h).symm⟩
  | some place =>
    rw [Cursor.begin, hsaved] at h
    cases h

theorem of_commit (h : c.commit = .ok d) : d = c.closed := by
  cases hsaved : c.saved with
  | none =>
    rw [Cursor.commit, hsaved] at h
    cases h
  | some place =>
    rw [Cursor.commit, hsaved] at h
    exact (Except.ok.inj h).symm

theorem of_rollback (h : c.rollback = .ok d) :
    ∃ place, c.saved = some place ∧ d = { c with toPlace := place, saved := none } := by
  cases hsaved : c.saved with
  | none =>
    rw [Cursor.rollback, hsaved] at h
    cases h
  | some place =>
    rw [Cursor.rollback, hsaved] at h
    exact ⟨place, rfl, (Except.ok.inj h).symm⟩

theorem of_advance (h : c.advance = .ok d) : ∃ ch, Moved [ch] c d ∧ d.start = c.position := by
  cases hahead : c.ahead with
  | nil =>
    rw [Cursor.advance, hahead] at h
    cases h
  | cons ch rest =>
    obtain ⟨e, he, hce, -, hstart, -⟩ := advance_spec hahead
    obtain rfl := Except.ok.inj (he.symm.trans h)
    exact ⟨ch, hce, hstart⟩

theorem Ready.of_absorb (h : c.Ready) (hd : c.absorb matching extend = .ok d) :
    Moved (kind.absorbed matching extend c.ahead) c d := by
  obtain ⟨e, he, hce, -⟩ := absorb_spec matching extend h
  obtain rfl := Except.ok.inj (he.symm.trans hd)
  exact hce

namespace Follows

theorem before (length offset : Nat) (h : length = offset + units.length ahead) :
    Follows offset ahead ⟨[], []⟩ (Cursor.before length offset ahead : Cursor kind units) :=
  ⟨⟨rfl, rfl, rfl, rfl⟩, (fun _ h => nomatch h), rfl, h⟩

theorem ready (h : Follows offset ahead trail c) : c.Ready where
  offset_le := by
    rw [h.offset_eq, h.here.position_eq]
    exact Nat.le_add_right _ _
  length_eq := by
    rw [h.length_eq, h.here.position_eq, h.here.ahead_eq, Units.length_append, Nat.add_assoc]
  lookahead_eq := h.here.lookahead_eq

theorem drop_eq (h : Follows offset ahead trail c) : ahead.drop trail.taken.length = c.ahead := by
  rw [h.here.ahead_eq, List.drop_left]

theorem advance (h : Follows offset ahead ⟨taken, kept⟩ c) (hd : c.advance = .ok d) :
    ∃ ch, c.ahead = ch :: d.ahead ∧ Follows offset ahead ⟨taken ++ [ch], kept⟩ d := by
  obtain ⟨ch, hcd, hstart⟩ := of_advance hd
  refine ⟨ch, hcd.ahead_eq, ⟨?_, ?_, ?_, hcd.lookahead_eq⟩, ?_, ?_, ?_⟩
  · rw [h.here.ahead_eq, hcd.ahead_eq, List.append_assoc]
  · rw [hcd.position_eq, h.here.position_eq, Units.length_append, Nat.add_assoc]
  · rw [hstart, h.here.position_eq, List.dropLast_concat]
  · exact hcd.saved_eq ▸ h.saved
  · exact hcd.offset_eq.trans h.offset_eq
  · exact hcd.length_eq.trans h.length_eq

theorem setCurrent (h : Follows offset ahead trail c) (current : Mask) :
    Follows offset ahead trail (c.setCurrent current) :=
  ⟨⟨h.here.ahead_eq, h.here.position_eq, h.here.start_eq, h.here.lookahead_eq⟩, h.saved, h.offset_eq, h.length_eq⟩

theorem skipWhile (h : Follows offset ahead ⟨taken, kept⟩ c) (hd : c.skipWhile mask rounds = .ok d) :
    ∃ run, c.ahead = run ++ d.ahead ∧ Follows offset ahead ⟨taken ++ run, kept⟩ d := by
  induction rounds generalizing c taken with
  | zero =>
    rw [Cursor.skipWhile] at hd
    split at hd
    case isTrue => cases hd
    case isFalse =>
      obtain rfl := Except.ok.inj hd
      exact ⟨[], rfl, by rwa [List.append_nil]⟩
  | succ rounds ih =>
    rw [Cursor.skipWhile] at hd
    split at hd
    case isTrue =>
      obtain ⟨e, he, hd⟩ := exists_of_bind_ok hd
      obtain ⟨ch, hahead, he⟩ := h.advance he
      obtain ⟨run, hrun, hfollows⟩ := ih he hd
      exact ⟨ch :: run, by rw [hahead, hrun, List.cons_append], by simpa using hfollows⟩
    case isFalse =>
      obtain rfl := Except.ok.inj hd
      exact ⟨[], rfl, by rwa [List.append_nil]⟩

theorem skipRuns (h : Follows offset ahead ⟨taken, kept⟩ c) (hd : c.skipRuns matching extend rounds = .ok d) :
    ∃ run, c.ahead = run ++ d.ahead ∧ Follows offset ahead ⟨taken ++ run, kept⟩ d := by
  induction rounds generalizing c taken with
  | zero =>
    rw [Cursor.skipRuns] at hd
    split at hd
    case isTrue => cases hd
    case isFalse =>
      obtain rfl := Except.ok.inj hd
      exact ⟨[], rfl, by rwa [List.append_nil]⟩
  | succ rounds ih =>
    rw [Cursor.skipRuns] at hd
    split at hd
    case isTrue =>
      obtain ⟨e, he, hd⟩ := exists_of_bind_ok hd
      obtain ⟨g, hg, hd⟩ := exists_of_bind_ok hd
      obtain ⟨ch, hahead, he⟩ := h.advance he
      obtain ⟨more, hmore, hg⟩ := he.skipWhile hg
      obtain ⟨run, hrun, hfollows⟩ := ih hg hd
      exact ⟨ch :: (more ++ run), by rw [hahead, hmore, hrun]; simp, by simpa using hfollows⟩
    case isFalse =>
      obtain rfl := Except.ok.inj hd
      exact ⟨[], rfl, by rwa [List.append_nil]⟩

theorem absorb (h : Follows offset ahead trail c) (hd : c.absorb matching extend = .ok d) :
    Follows offset ahead { trail with taken := trail.taken ++ kind.absorbed matching extend c.ahead } d := by
  have hcd := h.ready.of_absorb hd
  obtain ⟨e, he, hd⟩ := exists_of_bind_ok hd
  obtain ⟨run, hrun, hfollows⟩ := h.skipRuns he
  obtain rfl := Except.ok.inj hd
  have heq : run = kind.absorbed matching extend c.ahead := List.append_cancel_right (hrun.symm.trans hcd.ahead_eq)
  exact heq ▸ hfollows.setCurrent _

theorem apply (h : Follows offset ahead trail c) (hd : call.apply c = .ok d) :
    Follows offset ahead (trail.next kind ahead call) d := by
  cases call with
  | advance =>
    obtain ⟨ch, hahead, hfollows⟩ := h.advance hd
    rw [Trail.next, h.drop_eq, hahead]
    exact hfollows
  | absorb matching extend =>
    rw [Trail.next, h.drop_eq]
    exact h.absorb hd
  | setCurrent current =>
    obtain rfl := Except.ok.inj hd
    exact h.setCurrent current
  | begin =>
    obtain ⟨-, rfl⟩ := of_begin hd
    exact ⟨h.here, fun _ hplace => Option.some.inj hplace ▸ h.here, h.offset_eq, h.length_eq⟩
  | commit =>
    obtain rfl := of_commit hd
    exact ⟨h.here, (fun _ hplace => nomatch hplace), h.offset_eq, h.length_eq⟩
  | rollback =>
    obtain ⟨place, hplace, rfl⟩ := of_rollback hd
    exact ⟨h.saved place hplace, (fun _ hplace => nomatch hplace), h.offset_eq, h.length_eq⟩

theorem run (h : Follows offset ahead trail c) (hd : Cursor.run calls c = .ok d) :
    Follows offset ahead (calls.foldl (Trail.next kind ahead) trail) d := by
  induction calls generalizing c trail with
  | nil =>
    obtain rfl := Except.ok.inj hd
    exact h
  | cons call calls ih =>
    obtain ⟨e, he, hd⟩ := exists_of_bind_ok hd
    exact ih (h.apply he) hd

end Follows

theorem Ready.exists_moved (h : c.Ready) (hplain : call.isPlain) (hd : call.apply c = .ok d) : ∃ run, Moved run c d := by
  cases call with
  | advance =>
    obtain ⟨ch, hcd, -⟩ := of_advance hd
    exact ⟨[ch], hcd⟩
  | absorb matching extend => exact ⟨_, h.of_absorb hd⟩
  | setCurrent current =>
    obtain rfl := Except.ok.inj hd
    exact ⟨[], (Moved.refl h).setCurrent current⟩
  | begin => exact nomatch hplain
  | commit => exact nomatch hplain
  | rollback => exact nomatch hplain

theorem Ready.exists_moved_run (h : c.Ready) (hplain : ∀ call ∈ calls, call.isPlain) (hd : run calls c = .ok d) :
    ∃ passed, Moved passed c d := by
  induction calls generalizing c with
  | nil =>
    obtain rfl := Except.ok.inj hd
    exact ⟨[], .refl h⟩
  | cons call calls ih =>
    obtain ⟨hcall, hcalls⟩ := List.forall_mem_cons.mp hplain
    obtain ⟨e, he, hd⟩ := exists_of_bind_ok hd
    obtain ⟨passed, hce⟩ := h.exists_moved hcall he
    obtain ⟨more, hed⟩ := ih (hce.ready h) hcalls hd
    exact ⟨passed ++ more, hce.trans hed⟩

theorem Ready.rollback_run (h : c.Ready) (hplain : ∀ call ∈ calls, call.isPlain)
    (hd : run (.begin :: calls) c = .ok d) : d.rollback = .ok c := by
  obtain ⟨e, he, hd⟩ := exists_of_bind_ok hd
  obtain ⟨hsaved, rfl⟩ := of_begin he
  obtain ⟨passed, hmoved⟩ := h.begun.exists_moved_run hplain hd
  exact rollback_of_moved hsaved hmoved

theorem absorb_of_not_meets (h : c.lookahead.meets matching = false) : c.absorb matching extend = .ok c := by
  rw [Cursor.absorb, Cursor.skipRuns.eq_def, h]
  rfl

/-- What holds of a cursor whatever calls were made, if `taken` are the characters accepted and not undone since. -/
structure Invariant (t : Text) (offset : Nat) (taken : List Char) (c : Cursor kind t.units) : Prop where
  offset_eq : c.offset = offset
  offset_le_start : offset ≤ c.start
  start_le_position : c.start ≤ c.position
  position_le_length : c.position ≤ t.length
  isBoundary_position : t.isBoundary c.position
  lookahead_eq : c.lookahead = ((t.charAt? c.position).map fun ch => kind.category ch.toNat).getD .empty
  lookahead_eq_empty_iff : c.lookahead = .empty ↔ c.position = t.length
  -- the latest character starts behind those before it
  hasAccepted_iff : c.hasAccepted ↔ ∃ earlier latest, taken = earlier ++ [latest] ∧ offset < offset + t.units.length earlier

def RunsOver (kind : Kind) (t : Text) (matching extend : Mask) (start stop : Nat) : Prop :=
  ∃ before passed rest, t.chars = before ++ (passed ++ rest) ∧ start = t.units.length before
    ∧ stop = t.units.length (before ++ passed) ∧ (∀ ch ∈ passed, kind.has matching ch ∨ kind.has extend ch)
    ∧ ∀ ch ∈ rest.head?, ¬(kind.has matching ch ∨ kind.has extend ch)

theorem lookahead_eq_empty_iff (kind : Kind) (ahead : List Char) : kind.lookahead ahead = .empty ↔ ahead = [] := by
  cases ahead with
  | nil => exact iff_of_true rfl rfl
  | cons ch rest => exact iff_of_false (kind.category_ne_empty ch.toNat) (List.cons_ne_nil ch rest)

namespace Follows

variable {t : Text} {before : List Char} {c d : Cursor kind t.units}

theorem chars_eq (h : Follows (t.units.length before) ahead trail c) (ht : t.chars = before ++ ahead) :
    t.chars = (before ++ trail.taken) ++ c.ahead ∧ c.position = t.units.length (before ++ trail.taken) := by
  rw [ht, h.here.ahead_eq, List.append_assoc, h.here.position_eq, Units.length_append]
  exact ⟨rfl, rfl⟩

theorem invariant (h : Follows (t.units.length before) ahead trail c) (ht : t.chars = before ++ ahead) :
    Invariant t (t.units.length before) trail.taken c := by
  obtain ⟨hchars, hposition⟩ := h.chars_eq ht
  have hlength : t.length = c.position + t.units.length c.ahead := by rw [hposition, Text.length_eq hchars]
  have hempty : t.units.length c.ahead = 0 ↔ c.ahead = [] := Units.length_eq_zero
  have hstart := h.here.start_eq
  have hplace := h.here.position_eq
  refine ⟨h.offset_eq, ?_, ?_, ?_, ?_, ?_, ?_, ?_⟩
  · omega
  · have hlatest := t.units.length_dropLast_le trail.taken
    omega
  · omega
  · rw [hposition]
    exact Text.isBoundary_eq hchars
  · rw [hposition, Text.charAt?, Text.suffix?_eq hchars, h.here.lookahead_eq]
    cases c.ahead <;> rfl
  · rw [h.here.lookahead_eq, lookahead_eq_empty_iff, ← hempty]
    omega
  · rw [hasAccepted, decide_eq_true_iff, h.offset_eq, hstart]
    rcases List.eq_nil_or_concat' trail.taken with hnil | ⟨earlier, latest, htaken⟩
    · simp [hnil, Units.length]
    · rw [htaken, List.dropLast_concat]
      constructor
      · exact fun hlt => ⟨earlier, latest, rfl, hlt⟩
      · rintro ⟨others, last, heq, hlt⟩
        rwa [(List.append_inj' heq rfl).1]

theorem runsOver (h : Follows (t.units.length before) ahead trail c) (ht : t.chars = before ++ ahead)
    (hmeets : c.lookahead.meets matching) (hd : c.absorb matching extend = .ok d) :
    RunsOver kind t matching extend c.position d.position := by
  obtain ⟨hchars, hposition⟩ := h.chars_eq ht
  have hcd := h.ready.of_absorb hd
  have hover : kind.absorbed matching extend c.ahead = c.ahead.takeWhile (kind.has (matching ||| extend)) := by
    rw [h.ready.meets, Kind.hasNext_iff] at hmeets
    obtain ⟨ch, rest, hahead, hch⟩ := hmeets
    rw [hahead, Kind.absorbed, if_pos hch, List.takeWhile_cons_of_pos (by simp [hch])]
  rw [hover] at hcd
  refine ⟨_, _, d.ahead, hcd.ahead_eq ▸ hchars, hposition, ?_, fun ch hch => ?_, fun ch hch => ?_⟩
  · rw [hcd.position_eq, hposition, Units.length_append _ (before ++ trail.taken)]
  · simpa using Kind.has_of_mem_takeWhile hch
  · have hnext := kind.hasNext_dropWhile (matching ||| extend) c.ahead
    rw [← hcd.takeWhile_ahead, Kind.hasNext, Option.mem_def.mp hch] at hnext
    simpa using hnext

end Follows

/-- Between any calls that do not fault, a cursor stands at a boundary behind the latest character that was accepted
and not undone since, and has the next one's category. A rollback behind calls that leave transactions alone brings
back the whole cursor, and `absorb` goes over one longest run if the next character is one of those to look for. -/
theorem calls_keep_invariant {t : Text} {offset : Nat} (h : t.isBoundary offset) (kind : Kind) (calls : List Call)
    {c : Cursor kind t.units} (hrun : run calls (ofText kind t offset) = .ok c) :
    Invariant t offset (Trail.ofCalls kind ((t.suffix? offset).getD []) calls).taken c
    ∧ (∀ plain d, (∀ call ∈ plain, call.isPlain) → run (.begin :: plain) c = .ok d → d.rollback = .ok c)
    ∧ ∀ matching extend, ∃ d, c.absorb matching extend = .ok d ∧ d.current = c.current
      ∧ (c.lookahead.meets matching = false → d = c)
      ∧ (c.lookahead.meets matching → RunsOver kind t matching extend c.position d.position) := by
  obtain ⟨before, ahead, ht, rfl⟩ := Text.exists_cut h
  have hstart : ofText kind t (t.units.length before) = Cursor.before t.length (t.units.length before) ahead := by
    rw [ofText, Text.suffix?_eq ht, Option.getD_some]
  rw [hstart] at hrun
  have hfollows := (Follows.before _ _ (Text.length_eq ht)).run hrun
  refine ⟨?_, fun plain d hplain hd => hfollows.ready.rollback_run hplain hd, fun matching extend => ?_⟩
  · rw [Text.suffix?_eq ht, Option.getD_some]
    exact hfollows.invariant ht
  · obtain ⟨d, hd, -, hcurrent⟩ := absorb_spec matching extend hfollows.ready
    refine ⟨d, hd, hcurrent, fun hmeets => ?_, fun hmeets => hfollows.runsOver ht hmeets hd⟩
    exact Except.ok.inj (hd.symm.trans (absorb_of_not_meets hmeets))

theorem marks_absorbed_behind_rollback :
    let t : Text := ⟨.bytes, ['é', 'a', '\u0301', '\u0302', 'b']⟩
    let marks := GraphemeBreak.extend
    let calls : List Call := [.advance, .begin, .advance, .rollback, .absorb marks .empty]
    t.isBoundary 2 ∧ ∃ c, run calls (ofText .grapheme t 2) = .ok c ∧ c.position = 7 ∧ c.hasAccepted
      ∧ Invariant t 2 ['a', '\u0301', '\u0302'] c
      ∧ (∃ d, run [.begin, .setCurrent marks, .advance] c = .ok d ∧ d.atEnd ∧ d.rollback = .ok c)
      ∧ ∃ d, c.absorb GraphemeBreak.other marks = .ok d ∧ RunsOver .grapheme t GraphemeBreak.other marks 7 d.position := by
  intro t marks calls
  let other := GraphemeBreak.other
  let c : Cursor .grapheme .bytes :=
    { position := 7, start := 5, current := other, lookahead := other, ahead := ['b'], again := ['\u0302', 'b']
      length := 8, offset := 2, saved := none }
  have hc : run calls (ofText .grapheme t 2) = .ok c := by decide +kernel
  have h : t.isBoundary 2 := by decide
  obtain ⟨hinvariant, hrollback, habsorb⟩ := calls_keep_invariant h .grapheme calls hc
  have htaken : (Trail.ofCalls .grapheme ((t.suffix? 2).getD []) calls).taken = ['a', '\u0301', '\u0302'] := by
    decide +kernel
  refine ⟨h, c, hc, rfl, by decide, htaken ▸ hinvariant, ?_, ?_⟩
  · obtain ⟨d, hd, hatEnd⟩ : ∃ d, run [.begin, .setCurrent marks, .advance] c = .ok d ∧ d.atEnd := ⟨_, rfl, by decide⟩
    exact ⟨d, hd, hatEnd, hrollback _ d (by decide) hd⟩
  · obtain ⟨d, hd, -, -, hover⟩ := habsorb other marks
    exact ⟨d, hd, hover (by decide)⟩

end Cursor
end TextBoundary
