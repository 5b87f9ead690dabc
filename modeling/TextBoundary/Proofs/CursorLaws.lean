import TextBoundary.Cursor
import TextBoundary.Proofs.Vocabulary

namespace TextBoundary

@[simp] theorem ok_bind {ε α β : Type} (a : α) (f : α → Except ε β) : (Except.ok a >>= f) = f a := rfl

theorem exists_of_bind_ok {ε α β : Type} {x : Except ε α} {f : α → Except ε β} {b : β} (h : x >>= f = .ok b) :
    ∃ a, x = .ok a ∧ f a = .ok b := by
  cases x with
  | error e => exact nomatch h
  | ok a => exact ⟨a, rfl, h⟩

namespace Kind

def hasNext (kind : Kind) (mask : Mask) (ahead : List Char) : Bool := ahead.head?.any (kind.has mask)

@[simp] theorem hasNext_nil (kind : Kind) (mask : Mask) : kind.hasNext mask [] = false := rfl

@[simp] theorem hasNext_cons (kind : Kind) (mask : Mask) (c : Char) (ahead : List Char) :
    kind.hasNext mask (c :: ahead) = kind.has mask c := rfl

theorem hasNext_iff {kind : Kind} {mask : Mask} {ahead : List Char} :
    kind.hasNext mask ahead ↔ ∃ c rest, ahead = c :: rest ∧ kind.has mask c := by
  cases ahead <;> simp

@[simp] theorem hasNext_or (kind : Kind) (a b : Mask) (ahead : List Char) :
    kind.hasNext (a ||| b) ahead = (kind.hasNext a ahead || kind.hasNext b ahead) := by
  cases ahead <;> simp

theorem hasNext_append {kind : Kind} {mask : Mask} {run : List Char} (h : run ≠ []) (rest : List Char) :
    kind.hasNext mask (run ++ rest) = kind.hasNext mask run := by
  cases run with
  | nil => exact (h rfl).elim
  | cons c run => rfl

theorem not_hasNext_of_apart {kind : Kind} {a b : Mask} (h : kind.apart a b) {ahead : List Char}
    (ha : kind.hasNext a ahead) : kind.hasNext b ahead = false := by
  cases ahead with
  | nil => rfl
  | cons c ahead => exact not_has_of_apart h ha

theorem takeWhile_run {kind : Kind} {mask : Mask} {run rest : List Char}
    (hrun : ∀ c ∈ run, kind.has mask c) (hrest : kind.hasNext mask rest = false) :
    (run ++ rest).takeWhile (kind.has mask) = run := by
  rw [List.takeWhile_append_of_pos hrun]
  cases rest with
  | nil => simp
  | cons c rest => simp_all

theorem dropWhile_run {kind : Kind} {mask : Mask} {run rest : List Char}
    (hrun : ∀ c ∈ run, kind.has mask c) (hrest : kind.hasNext mask rest = false) :
    (run ++ rest).dropWhile (kind.has mask) = rest := by
  rw [List.dropWhile_append_of_pos hrun]
  cases rest with
  | nil => simp
  | cons c rest => simp_all

theorem not_hasNext_of_within {kind : Kind} {a b : Mask} (h : kind.within a b) {ahead : List Char}
    (hb : kind.hasNext b ahead = false) : kind.hasNext a ahead = false := by
  cases ahead with
  | nil => rfl
  | cons c ahead => exact Bool.eq_false_iff.mpr (mt (has_of_within h) (by simpa using hb))

theorem takeWhile_of_not_hasNext {kind : Kind} {mask : Mask} {ahead : List Char}
    (h : kind.hasNext mask ahead = false) : ahead.takeWhile (kind.has mask) = [] :=
  takeWhile_run (List.forall_mem_nil _) h

theorem dropWhile_of_not_hasNext {kind : Kind} {mask : Mask} {ahead : List Char}
    (h : kind.hasNext mask ahead = false) : ahead.dropWhile (kind.has mask) = ahead :=
  dropWhile_run (List.forall_mem_nil _) h

theorem has_of_mem_takeWhile {kind : Kind} {mask : Mask} {c : Char} {ahead : List Char}
    (h : c ∈ ahead.takeWhile (kind.has mask)) : kind.has mask c :=
  List.all_eq_true.mp List.all_takeWhile c h

def absorbed (kind : Kind) (matching extend : Mask) : List Char → List Char
  | [] => []
  | c :: ahead =>
    if kind.has matching c then c :: ahead.takeWhile (kind.has (matching ||| extend)) else []

theorem takeWhile_append_absorbed (kind : Kind) (matching extend : Mask) (ahead : List Char) :
    ahead.takeWhile (kind.has extend)
        ++ kind.absorbed matching extend (ahead.dropWhile (kind.has extend))
      = ahead.takeWhile (kind.has (matching ||| extend)) := by
  induction ahead with
  | nil => rfl
  | cons c ahead ih =>
    cases he : kind.has extend c with
    | true => simpa [he] using ih
    | false => cases hm : kind.has matching c <;> simp [absorbed, he, hm]

theorem absorbed_empty (kind : Kind) (mask : Mask) (ahead : List Char) :
    kind.absorbed mask .empty ahead = ahead.takeWhile (kind.has mask) := by
  have hmask : kind.has (mask ||| .empty) = kind.has mask := by
    funext c
    rw [has_or, has_empty, Bool.or_false]
  cases ahead with
  | nil => rfl
  | cons c ahead => cases hc : kind.has mask c <;> simp [absorbed, hc, hmask]

theorem absorbed_of_not_hasNext {kind : Kind} {matching extend : Mask} {ahead : List Char}
    (h : kind.hasNext extend ahead = false) :
    kind.absorbed matching extend ahead = ahead.takeWhile (kind.has (matching ||| extend)) := by
  rw [← takeWhile_append_absorbed, takeWhile_of_not_hasNext h, dropWhile_of_not_hasNext h,
    List.nil_append]

theorem hasNext_dropWhile (kind : Kind) (mask : Mask) (ahead : List Char) :
    kind.hasNext mask (ahead.dropWhile (kind.has mask)) = false := by
  induction ahead with
  | nil => rfl
  | cons c ahead ih => cases hc : kind.has mask c <;> simp [hc, ih]

end Kind

namespace Units

theorem length_eq_zero {units : Units} {s : List Char} : units.length s = 0 ↔ s = [] := by
  cases s with
  | nil => simp [length]
  | cons c s =>
    have := units.size_pos c
    simp only [length, reduceCtorEq, iff_false]
    omega

theorem length_le (units : Units) (s : List Char) : s.length ≤ units.length s := by
  induction s with
  | nil => exact Nat.zero_le _
  | cons c s ih =>
    have := units.size_pos c
    simp only [List.length_cons, length]
    omega

end Units

namespace Cursor

variable {kind : Kind} {units : Units} {c d e : Cursor kind units} {run more : List Char}

/-- The cursor stands before its characters, and these reach to the end of the text. -/
structure Ready (c : Cursor kind units) : Prop where
  offset_le : c.offset ≤ c.position
  length_eq : c.length = c.position + units.length c.ahead
  lookahead_eq : c.lookahead = kind.lookahead c.ahead

/-- The way from one cursor to another over a run of characters. -/
structure Moved (run : List Char) (c d : Cursor kind units) : Prop where
  ahead_eq : c.ahead = run ++ d.ahead
  position_eq : d.position = c.position + units.length run
  lookahead_eq : d.lookahead = kind.lookahead d.ahead
  length_eq : d.length = c.length
  offset_eq : d.offset = c.offset
  saved_eq : d.saved = c.saved

namespace Ready

theorem meets (h : c.Ready) (mask : Mask) : c.lookahead.meets mask = kind.hasNext mask c.ahead := by
  rw [h.lookahead_eq]
  cases c.ahead with
  | nil => exact Mask.empty_meets mask
  | cons ch rest => rfl

theorem atEnd (h : c.Ready) : c.atEnd = true ↔ c.ahead = [] := by
  have hnil : units.length c.ahead = 0 ↔ c.ahead = [] := Units.length_eq_zero
  rw [Cursor.atEnd, decide_eq_true_iff, h.length_eq, ← hnil]
  omega

theorem remaining (h : c.Ready) : c.remaining = units.length c.ahead := by
  rw [Cursor.remaining, h.length_eq, Nat.add_sub_cancel_left]

theorem length_le_remaining (h : c.Ready) : c.ahead.length ≤ c.remaining :=
  h.remaining ▸ units.length_le c.ahead

theorem before (length offset : Nat) (ahead : List Char)
    (h : length = offset + units.length ahead) :
    (Cursor.before length offset ahead : Cursor kind units).Ready :=
  ⟨Nat.le_refl _, h, rfl⟩

end Ready

namespace Moved

theorem refl (h : c.Ready) : Moved [] c c := by
  constructor <;> simp [Units.length, h.lookahead_eq]

theorem trans (h : Moved run c d) (h' : Moved more d e) : Moved (run ++ more) c e where
  ahead_eq := by rw [h.ahead_eq, h'.ahead_eq, List.append_assoc]
  position_eq := by rw [h'.position_eq, h.position_eq, Units.length_append, Nat.add_assoc]
  lookahead_eq := h'.lookahead_eq
  length_eq := h'.length_eq.trans h.length_eq
  offset_eq := h'.offset_eq.trans h.offset_eq
  saved_eq := h'.saved_eq.trans h.saved_eq

theorem ready (h : Moved run c d) (hc : c.Ready) : d.Ready where
  offset_le := by
    rw [h.offset_eq, h.position_eq]
    exact Nat.le_add_right_of_le hc.offset_le
  length_eq := by
    rw [h.length_eq, h.position_eq, hc.length_eq, h.ahead_eq, Units.length_append, Nat.add_assoc]
  lookahead_eq := h.lookahead_eq

theorem setCurrent (h : Moved run c d) (current : Mask) : Moved run c (d.setCurrent current) :=
  ⟨h.ahead_eq, h.position_eq, h.lookahead_eq, h.length_eq, h.offset_eq, h.saved_eq⟩

theorem takeWhile_ahead {p : Char → Bool} (h : Moved (c.ahead.takeWhile p) c d) :
    d.ahead = c.ahead.dropWhile p := by
  have := h.ahead_eq
  conv_lhs at this => rw [← List.takeWhile_append_dropWhile (p := p) (l := c.ahead)]
  exact (List.append_cancel_left this).symm

end Moved

theorem advance_spec {ch : Char} {rest : List Char} (h : c.ahead = ch :: rest) :
    ∃ d, c.advance = .ok d ∧ Moved [ch] c d ∧ d.current = c.lookahead ∧ d.start = c.position
      ∧ d.again = c.ahead := by
  refine ⟨_, by rw [advance, h], ?_, rfl, rfl, h.symm⟩
  constructor <;> simp [Units.length, h]

theorem meets_of_current {ch : Char} (h : c.current = kind.category ch.toNat) (mask : Mask) :
    c.current.meets mask = kind.has mask ch := by
  rw [h, Kind.has]

theorem Ready.advance_spec {ch : Char} {rest : List Char} (hc : c.Ready) (h : c.ahead = ch :: rest) :
    ∃ d, c.advance = .ok d ∧ Moved [ch] c d ∧ d.ahead = rest ∧ d.current = kind.category ch.toNat
      ∧ d.hasAccepted = decide (c.offset < c.position) ∧ d.retreat.position = c.position
      ∧ d.retreat.ahead = c.ahead := by
  obtain ⟨d, hd, hcd, hcur, hstart, hagain⟩ := Cursor.advance_spec h
  refine ⟨d, hd, hcd, ?_, ?_, ?_, hstart, hagain⟩
  · simpa [h] using hcd.ahead_eq.symm
  · rw [hcur, hc.lookahead_eq, h]
    rfl
  · rw [hasAccepted, hstart, hcd.offset_eq]

theorem skipWhile_spec (mask : Mask) (rounds : Nat) (h : c.Ready) (hr : c.ahead.length ≤ rounds) :
    ∃ d, c.skipWhile mask rounds = .ok d ∧ Moved (c.ahead.takeWhile (kind.has mask)) c d := by
  induction rounds generalizing c with
  | zero =>
    have hnil : c.ahead = [] := List.eq_nil_of_length_eq_zero (Nat.le_zero.mp hr)
    rw [skipWhile, h.meets, hnil]
    exact ⟨c, rfl, .refl h⟩
  | succ rounds ih =>
    rw [skipWhile, h.meets]
    cases hc : c.ahead with
    | nil => exact ⟨c, rfl, .refl h⟩
    | cons ch rest =>
      cases hm : kind.has mask ch with
      | false => exact ⟨c, by simp [hm], by simpa [hm] using Moved.refl h⟩
      | true =>
        obtain ⟨d, hd, hcd, -⟩ := advance_spec hc
        have hrest : d.ahead = rest := by simpa [hc] using hcd.ahead_eq.symm
        obtain ⟨e, he, hde⟩ := ih (hcd.ready h) (by simp_all)
        refine ⟨e, by simp [hm, hd, he], ?_⟩
        rw [List.takeWhile_cons, hm, if_pos rfl, ← hrest]
        exact hcd.trans hde

theorem skipRuns_spec (matching extend : Mask) (rounds : Nat) (h : c.Ready)
    (hr : c.ahead.length ≤ rounds) :
    ∃ d, c.skipRuns matching extend rounds = .ok d
      ∧ Moved (kind.absorbed matching extend c.ahead) c d := by
  induction rounds generalizing c with
  | zero =>
    have hnil : c.ahead = [] := List.eq_nil_of_length_eq_zero (Nat.le_zero.mp hr)
    rw [skipRuns, h.meets, hnil]
    exact ⟨c, rfl, .refl h⟩
  | succ rounds ih =>
    rw [skipRuns, h.meets]
    cases hc : c.ahead with
    | nil => exact ⟨c, rfl, .refl h⟩
    | cons ch rest =>
      cases hm : kind.has matching ch with
      | false => exact ⟨c, by simp [hm], by simpa [hm, Kind.absorbed] using Moved.refl h⟩
      | true =>
        obtain ⟨d, hd, hcd, -⟩ := advance_spec hc
        have hrest : d.ahead = rest := by simpa [hc] using hcd.ahead_eq.symm
        have hdr := hcd.ready h
        obtain ⟨e, he, hde⟩ := skipWhile_spec extend d.remaining hdr hdr.length_le_remaining
        have hdrop : e.ahead = rest.dropWhile (kind.has extend) := hrest ▸ hde.takeWhile_ahead
        have hlen : e.ahead.length ≤ rounds := by
          have := (List.dropWhile_sublist (kind.has extend) (l := rest)).length_le
          rw [hdrop]
          simp_all
          omega
        obtain ⟨f, hf, hef⟩ := ih (hde.ready hdr) hlen
        refine ⟨f, by simp [hm, hd, he, hf], ?_⟩
        have hrun := (hcd.trans hde).trans hef
        rw [hdrop, hrest, List.append_assoc, Kind.takeWhile_append_absorbed] at hrun
        rwa [Kind.absorbed, if_pos hm]

theorem absorb_spec (matching extend : Mask) (h : c.Ready) :
    ∃ d, c.absorb matching extend = .ok d ∧ Moved (kind.absorbed matching extend c.ahead) c d
      ∧ d.current = c.current := by
  obtain ⟨d, hd, hcd⟩ := skipRuns_spec matching extend c.remaining h h.length_le_remaining
  exact ⟨d.setCurrent c.current, by simp [absorb, hd], hcd.setCurrent _, rfl⟩

theorem absorb_all_spec (mask : Mask) (h : c.Ready) :
    ∃ d, c.absorb mask .empty = .ok d ∧ Moved (c.ahead.takeWhile (kind.has mask)) c d
      ∧ d.ahead = c.ahead.dropWhile (kind.has mask) ∧ d.current = c.current := by
  obtain ⟨d, hd, hcd, hcur⟩ := absorb_spec mask .empty h
  rw [Kind.absorbed_empty] at hcd
  exact ⟨d, hd, hcd, hcd.takeWhile_ahead, hcur⟩

def begun (c : Cursor kind units) : Cursor kind units := { c with saved := some c.toPlace }

@[simp] theorem begun_ahead : c.begun.ahead = c.ahead := rfl

def closed (c : Cursor kind units) : Cursor kind units := { c with saved := none }

theorem Ready.begun (h : c.Ready) : c.begun.Ready := ⟨h.offset_le, h.length_eq, h.lookahead_eq⟩

theorem Moved.closed (h : Moved run c.begun d) (hc : c.saved = none) : Moved run c d.closed :=
  ⟨h.ahead_eq, h.position_eq, h.lookahead_eq, h.length_eq, h.offset_eq, hc.symm⟩

theorem rollback_of_moved (hc : c.saved = none) (h : Moved run c.begun d) : d.rollback = .ok c := by
  have hsaved : d.saved = some c.toPlace := h.saved_eq
  have hlength : d.length = c.length := h.length_eq
  have hoffset : d.offset = c.offset := h.offset_eq
  rw [rollback, hsaved, hlength, hoffset, ← hc]

/-- A refused look ahead leaves no trace. -/
theorem attempt_spec {look : Cursor kind units → Except Fault (Cursor kind units × Bool)}
    {found : Bool} (hc : c.saved = none) (hlook : look c.begun = .ok (d, found))
    (h : Moved run c.begun d) :
    c.attempt look = .ok (if found then .joined d.closed else .refused c) := by
  have hsaved : d.saved = some c.toPlace := h.saved_eq
  have hbegin : c.begin = .ok c.begun := by rw [Cursor.begin, hc]; rfl
  cases found with
  | true => simp [attempt, hbegin, hlook, commit, hsaved, Cursor.closed]
  | false => simp [attempt, hbegin, hlook, rollback_of_moved hc h]

/-- What comes of a look ahead for a run that `joins` to the characters behind it. -/
inductive Tried (joins : List Char → List Char → Prop) (c : Cursor kind units) :
    Except Fault (Trial (Cursor kind units)) → Prop
  | joined {run : List Char} {d : Cursor kind units} : Moved run c d → joins run d.ahead →
      Tried joins c (.ok (.joined d))
  | refused : (∀ run rest, c.ahead = run ++ rest → ¬joins run rest) →
      Tried joins c (.ok (.refused c))

theorem Tried.attempt {joins : List Char → List Char → Prop}
    {look : Cursor kind units → Except Fault (Cursor kind units × Bool)} (found : Bool)
    (hc : c.saved = none) (hlook : look c.begun = .ok (d, found)) (h : Moved run c.begun d)
    (hfound : found → joins run d.ahead)
    (hlost : found = false → ∀ run rest, c.ahead = run ++ rest → ¬joins run rest) :
    Tried joins c (c.attempt look) := by
  rw [attempt_spec hc hlook h]
  cases found with
  | true => exact .joined (h.closed hc) (hfound rfl)
  | false => exact .refused (hlost rfl)

end Cursor
end TextBoundary
