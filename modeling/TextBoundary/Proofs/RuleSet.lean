import TextBoundary.Proofs.Pattern

/-! Rules that decide for every position of a text whether it is split there. They look at all that
stands before and after the position; the first rule that applies decides.

The characters before a position are held as `back`, the nearest first, so that a text is walked
through by moving characters from `ahead` to `back`. -/

namespace TextBoundary

inductive Verdict
  | join
  | split
  deriving DecidableEq, Repr

/-- Both sides of a rule are written in the order of the text. -/
structure Rule where
  before : List Piece
  verdict : Verdict
  after : List Piece
  deriving DecidableEq, Repr

namespace Rule

def applies (kind : Kind) (r : Rule) (back ahead : List Char) : Bool :=
  Piece.fit kind r.before.reverse back && Piece.fit kind r.after ahead

def decide (kind : Kind) (back ahead : List Char) : List Rule → Verdict → Verdict
  | [], otherwise => otherwise
  | r :: rules, otherwise =>
    if r.applies kind back ahead then r.verdict else decide kind back ahead rules otherwise

variable {kind : Kind} {back ahead : List Char} {before after : List Piece} {rules : List Rule}
  {v : Verdict}

theorem decide_nil : (decide kind back ahead [] v == .split) = (v == .split) := rfl

theorem decide_join :
    (decide kind back ahead (⟨before, .join, after⟩ :: rules) v == .split)
      = (!(Piece.fit kind before.reverse back && Piece.fit kind after ahead)
        && decide kind back ahead rules v == .split) := by
  rw [decide, applies]
  cases Piece.fit kind before.reverse back && Piece.fit kind after ahead <;> rfl

theorem decide_split :
    (decide kind back ahead (⟨before, .split, after⟩ :: rules) v == .split)
      = (Piece.fit kind before.reverse back && Piece.fit kind after ahead
        || decide kind back ahead rules v == .split) := by
  rw [decide, applies]
  cases Piece.fit kind before.reverse back && Piece.fit kind after ahead <;> simp

end Rule

/-- The rules of a kind. Some characters belong to the one before them wherever that is not an anchor;
the later rules do not see them. -/
structure RuleSet (kind : Kind) where
  first : List Rule
  ignored : Mask
  anchors : Mask
  later : List Rule
  otherwise : Verdict
  ignored_apart : kind.apart ignored anchors := by decide

namespace RuleSet

variable {kind : Kind} (rules : RuleSet kind)

/-- Whether the later rules do not see a character that follows `previous`. -/
def ignores (previous : Option Char) (c : Char) : Bool :=
  kind.has rules.ignored c && previous.any fun p => !kind.has rules.anchors p

def trim : List Char → List Char
  | [] => []
  | c :: back => if rules.ignores back.head? c then trim back else c :: trim back

/-- The characters after `previous` that the later rules see. -/
def condense (previous : Option Char) : List Char → List Char
  | [] => []
  | c :: ahead =>
    if rules.ignores previous c then condense (some c) ahead else c :: condense (some c) ahead

def verdict (back ahead : List Char) : Verdict :=
  Rule.decide kind back ahead rules.first <|
    if ahead.head?.any (rules.ignores back.head?) then .join
    else Rule.decide kind (rules.trim back) (rules.condense back.head? ahead) rules.later
      rules.otherwise

def splitAt (back ahead : List Char) : Bool := rules.verdict back ahead == .split

def splits (before after : List Char) : Bool := rules.splitAt before.reverse after

variable {rules} {previous : Option Char} {c : Char} {back ahead run : List Char}

@[simp] theorem ignores_none : rules.ignores none c = false := by simp [ignores]

theorem ignores_of_not_has (h : kind.has rules.ignored c = false) : rules.ignores previous c = false := by
  simp [ignores, h]

theorem ignores_some (hc : kind.has rules.ignored c) {p : Char} (hp : kind.has rules.anchors p = false) :
    rules.ignores (some p) c := by
  simp [ignores, hc, hp]

theorem ignores_anchor {p : Char} (hp : kind.has rules.anchors p) :
    rules.ignores (some p) c = false := by
  simp [ignores, hp]

@[simp] theorem trim_nil : rules.trim [] = [] := rfl

@[simp] theorem trim_singleton : rules.trim [c] = [c] := by simp [trim]

theorem trim_cons (h : rules.ignores back.head? c = false) :
    rules.trim (c :: back) = c :: rules.trim back := by
  simp [trim, h]

theorem trim_seen (h : rules.ignores back.head? c = false) (run : List Char) :
    ∃ w, rules.trim (run ++ c :: back) = w ++ c :: rules.trim back
      ∧ rules.trim (run ++ [c]) = w ++ [c] ∧ (w = [] → ∀ d ∈ run, kind.has rules.ignored d) := by
  induction run with
  | nil => exact ⟨[], by simp [trim, h]⟩
  | cons d run ih =>
    have hhead : (run ++ [c]).head? = (run ++ c :: back).head? := by cases run <;> rfl
    obtain ⟨w, hlong, hshort, hempty⟩ := ih
    simp only [List.cons_append, trim, hhead, hlong, hshort]
    split
    case isTrue hd =>
      refine ⟨w, rfl, rfl, fun hw => List.forall_mem_cons.mpr ⟨?_, hempty hw⟩⟩
      simp only [ignores, Bool.and_eq_true] at hd
      exact hd.1
    case isFalse => exact ⟨d :: w, rfl, rfl, fun hw => (List.cons_ne_nil d w hw).elim⟩

theorem mem_of_mem_trim (h : c ∈ rules.trim back) : c ∈ back := by
  induction back with
  | nil => exact h
  | cons d back ih =>
    rw [trim] at h
    split at h
    case isTrue => exact .tail _ (ih h)
    case isFalse =>
      rcases List.mem_cons.mp h with rfl | h
      · exact .head _
      · exact .tail _ (ih h)

theorem trim_cons_cons {p : Char} (hp : kind.has rules.anchors p = false) :
    rules.trim (c :: p :: back)
      = if kind.has rules.ignored c then rules.trim (p :: back) else c :: rules.trim (p :: back) := by
  rw [trim, ignores, List.head?_cons, Option.any_some, hp, Bool.not_false, Bool.and_true]

theorem trim_run {p : List Char → Prop} {mask : Mask} {a : Char}
    (hapart : kind.apart mask rules.anchors)
    (hp : ∀ {x seen}, kind.has mask x → kind.has rules.ignored x = false → p seen → p (x :: seen))
    (ha : kind.has rules.anchors a = false) (h : p (rules.trim (a :: back)))
    (hrun : ∀ x ∈ run, kind.has mask x) : p (rules.trim (run.reverse ++ a :: back)) := by
  induction run generalizing a back with
  | nil => exact h
  | cons x run ih =>
    obtain ⟨hx, hrun⟩ := List.forall_mem_cons.mp hrun
    rw [List.reverse_cons, List.append_assoc, List.singleton_append]
    apply ih (Kind.not_has_of_apart hapart hx) _ hrun
    rw [trim_cons_cons ha]
    split
    case isTrue => exact h
    case isFalse hplain => exact hp hx (Bool.eq_false_iff.mpr hplain) h

theorem trim_head (h : kind.has rules.ignored c = false) :
    ∃ d seen, rules.trim ((c :: run).reverse ++ back) = d :: seen ∧ d ∈ c :: run := by
  have hseen : rules.ignores back.head? c = false := ignores_of_not_has h
  obtain ⟨w, hlong, hshort, -⟩ := trim_seen hseen run.reverse
  rw [List.reverse_cons, List.append_assoc, List.singleton_append, hlong]
  cases w with
  | nil => exact ⟨c, _, rfl, .head _⟩
  | cons d w =>
    have hd : d ∈ rules.trim (run.reverse ++ [c]) := by simp [hshort]
    exact ⟨d, _, rfl, by simpa [or_comm] using mem_of_mem_trim hd⟩

theorem trim_ignored (hrun : ∀ d ∈ run, kind.has rules.ignored d)
    (hc : kind.has rules.anchors c = false) :
    rules.trim (run ++ c :: back) = rules.trim (c :: back) := by
  induction run with
  | nil => rfl
  | cons d run ih =>
    have hseen : rules.ignores (run ++ c :: back).head? d := by
      cases run with
      | nil => exact ignores_some (hrun d (.head _)) hc
      | cons e run =>
        apply ignores_some (hrun d (.head _))
        exact Kind.not_has_of_apart rules.ignored_apart (hrun e (.tail _ (.head _)))
    rw [List.cons_append, trim, hseen, if_pos rfl]
    exact ih fun e he => hrun e (.tail _ he)

theorem condense_cons (h : kind.has rules.ignored c = false) :
    rules.condense previous (c :: ahead) = c :: rules.condense (some c) ahead := by
  simp [condense, ignores_of_not_has h]

theorem head_condense {p : Char} (hp : kind.has rules.anchors p = false) :
    (rules.condense (some p) ahead).head? = (ahead.dropWhile (kind.has rules.ignored)).head? := by
  induction ahead generalizing p with
  | nil => rfl
  | cons c ahead ih =>
    cases hc : kind.has rules.ignored c with
    | true =>
      rw [condense, ignores_some hc hp, if_pos rfl, List.dropWhile_cons, if_pos hc]
      exact ih (Kind.not_has_of_apart rules.ignored_apart hc)
    | false =>
      rw [condense_cons hc, List.dropWhile_cons, hc, if_neg (by simp), List.head?_cons, List.head?_cons]

theorem splitAt_cons {a b : Char} (ha : kind.has rules.anchors a = false) :
    rules.splitAt (a :: back) (b :: ahead) = (Rule.decide kind (a :: back) (b :: ahead) rules.first
      (if kind.has rules.ignored b then .join
      else Rule.decide kind (rules.trim (a :: back)) (b :: rules.condense (some b) ahead) rules.later
        rules.otherwise) == .split) := by
  have hignores : rules.ignores (some a) b = kind.has rules.ignored b := by simp [ignores, ha]
  rw [splitAt, verdict, List.head?_cons, List.head?_cons, Option.any_some, hignores]
  cases hb : kind.has rules.ignored b with
  | true => rfl
  | false => rw [condense_cons hb]

theorem head_trim (h : back.head?.any (kind.has rules.anchors) = false) :
    (rules.trim back).head?.any (kind.has rules.anchors) = false := by
  induction back with
  | nil => rfl
  | cons c back ih =>
    rw [trim]
    split
    case isTrue hignores =>
      apply ih
      cases back with
      | nil => rfl
      | cons p back =>
        simp only [ignores, List.head?_cons, Option.any_some, Bool.and_eq_true] at hignores
        simpa using hignores.2
    case isFalse => exact h

end RuleSet
end TextBoundary
