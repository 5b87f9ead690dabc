import TextBoundary.Proofs.Vocabulary

/-! What may stand beside a position of a text: pieces, each of which takes some of the characters next
to it, and sequences of pieces. -/

namespace TextBoundary

inductive Piece
  | one (mask : Mask)
  | optional (mask : Mask)
  | many (mask : Mask)
  /-- Any number of characters outside the mask. -/
  | others (mask : Mask)
  /-- Any even number of characters. -/
  | pairs (mask : Mask)
  /-- No character: the end of the text, or a character outside the mask, is next. -/
  | edge (mask : Mask)
  deriving DecidableEq, Repr

namespace Piece

def runRests (p : Char → Bool) : List Char → List (List Char)
  | [] => [[]]
  | c :: s => (c :: s) :: if p c then runRests p s else []

def pairRests (p : Char → Bool) : List Char → List (List Char)
  | c :: d :: s => (c :: d :: s) :: if p c && p d then pairRests p s else []
  | s => [s]

def rests (kind : Kind) : Piece → List Char → List (List Char)
  | one _, [] => []
  | one m, c :: s => if kind.has m c then [s] else []
  | optional _, [] => [[]]
  | optional m, c :: s => (c :: s) :: if kind.has m c then [s] else []
  | many m, s => runRests (kind.has m) s
  | others m, s => runRests (fun c => !kind.has m c) s
  | pairs m, s => pairRests (kind.has m) s
  | edge _, [] => [[]]
  | edge m, c :: s => if kind.has m c then [] else [c :: s]

def fit (kind : Kind) : List Piece → List Char → Bool
  | [], _ => true
  | p :: ps, s => (p.rests kind s).any (fit kind ps)

variable {kind : Kind} {m : Mask} {ps : List Piece} {c d : Char} {s : List Char}

theorem any_ite (b : Bool) (rests : List (List Char)) (f : List Char → Bool) :
    (if b then rests else []).any f = (b && rests.any f) := by
  cases b <;> rfl

@[simp] theorem fit_nil : fit kind [] s = true := rfl

@[simp] theorem fit_one_nil : fit kind (one m :: ps) [] = false := rfl

@[simp] theorem fit_one_cons :
    fit kind (one m :: ps) (c :: s) = (kind.has m c && fit kind ps s) :=
  (any_ite (kind.has m c) [s] (fit kind ps)).trans (congrArg (kind.has m c && ·) (Bool.or_false _))

@[simp] theorem fit_optional_nil : fit kind (optional m :: ps) [] = fit kind ps [] := Bool.or_false _

@[simp] theorem fit_optional_cons :
    fit kind (optional m :: ps) (c :: s)
      = (fit kind ps (c :: s) || kind.has m c && fit kind ps s) :=
  congrArg (fit kind ps (c :: s) || ·) fit_one_cons

@[simp] theorem fit_many_nil : fit kind (many m :: ps) [] = fit kind ps [] := Bool.or_false _

theorem fit_many_cons :
    fit kind (many m :: ps) (c :: s)
      = (fit kind ps (c :: s) || kind.has m c && fit kind (many m :: ps) s) :=
  congrArg (fit kind ps (c :: s) || ·) (any_ite (kind.has m c) _ (fit kind ps))

@[simp] theorem fit_others_nil : fit kind (others m :: ps) [] = fit kind ps [] := Bool.or_false _

theorem fit_others_cons :
    fit kind (others m :: ps) (c :: s)
      = (fit kind ps (c :: s) || !kind.has m c && fit kind (others m :: ps) s) :=
  congrArg (fit kind ps (c :: s) || ·) (any_ite (!kind.has m c) _ (fit kind ps))

theorem fit_pairs_cons_cons :
    fit kind (pairs m :: ps) (c :: d :: s) = (fit kind ps (c :: d :: s)
      || kind.has m c && kind.has m d && fit kind (pairs m :: ps) s) :=
  congrArg (fit kind ps (c :: d :: s) || ·) (any_ite (kind.has m c && kind.has m d) _ (fit kind ps))

@[simp] theorem fit_pairs_nil : fit kind (pairs m :: ps) [] = fit kind ps [] := Bool.or_false _

@[simp] theorem fit_pairs_singleton : fit kind (pairs m :: ps) [c] = fit kind ps [c] := Bool.or_false _

@[simp] theorem fit_edge_nil : fit kind (edge m :: ps) [] = fit kind ps [] := Bool.or_false _

@[simp] theorem fit_edge_cons :
    fit kind (edge m :: ps) (c :: s) = (!kind.has m c && fit kind ps (c :: s)) := by
  cases h : kind.has m c <;> simp [fit, rests, h]

def oddRun (p : Char → Bool) : List Char → Bool
  | [] => false
  | c :: s => p c && !oddRun p s

theorem oddRun_append {p : Char → Bool} {u : List Char} (h : oddRun p s = false) :
    oddRun p (u ++ s) = oddRun p u := by
  induction u with
  | nil => exact h
  | cons c u ih => rw [List.cons_append, oddRun, oddRun, ih]

theorem fit_odd (s : List Char) :
    fit kind [one m, pairs m, edge m] s = oddRun (kind.has m) s := by
  have hpairs : ∀ s, fit kind [pairs m, edge m] s = !oddRun (kind.has m) s := by
    intro s
    fun_induction pairRests (kind.has m) s with
    | case1 c d s ih =>
      rw [fit_pairs_cons_cons]
      cases hc : kind.has m c <;> cases hd : kind.has m d <;> simp_all [oddRun]
    | case2 s hs =>
      match s with
      | [] => simp [oddRun]
      | [c] => cases hc : kind.has m c <;> simp [oddRun, hc]
      | c :: d :: s => exact (hs c d s rfl).elim
  cases s with
  | nil => rfl
  | cons c s => simp [oddRun, hpairs]

end Piece
end TextBoundary
