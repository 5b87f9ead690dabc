import TextBoundary.Unicode.RunTable
import Mathlib.Data.List.Chain

namespace TextBoundary.Unicode

def scan (runs : List Run) (codePoint : Nat) : Option Run := (runs.filter fun run => run.first ≤ codePoint).getLast?

def Rising (runs : List Run) : Prop := (runs.map Run.first).IsChain (· < ·)

namespace RunTable

/-- A table of runs from the first code point on, with an array that says the same of ASCII. -/
structure Exact (t : RunTable) : Prop where
  start_eq : t.runs[0]?.map Run.first = some 0
  rising : Rising t.runs.toList
  size_ascii : t.ascii.size = 128
  ascii_eq : ∀ codePoint < 128, t.ascii[codePoint]? = (scan t.runs.toList codePoint).map Run.mask

variable {runs : Array Run} {t : RunTable} {codePoint rounds lo mid hi n : Nat}

theorem first_le (h : Rising runs.toList) {i j : Nat} (hj : j < runs.size) (hij : i ≤ j) :
    runs[i].first ≤ runs[j].first := by
  have hpairs := List.pairwise_map.mp (List.isChain_iff_pairwise.mp h)
  rcases Nat.lt_or_eq_of_le hij with hlt | rfl
  · exact Nat.le_of_lt (List.pairwise_iff_getElem.mp hpairs i j _ _ hlt)
  · exact Nat.le_refl _

structure Window (runs : Array Run) (codePoint lo hi : Nat) : Prop where
  le : lo ≤ hi
  le_size : hi ≤ runs.size
  before : ∀ i, (h : i < runs.size) → i < lo → runs[i].first ≤ codePoint
  behind : ∀ i, (h : i < runs.size) → hi ≤ i → codePoint < runs[i].first

namespace Window

theorem whole (runs : Array Run) (codePoint : Nat) : Window runs codePoint 0 runs.size where
  le := Nat.zero_le _
  le_size := Nat.le_refl _
  before := fun _ _ hlt => absurd hlt (Nat.not_lt_zero _)
  behind := fun _ hlt hle => absurd hlt (Nat.not_lt.mpr hle)

theorem upper (h : Window runs codePoint lo hi) (hrising : Rising runs.toList) (hhi : mid < hi)
    (hmid : (runs.getD mid default).first ≤ codePoint) : Window runs codePoint (mid + 1) hi where
  le := hhi
  le_size := h.le_size
  before := fun i hi hle => by
    have hsize : mid < runs.size := Nat.lt_of_lt_of_le hhi h.le_size
    rw [Array.getD, dif_pos hsize] at hmid
    exact Nat.le_trans (first_le hrising hsize (Nat.le_of_lt_succ hle)) hmid
  behind := h.behind

theorem lower (h : Window runs codePoint lo hi) (hrising : Rising runs.toList) (hlo : lo ≤ mid) (hhi : mid < hi)
    (hmid : ¬(runs.getD mid default).first ≤ codePoint) : Window runs codePoint lo mid where
  le := hlo
  le_size := Nat.le_trans (Nat.le_of_lt hhi) h.le_size
  before := h.before
  behind := fun i hi hle => by
    rw [Array.getD, dif_pos (Nat.lt_of_lt_of_le hhi h.le_size)] at hmid
    exact Nat.lt_of_lt_of_le (Nat.not_le.mp hmid) (first_le hrising hi hle)

theorem countStarted (h : Window runs codePoint lo hi) (hrising : Rising runs.toList) (hrounds : hi - lo < rounds) :
    Window runs codePoint (countStarted runs codePoint rounds lo hi) (countStarted runs codePoint rounds lo hi) := by
  fun_induction RunTable.countStarted runs codePoint rounds lo hi with
  | case1 => omega
  | case2 rounds lo hi hlt mid hmid ih => exact ih (h.upper hrising (by omega) hmid) (by omega)
  | case3 rounds lo hi hlt mid hmid ih => exact ih (h.lower hrising (by omega) (by omega) hmid) (by omega)
  | case4 rounds lo hi hlt =>
    obtain rfl : lo = hi := Nat.le_antisymm h.le (Nat.not_lt.mp hlt)
    exact h

theorem filter_eq (h : Window runs codePoint n n) :
    (runs.toList.filter fun run => run.first ≤ codePoint) = runs.toList.take n := by
  have htake : ∀ run ∈ runs.toList.take n, decide (run.first ≤ codePoint) := by
    intro run hrun
    obtain ⟨i, hi, rfl⟩ := List.mem_take_iff_getElem.mp hrun
    exact decide_eq_true (h.before i _ (by omega))
  have hdrop : ∀ run ∈ runs.toList.drop n, ¬decide (run.first ≤ codePoint) := by
    intro run hrun
    obtain ⟨i, hi, rfl⟩ := List.mem_drop_iff_getElem.mp hrun
    simpa using h.behind (n + i) _ (Nat.le_add_right n i)
  rw [← List.take_append_drop n runs.toList, List.filter_append, List.filter_eq_self.mpr htake,
    List.filter_eq_nil_iff.mpr hdrop, List.append_nil, List.take_append_drop]

theorem scan_eq (h : Window runs codePoint n n) (hn : 0 < n) :
    scan runs.toList codePoint = some (runs.getD (n - 1) default) := by
  have hlt : n - 1 < runs.size := by have := h.le_size; omega
  rw [scan, h.filter_eq, List.getLast?_take, if_neg (by omega), Array.getD, dif_pos hlt]
  simp [hlt]

end Window

theorem Exact.search_eq (h : t.Exact) (codePoint : Nat) :
    (scan t.runs.toList codePoint).map Run.mask = some (search t.runs codePoint) := by
  have hwindow := (Window.whole t.runs codePoint).countStarted h.rising (Nat.lt_succ_self _)
  rw [search]
  generalize countStarted t.runs codePoint (t.runs.size + 1) 0 t.runs.size = n at hwindow
  obtain ⟨run, hrun, hfirst⟩ := Option.map_eq_some_iff.mp h.start_eq
  obtain ⟨hsize, rfl⟩ := Array.getElem?_eq_some_iff.mp hrun
  have hn : 0 < n := by
    refine Nat.pos_of_ne_zero fun hzero => ?_
    have := hwindow.behind 0 hsize (Nat.le_of_eq hzero)
    omega
  rw [hwindow.scan_eq hn, Option.map_some]

theorem Exact.lookup_eq (h : t.Exact) (codePoint : Nat) :
    (scan t.runs.toList codePoint).map Run.mask = some (t.lookup codePoint) := by
  rw [lookup]
  split
  case isTrue hlt =>
    have hsize : codePoint < t.ascii.size := h.size_ascii ▸ hlt
    rw [← h.ascii_eq codePoint hlt, Array.getD, dif_pos hsize, Array.getElem?_eq_getElem hsize]
    rfl
  case isFalse => exact h.search_eq codePoint

theorem Exact.forall_lookup (h : t.Exact) {p : Mask → Prop} (hruns : ∀ run ∈ t.runs.toList, p run.mask)
    (codePoint : Nat) : p (t.lookup codePoint) := by
  obtain ⟨run, hrun, hmask⟩ := Option.map_eq_some_iff.mp (h.lookup_eq codePoint)
  exact hmask ▸ hruns run (List.mem_of_mem_filter (List.mem_of_getLast? hrun))

def climbs (least : Nat) : List (Nat × Nat) → Bool
  | [] => true
  | run :: runs => Nat.ble least run.1 && climbs (run.1 + 1) runs

/-- The same of runs that are given part by part, as the kernel does not go down so long a list at once. -/
def climbsIn (least : Nat) : List (List (Nat × Nat)) → Bool
  | [] => true
  | part :: parts => climbs least part && climbsIn ((part.getLast?.map fun run => run.1 + 1).getD least) parts

theorem climbs_append (least : Nat) (early late : List (Nat × Nat)) :
    climbs least (early ++ late)
      = (climbs least early && climbs ((early.getLast?.map fun run => run.1 + 1).getD least) late) := by
  induction early generalizing least with
  | nil => rfl
  | cons run early ih =>
    rw [List.cons_append, climbs, climbs, ih, Bool.and_assoc, List.getLast?_cons]
    cases early.getLast? <;> rfl

theorem climbs_flatten (least : Nat) (parts : List (List (Nat × Nat))) :
    climbs least parts.flatten = climbsIn least parts := by
  induction parts generalizing least with
  | nil => rfl
  | cons part parts ih => rw [List.flatten_cons, climbs_append, ih, climbsIn]

theorem isChain_of_climbs {least : Nat} {runs : List (Nat × Nat)} (h : climbs least runs) :
    (runs.map Prod.fst).IsChain (· < ·) := by
  induction runs generalizing least with
  | nil => exact .nil
  | cons run runs ih =>
    obtain ⟨-, hruns⟩ := Bool.and_eq_true_iff.mp h
    refine (ih hruns).cons ?_
    cases runs with
    | nil => exact fun _ h => nomatch h
    | cons next runs =>
      obtain ⟨hle, -⟩ := Bool.and_eq_true_iff.mp hruns
      rintro first ⟨⟩
      exact Nat.le_of_ble_eq_true hle

variable {ascii : List Nat} {early : List (Nat × Nat)} {parts : List (List (Nat × Nat))}

theorem scan_ofData (hclimbs : climbsIn 0 (early :: parts)) (hreach : early.any fun run => 127 ≤ run.1)
    (hlt : codePoint < 128) : scan (ofData ascii (early :: parts).flatten).runs.toList codePoint
      = ((early.filter fun run => run.1 ≤ codePoint).getLast?).map fun run => ⟨run.1, ⟨run.2⟩⟩ := by
  rw [← climbs_flatten, List.flatten_cons] at hclimbs
  have hrising := isChain_of_climbs hclimbs
  rw [List.isChain_iff_pairwise, List.pairwise_map, List.pairwise_append] at hrising
  have hlate : (parts.flatten.filter fun run => run.1 ≤ codePoint) = [] := by
    refine List.filter_eq_nil_iff.mpr fun run hrun => ?_
    obtain ⟨last, hlast, hle⟩ := List.any_eq_true.mp hreach
    have hbehind := hrising.2.2 last hlast run hrun
    have hle : 127 ≤ last.1 := of_decide_eq_true hle
    rw [decide_eq_true_iff]
    omega
  have hfirst : ((fun run : Run => decide (run.first ≤ codePoint)) ∘ fun run : Nat × Nat => ⟨run.1, ⟨run.2⟩⟩)
      = fun run => decide (run.1 ≤ codePoint) := rfl
  rw [scan, ofData, List.filter_map, hfirst, List.getLast?_map, List.flatten_cons, List.filter_append, hlate,
    List.append_nil]

theorem exact_ofData (hclimbs : climbsIn 0 (early :: parts)) (hstart : early.head?.map Prod.fst = some 0)
    (hascii : ascii.length = 128) (hreach : early.any fun run => 127 ≤ run.1)
    (hagree : ∀ codePoint < 128,
      ascii[codePoint]? = ((early.filter fun run => run.1 ≤ codePoint).getLast?).map Prod.snd) :
    (ofData ascii (early :: parts).flatten).Exact where
  start_eq := by
    cases early with
    | nil => exact nomatch hstart
    | cons run early => simpa [ofData] using hstart
  rising := by
    have hfirst : (Run.first ∘ fun run : Nat × Nat => ⟨run.1, ⟨run.2⟩⟩) = Prod.fst := rfl
    rw [← climbs_flatten] at hclimbs
    rw [Rising, ofData, List.map_map, hfirst]
    exact isChain_of_climbs hclimbs
  size_ascii := by rw [ofData, List.size_toArray, List.length_map, hascii]
  ascii_eq := fun codePoint hlt => by
    rw [scan_ofData hclimbs hreach hlt, ofData, List.getElem?_toArray, List.getElem?_map, hagree codePoint hlt,
      Option.map_map, Option.map_map]
    rfl

theorem forall_lookup_ofData (h : (ofData ascii parts.flatten).Exact) {p : Nat → Bool}
    (hp : parts.all fun part => part.all fun run => p run.2) (codePoint : Nat) :
    p ((ofData ascii parts.flatten).lookup codePoint).bits := by
  refine h.forall_lookup (p := fun mask => p mask.bits) (fun run hrun => ?_) codePoint
  rw [ofData, List.toList_toArray] at hrun
  obtain ⟨entry, hentry, rfl⟩ := List.mem_map.mp hrun
  obtain ⟨part, hpart, hentry⟩ := List.mem_flatten.mp hentry
  exact List.all_eq_true.mp (List.all_eq_true.mp hp part hpart) entry hentry

end RunTable
end TextBoundary.Unicode
