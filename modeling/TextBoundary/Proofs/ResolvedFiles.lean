import Mathlib.Data.List.Nodup
import Mathlib.Data.String.Basic
import TextBoundary.Files.Input
import TextBoundary.Proofs.OneByOne

namespace TextBoundary.Files

namespace Path

variable {a b c : String}

theorem same_iff : same a b ↔ components a = components b := beq_iff_eq

def Before (a b : String) : Prop := rank a < rank b ∨ rank a = rank b ∧ a < b

theorem Before.trans (h : Before a b) (h' : Before b c) : Before a c := by
  cases h with
  | inl hab =>
    cases h' with
    | inl hbc => exact .inl (hab.trans hbc)
    | inr hbc => exact .inl (hbc.1 ▸ hab)
  | inr hab =>
    cases h' with
    | inl hbc => exact .inl (hab.1 ▸ hbc)
    | inr hbc => exact .inr ⟨hab.1.trans hbc.1, hab.2.trans hbc.2⟩

theorem Before.irrefl (a : String) : ¬Before a a := by
  simp [Before]

theorem before_or_before (h : a ≠ b) : Before a b ∨ Before b a := by
  simp only [Before]
  rcases Nat.lt_trichotomy (rank a) (rank b) with hlt | heq | hgt
  · exact .inl (.inl hlt)
  · cases lt_or_gt_of_ne h with
    | inl hab => exact .inl (.inr ⟨heq, hab⟩)
    | inr hba => exact .inr (.inr ⟨heq.symm, hba⟩)
  · exact .inr (.inl hgt)

theorem componentsLe_cons (a b : String) (as bs : List String) :
    componentsLe (a :: as) (b :: bs) ↔ Before a b ∨ a = b ∧ componentsLe as bs := by
  rw [componentsLe]
  by_cases h : a = b
  · subst h
    simp [Before.irrefl]
  · simp [Before, h]

theorem componentsLe_total (as bs : List String) : componentsLe as bs ∨ componentsLe bs as := by
  induction as generalizing bs with
  | nil => exact .inl (by simp [componentsLe])
  | cons a as ih =>
    cases bs with
    | nil => exact .inr (by simp [componentsLe])
    | cons b bs =>
      simp only [componentsLe_cons]
      by_cases h : a = b
      · subst h
        exact (ih bs).imp (fun h => .inr ⟨rfl, h⟩) (fun h => .inr ⟨rfl, h⟩)
      · exact (before_or_before h).imp .inl .inl

theorem componentsLe_trans {as bs cs : List String} (h : componentsLe as bs) (h' : componentsLe bs cs) :
    componentsLe as cs := by
  induction as generalizing bs cs with
  | nil => simp [componentsLe]
  | cons a as ih =>
    cases bs with
    | nil => simp [componentsLe] at h
    | cons b bs =>
      cases cs with
      | nil => simp [componentsLe] at h'
      | cons c cs =>
        rw [componentsLe_cons] at h h' ⊢
        rcases h with hab | ⟨rfl, has⟩
        · rcases h' with hbc | ⟨rfl, -⟩
          · exact .inl (hab.trans hbc)
          · exact .inl hab
        · exact h'.imp id fun hbs => ⟨hbs.1, ih has hbs.2⟩

theorem pairwise_mergeSort_le (paths : List String) : (paths.mergeSort le).Pairwise fun a b => le a b := by
  apply List.pairwise_mergeSort
  · intro a b c
    exact componentsLe_trans
  · intro a b
    rw [Bool.or_eq_true]
    exact componentsLe_total _ _

end Path

section Merge

variable {found paths : List String} {path other : String}

def listed (paths : List String) (path : String) : Bool := paths.any (Path.same path)

def Distinct (paths : List String) : Prop := (paths.map Path.components).Nodup

theorem listed_iff_components : listed paths path ↔ Path.components path ∈ paths.map Path.components := by
  rw [listed, List.any_eq_true, List.mem_map]
  simp only [Path.same_iff]
  exact exists_congr fun other => and_congr_right' eq_comm

theorem listed_of_mem (h : path ∈ paths) : listed paths path :=
  listed_iff_components.mpr (List.mem_map_of_mem h)

theorem listed_append (front back : List String) (path : String) :
    listed (front ++ back) path = (listed front path || listed back path) := List.any_append

theorem countP_same (paths : List String) (path : String) :
    paths.countP (Path.same path) = (paths.map Path.components).count (Path.components path) := by
  rw [List.count, List.countP_map]
  apply List.countP_congr
  intro other _
  exact Path.same_iff.trans (eq_comm.trans beq_iff_eq.symm)

theorem Distinct.countP_eq_one (h : Distinct paths) (hlisted : listed paths path) :
    paths.countP (Path.same path) = 1 := by
  rw [countP_same]
  exact List.count_eq_one_of_mem h (listed_iff_components.mp hlisted)

theorem distinct_of_countP (h : ∀ path ∈ paths, paths.countP (Path.same path) = 1) : Distinct paths := by
  apply List.nodup_iff_count_eq_one.mpr
  intro components hmem
  obtain ⟨path, hpath, rfl⟩ := List.mem_map.mp hmem
  exact countP_same paths path ▸ h path hpath

theorem Distinct.snoc (h : Distinct found) (hnew : listed found path = false) : Distinct (found ++ [path]) := by
  have hmem : Path.components path ∉ found.map Path.components := by
    rw [← listed_iff_components, hnew]
    exact Bool.false_ne_true
  rw [Distinct, List.map_append, List.map_singleton, ← List.concat_eq_append]
  exact List.Nodup.concat hmem h

/-- What merging puts behind the paths that are there. -/
structure Merged (found paths new : List String) : Prop where
  merge_eq : merge found paths = found ++ new
  sublist : new.Sublist paths
  distinct : Distinct (found ++ new)
  covers : ∀ path ∈ paths, listed (found ++ new) path

theorem Merged.not_listed {new : List String} (h : Merged found paths new) (hpath : path ∈ new) :
    listed found path = false := by
  have hdistinct := h.distinct
  rw [Distinct, List.map_append] at hdistinct
  have hdisjoint := (List.nodup_append.mp hdistinct).2.2
  rw [← Bool.not_eq_true, listed_iff_components]
  intro hfound
  exact hdisjoint _ hfound _ (List.mem_map_of_mem hpath) rfl

theorem exists_merged (h : Distinct found) (paths : List String) : ∃ new, Merged found paths new := by
  induction paths generalizing found with
  | nil => exact ⟨[], by simp [merge], .refl _, by simpa using h, List.forall_mem_nil _⟩
  | cons path paths ih =>
    cases hlisted : listed found path with
    | true =>
      obtain ⟨new, hnew⟩ := ih h
      refine ⟨new, (if_pos hlisted).trans hnew.merge_eq, hnew.sublist.cons path, hnew.distinct,
        List.forall_mem_cons.mpr ⟨?_, hnew.covers⟩⟩
      rw [listed_append, hlisted, Bool.true_or]
    | false =>
      obtain ⟨new, hnew⟩ := ih (h.snoc hlisted)
      have happend : (found ++ [path]) ++ new = found ++ path :: new := (List.append_cons found path new).symm
      have hdistinct := hnew.distinct
      have hothers := hnew.covers
      rw [happend] at hdistinct hothers
      refine ⟨path :: new, ?_, hnew.sublist.cons_cons path, hdistinct, List.forall_mem_cons.mpr ⟨?_, hothers⟩⟩
      · exact ((if_neg (Bool.eq_false_iff.mp hlisted)).trans hnew.merge_eq).trans happend
      · exact listed_of_mem (List.mem_append_right _ (.head _))

end Merge

section Resolve

variable (glob : String → Option (List String)) (isFile : String → Bool)

def filesOf (pattern : String) : List String := ((glob pattern).getD []).filter isFile

def first (patterns : List String) (path : String) : Nat :=
  patterns.findIdx fun pattern => listed (filesOf glob isFile pattern) path

/-- The files that patterns match, each of them once, in the order of the patterns and sorted for each of them. -/
structure Resolved (patterns files : List String) : Prop where
  named : ∀ file ∈ files, ∃ pattern, patterns[first glob isFile patterns file]? = some pattern
    ∧ file ∈ filesOf glob isFile pattern
  once : ∀ pattern ∈ patterns, ∀ path ∈ filesOf glob isFile pattern, files.countP (Path.same path) = 1
  ordered : files.Pairwise fun a b => first glob isFile patterns a < first glob isFile patterns b
    ∨ first glob isFile patterns a = first glob isFile patterns b ∧ Path.le a b

variable {glob isFile} {patterns found files : List String} {pattern path : String}

theorem Resolved.nil : Resolved glob isFile [] [] := ⟨nofun, nofun, .nil⟩

theorem Resolved.mem (h : Resolved glob isFile patterns files) {file : String} (hfile : file ∈ files) :
    ∃ pattern ∈ patterns, file ∈ filesOf glob isFile pattern := by
  obtain ⟨pattern, hpattern, hmem⟩ := h.named file hfile
  exact ⟨pattern, List.mem_of_getElem? hpattern, hmem⟩

theorem Resolved.distinct (h : Resolved glob isFile patterns files) : Distinct files := by
  apply distinct_of_countP
  intro file hfile
  obtain ⟨pattern, hpattern, hmem⟩ := h.mem hfile
  exact h.once pattern hpattern file hmem

theorem Resolved.covers (h : Resolved glob isFile patterns files) (hpattern : pattern ∈ patterns)
    (hpath : listed (filesOf glob isFile pattern) path) : listed files path := by
  obtain ⟨other, hother, hsame⟩ := List.any_eq_true.mp hpath
  have hpos : 0 < files.countP (Path.same other) := h.once pattern hpattern other hother ▸ Nat.one_pos
  obtain ⟨file, hfile, hfile'⟩ := List.countP_pos_iff.mp hpos
  apply List.any_eq_true.mpr
  exact ⟨file, hfile, Path.same_iff.mpr ((Path.same_iff.mp hsame).trans (Path.same_iff.mp hfile'))⟩

theorem first_lt (hpattern : pattern ∈ patterns) (hpath : listed (filesOf glob isFile pattern) path) :
    first glob isFile patterns path < patterns.length := List.findIdx_lt_length.mpr ⟨pattern, hpattern, hpath⟩

theorem first_append (h : first glob isFile patterns path < patterns.length) (others : List String) :
    first glob isFile (patterns ++ others) path = first glob isFile patterns path :=
  List.findIdx_append.trans (if_pos h)

theorem first_snoc (h : ∀ other ∈ patterns, listed (filesOf glob isFile other) path = false)
    (hpath : listed (filesOf glob isFile pattern) path) :
    first glob isFile (patterns ++ [pattern]) path = patterns.length := by
  have hlength : first glob isFile patterns path = patterns.length := List.findIdx_eq_length.mpr h
  have hlast : first glob isFile [pattern] path = 0 := by simp [first, List.findIdx_cons, hpath]
  rw [first] at hlength hlast ⊢
  rw [List.findIdx_append, hlength, hlast, if_neg (Nat.lt_irrefl _), Nat.zero_add]

theorem Resolved.first_lt (h : Resolved glob isFile patterns found) {file : String} (hfile : file ∈ found) :
    first glob isFile patterns file < patterns.length := by
  obtain ⟨other, hother, hmem⟩ := h.mem hfile
  exact Files.first_lt hother (listed_of_mem hmem)

theorem Resolved.first_eq (h : Resolved glob isFile patterns found) (hnew : listed found path = false)
    (hpath : listed (filesOf glob isFile pattern) path) :
    first glob isFile (patterns ++ [pattern]) path = patterns.length := by
  apply first_snoc _ hpath
  intro other hother
  apply Bool.eq_false_iff.mpr
  intro hlisted
  exact Bool.false_ne_true (hnew.symm.trans (h.covers hother hlisted))

theorem Resolved.merge (h : Resolved glob isFile patterns found) (pattern : String) :
    Resolved glob isFile (patterns ++ [pattern])
      (merge found ((filesOf glob isFile pattern).mergeSort Path.le)) := by
  obtain ⟨new, hnew⟩ := exists_merged h.distinct ((filesOf glob isFile pattern).mergeSort Path.le)
  have hsorted : new.Pairwise fun a b => Path.le a b := (Path.pairwise_mergeSort_le _).sublist hnew.sublist
  have hfiles : ∀ file ∈ new, file ∈ filesOf glob isFile pattern :=
    fun file hfile => List.mem_mergeSort.mp (hnew.sublist.subset hfile)
  have hlt : ∀ file ∈ found, first glob isFile patterns file < patterns.length := fun _ => h.first_lt
  have hfound : ∀ file ∈ found, first glob isFile (patterns ++ [pattern]) file = first glob isFile patterns file :=
    fun file hfile => first_append (hlt file hfile) _
  have hlast : ∀ file ∈ new, first glob isFile (patterns ++ [pattern]) file = patterns.length :=
    fun file hfile => h.first_eq (hnew.not_listed hfile) (listed_of_mem (hfiles file hfile))
  rw [hnew.merge_eq]
  constructor
  case named =>
    intro file hfile
    cases List.mem_append.mp hfile with
    | inl hfile =>
      obtain ⟨other, hother, hmem⟩ := h.named file hfile
      refine ⟨other, ?_, hmem⟩
      rw [hfound file hfile, List.getElem?_append_left (hlt file hfile), hother]
    | inr hfile =>
      refine ⟨pattern, ?_, hfiles file hfile⟩
      rw [hlast file hfile, List.getElem?_concat_length]
  case once =>
    intro other hother path hpath
    apply hnew.distinct.countP_eq_one
    cases List.mem_append.mp hother with
    | inl hother => rw [listed_append, h.covers hother (listed_of_mem hpath), Bool.true_or]
    | inr hother =>
      rw [List.mem_singleton.mp hother] at hpath
      exact hnew.covers path (List.mem_mergeSort.mpr hpath)
  case ordered =>
    refine List.pairwise_append.mpr ⟨h.ordered.imp_of_mem ?_, hsorted.imp_of_mem ?_, ?_⟩
    · intro a b ha hb hab
      rwa [hfound a ha, hfound b hb]
    · intro a b ha hb hab
      exact .inr ⟨(hlast a ha).trans (hlast b hb).symm, hab⟩
    · intro a ha b hb
      rw [hfound a ha, hlast b hb]
      exact .inl (hlt a ha)

variable (glob isFile)

def Matches (pattern : String) : Prop := ∃ paths, glob pattern = some paths ∧ ∃ path ∈ paths, isFile path

inductive Offends (pattern : String) : InputError → Prop
  | invalid (h : glob pattern = none) : Offends pattern (.invalidPattern pattern)
  | unmatched {paths : List String} (h : glob pattern = some paths) (hpaths : ∀ path ∈ paths, ¬isFile path) :
    Offends pattern (.notFound pattern)

inductive FirstOffends (patterns : List String) (error : InputError) : Prop
  | intro {front back : List String} {pattern : String} (heq : patterns = front ++ pattern :: back)
    (hfront : ∀ other ∈ front, Matches glob isFile other) (hpattern : Offends glob isFile pattern error) :
    FirstOffends patterns error

variable {glob isFile}

theorem exists_offends (h : ¬Matches glob isFile pattern) : ∃ error, Offends glob isFile pattern error := by
  cases hglob : glob pattern with
  | none => exact ⟨_, .invalid hglob⟩
  | some paths => exact ⟨_, .unmatched hglob fun path hpath hfile => h ⟨paths, hglob, path, hpath, hfile⟩⟩

theorem Offends.not_matches {error : InputError} (h : Offends glob isFile pattern error) :
    ¬Matches glob isFile pattern := by
  intro hmatches
  obtain ⟨paths, hglob, path, hpath, hfile⟩ := hmatches
  cases h with
  | invalid h => simp [h] at hglob
  | unmatched h hpaths =>
    obtain rfl := Option.some.inj (h.symm.trans hglob)
    exact hpaths path hpath hfile

theorem resolveFrom_of_matches (h : Matches glob isFile pattern) (found patterns : List String) :
    resolveFrom glob isFile found (pattern :: patterns)
      = resolveFrom glob isFile (merge found ((filesOf glob isFile pattern).mergeSort Path.le)) patterns := by
  obtain ⟨paths, hglob, path, hpath, hfile⟩ := h
  have hmem : path ∈ paths.filter isFile := List.mem_filter.mpr ⟨hpath, hfile⟩
  have hfiles : filesOf glob isFile pattern = paths.filter isFile := by simp [filesOf, hglob]
  rw [resolveFrom, hglob, hfiles]
  cases hfilter : paths.filter isFile with
  | nil => exact absurd hmem (hfilter ▸ List.not_mem_nil)
  | cons file files => simp only [hfilter]

theorem resolveFrom_of_offends {error : InputError} (h : Offends glob isFile pattern error)
    (found patterns : List String) : resolveFrom glob isFile found (pattern :: patterns) = .error error := by
  cases h with
  | invalid h => rw [resolveFrom, h]
  | unmatched h hpaths =>
    have hnil : List.filter isFile _ = [] := List.filter_eq_nil_iff.mpr hpaths
    rw [resolveFrom, h]
    simp only [hnil]

theorem resolveFrom_append {front : List String} (h : ∀ pattern ∈ front, Matches glob isFile pattern)
    (hfound : Resolved glob isFile patterns found) :
    ∃ files, Resolved glob isFile (patterns ++ front) files
      ∧ ∀ back, resolveFrom glob isFile found (front ++ back) = resolveFrom glob isFile files back := by
  induction front generalizing patterns found with
  | nil => exact ⟨found, by simpa using hfound, fun _ => rfl⟩
  | cons pattern front ih =>
    obtain ⟨hpattern, hfront⟩ := List.forall_mem_cons.mp h
    obtain ⟨files, hfiles, hback⟩ := ih hfront (hfound.merge pattern)
    refine ⟨files, by simpa using hfiles, ?_⟩
    intro back
    rw [List.cons_append, resolveFrom_of_matches hpattern, hback]

theorem FirstOffends.not_matches {error : InputError} (h : FirstOffends glob isFile patterns error) :
    ¬∀ pattern ∈ patterns, Matches glob isFile pattern := by
  obtain ⟨rfl, -, hpattern⟩ := h
  intro hall
  exact hpattern.not_matches (hall _ (by simp))

theorem exists_firstOffends (h : ¬∀ pattern ∈ patterns, Matches glob isFile pattern) :
    ∃ error, FirstOffends glob isFile patterns error := by
  obtain ⟨front, pattern, back, heq, hfront, hpattern⟩ := exists_first h
  obtain ⟨error, herror⟩ := exists_offends hpattern
  exact ⟨error, heq, hfront, herror⟩

theorem resolveFrom_of_firstOffends {error : InputError} (h : FirstOffends glob isFile patterns error) :
    resolveFrom glob isFile [] patterns = .error error := by
  obtain ⟨rfl, hfront, hpattern⟩ := h
  obtain ⟨files, -, hfiles⟩ := resolveFrom_append hfront .nil
  rw [hfiles, resolveFrom_of_offends hpattern]

theorem exists_resolved (h : ∀ pattern ∈ patterns, Matches glob isFile pattern) :
    ∃ files, resolveFrom glob isFile [] patterns = .ok files ∧ Resolved glob isFile patterns files := by
  obtain ⟨files, hfiles, hback⟩ := resolveFrom_append h .nil
  exact ⟨files, by simpa [resolveFrom] using hback [], hfiles⟩

end Resolve

/-- Patterns that all match files give each of these files once, in the order of the patterns and sorted for each of
them; otherwise the first pattern that does not is named. -/
theorem every_file_once_by_first_pattern (glob : String → Option (List String)) (isFile : String → Bool)
    (patterns : List String) :
    ((∃ files, resolveFrom glob isFile [] patterns = .ok files) ↔ ∀ pattern ∈ patterns, Matches glob isFile pattern)
      ∧ (∀ files, resolveFrom glob isFile [] patterns = .ok files → Resolved glob isFile patterns files)
      ∧ ∀ error, resolveFrom glob isFile [] patterns = .error error ↔ FirstOffends glob isFile patterns error := by
  by_cases hall : ∀ pattern ∈ patterns, Matches glob isFile pattern
  · obtain ⟨files, hok, hresolved⟩ := exists_resolved hall
    rw [hok]
    refine ⟨⟨fun _ => hall, fun _ => ⟨files, rfl⟩⟩, ?_, ?_⟩
    · intro others heq
      exact Except.ok.inj heq ▸ hresolved
    · intro error
      exact ⟨nofun, fun hfirst => absurd hall hfirst.not_matches⟩
  · obtain ⟨error, hfirst⟩ := exists_firstOffends hall
    rw [resolveFrom_of_firstOffends hfirst]
    refine ⟨⟨nofun, fun hmatch => absurd hmatch hall⟩, nofun, ?_⟩
    intro other
    constructor
    · intro heq
      exact Except.error.inj heq ▸ hfirst
    · intro hother
      exact (resolveFrom_of_firstOffends hfirst).symm.trans (resolveFrom_of_firstOffends hother)

end TextBoundary.Files
