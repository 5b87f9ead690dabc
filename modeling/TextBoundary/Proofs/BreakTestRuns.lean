import TextBoundary.Proofs.BreakTestLines
import TextBoundary.Proofs.Parts

namespace TextBoundary

namespace CodePoint

theorem Details.exists_of (index : Nat) (c : Char) : ∃ d, Details.of index c.toNat = .ok d := by
  have hvalid : c.toNat < 0xD800 ∨ 0xDFFF < c.toNat ∧ c.toNat < 0x110000 := c.valid
  have hle : c.toNat ≤ maximum := by
    rw [maximum]
    omega
  simp only [Details.of, generalCode, generalCategory, categoryNames, check_eq _ hle]
  exact ⟨_, rfl⟩

theorem Details.exists_ofChars (index : Nat) (chars : List Char) : ∃ ds, ofChars index chars = .ok ds := by
  induction chars generalizing index with
  | nil => exact ⟨[], rfl⟩
  | cons c chars ih =>
    obtain ⟨d, hd⟩ := exists_of index c
    obtain ⟨ds, hds⟩ := ih (index + 1)
    rw [ofChars] at hds
    rw [ofChars, List.map_cons, listFrom, hd, hds]
    exact ⟨d :: ds, rfl⟩

end CodePoint

namespace BreakTest

variable {kind : Kind} {expected found seen : List Nat} {t : BreakTest} {s : Statement}

def text (t : BreakTest) : Text := ⟨.codePoints, t.chars⟩

/-- The longest run at the beginning of the found boundaries that are all expected. -/
structure LongestRun (expected found seen : List Nat) : Prop where
  initial : seen <+: found
  expects : ∀ p ∈ seen, p ∈ expected
  longest : ∀ other, other <+: found → (∀ p ∈ other, p ∈ expected) → other <+: seen

theorem longestRun_takeWhile (expected found : List Nat) :
    LongestRun expected found (found.takeWhile expected.contains) where
  initial := List.takeWhile_prefix _
  expects := fun p hp => by simpa using List.mem_takeWhile_imp hp
  longest := by
    rintro other ⟨rest, rfl⟩ hother
    rw [List.takeWhile_append_of_pos (by simpa using hother)]
    exact List.prefix_append _ _

theorem LongestRun.unique {other : List Nat} (h : LongestRun expected found seen)
    (h' : LongestRun expected found other) : seen = other :=
  (h'.longest seen h.initial h.expects).eq_of_length_le (h.longest other h'.initial h'.expects).length_le

def Verdict.seen? : Verdict → Option (List Nat)
  | .passed => none
  | .unexpected seen _ => some seen
  | .missing seen => some seen

theorem seen?_eq_none_iff {verdict : Verdict} : verdict.seen? = none ↔ verdict = .passed := by
  cases verdict <;> simp [Verdict.seen?]

theorem seen?_judge (expected found : List Nat) :
    (judge expected found).seen?
      = if found = expected then none else some (found.takeWhile expected.contains) := by
  have hfound : found.takeWhile expected.contains ++ found.dropWhile expected.contains = found :=
    List.takeWhile_append_dropWhile
  rw [judge]
  cases hrest : found.dropWhile expected.contains with
  | nil =>
    rw [hrest, List.append_nil] at hfound
    rw [hfound]
    by_cases heq : found = expected
    · simp [heq, Verdict.seen?]
    · simp [heq, Verdict.seen?]
  | cons next rest =>
    have hne : found ≠ expected := by
      rintro rfl
      rw [List.dropWhile_eq_nil_iff.mpr (by simp)] at hrest
      exact nomatch hrest
    rw [if_neg hne]
    rfl

theorem judge_of_expected (h : ∀ p ∈ found, p ∈ expected) :
    judge expected found = if found = expected then .passed else .missing found := by
  have hcontains : ∀ p ∈ found, expected.contains p := by simpa using h
  rw [judge, List.dropWhile_eq_nil_iff.mpr hcontains, List.takeWhile_eq_self_iff.mpr hcontains]

theorem judge_of_unexpected {next : Nat} (h : ∀ p ∈ seen, p ∈ expected) (hnext : next ∉ expected) (rest : List Nat) :
    judge expected (seen ++ next :: rest) = .unexpected seen next := by
  have hcontains : ∀ p ∈ seen, expected.contains p := by simpa using h
  have hstop : ¬expected.contains next := by simpa using hnext
  rw [judge, List.dropWhile_append_of_pos hcontains, List.dropWhile_cons_of_neg hstop,
    List.takeWhile_append_of_pos hcontains, List.takeWhile_cons_of_neg hstop, List.append_nil]

/-- How a test goes on at an offset when some boundaries have been seen: from each to the next, up to the first that
is not expected. -/
inductive Goes (kind : Kind) (t : BreakTest) : Nat → List Nat → Verdict → Prop
  | ended {offset : Nat} {seen : List Nat} (hend : t.text.length ≤ offset) :
    Goes kind t offset seen (if seen = t.breaks then .passed else .missing seen)
  | stopped {offset next : Nat} {seen : List Nat} (hlt : offset < t.text.length)
    (hnext : t.text.nextBreak kind offset = .ok next) (hnot : next ∉ t.breaks) :
    Goes kind t offset seen (.unexpected seen next)
  | again {offset next : Nat} {seen : List Nat} {verdict : Verdict} (hlt : offset < t.text.length)
    (hnext : t.text.nextBreak kind offset = .ok next) (hmem : next ∈ t.breaks)
    (hrest : Goes kind t next (seen ++ [next]) verdict) : Goes kind t offset seen verdict

theorem goes_of_walk {offset : Nat} (h : t.text.Walk kind offset found) (hseen : ∀ p ∈ seen, p ∈ t.breaks) :
    t.Goes kind offset seen (judge t.breaks (seen ++ found)) := by
  induction h generalizing seen with
  | finish hend =>
    rw [List.append_nil, judge_of_expected hseen]
    exact .ended hend
  | @step offset next positions hlt hnext _ ih =>
    by_cases hmem : next ∈ t.breaks
    · have hrest := ih (List.forall_mem_append.mpr ⟨hseen, List.forall_mem_singleton.mpr hmem⟩)
      rw [List.append_assoc, List.singleton_append] at hrest
      exact .again hlt hnext hmem hrest
    · rw [judge_of_unexpected hseen hmem]
      exact .stopped hlt hnext hmem

def report? (kind : Kind) (t : BreakTest) : Except TextError (Option Failure) := do failure? t (← run kind t)

theorem failure?_eq (t : BreakTest) (verdict : Verdict) :
    ∃ outcome, failure? t verdict = .ok outcome ∧ outcome.map Failure.seen = verdict.seen?
      ∧ ∀ f ∈ outcome, f.line = t.line ∧ f.expected = t.breaks := by
  obtain ⟨ds, hds⟩ := CodePoint.Details.exists_ofChars 0 t.chars
  cases verdict with
  | passed => exact ⟨none, rfl, rfl, by simp⟩
  | unexpected seen next =>
    rw [failure?, hds]
    exact ⟨some _, rfl, rfl, by simp⟩
  | missing seen =>
    rw [failure?, hds]
    exact ⟨some _, rfl, rfl, by simp⟩

theorem exists_walk (kind : Kind) (t : Text) : ∃ found, t.Walk kind 0 found ∧ t.breaks kind 0 = .ok found := by
  obtain ⟨runs, hparts, hruns⟩ := kind.exists_parts t.chars
  have hchars : t.chars = [] ++ runs.flatten := hruns.symm
  exact ⟨_, Text.walk_parts hparts hchars, Text.breaks_parts hparts hchars⟩

theorem walk_iff {t : Text} : t.Walk kind 0 found ↔ t.breaks kind 0 = .ok found := by
  obtain ⟨other, hwalk, hbreaks⟩ := exists_walk kind t
  constructor <;> intro h
  · rwa [h.unique hwalk] at hbreaks
  · rw [hbreaks, Except.ok.injEq] at h
    rwa [h] at hwalk

theorem exists_verdict (kind : Kind) (t : BreakTest) :
    ∃ found verdict, t.text.Walk kind 0 found ∧ run kind t = .ok verdict ∧ t.Goes kind 0 [] verdict
      ∧ (verdict = .passed ↔ found = t.breaks) ∧ ∀ seen ∈ verdict.seen?, LongestRun t.breaks found seen := by
  obtain ⟨found, hwalk, hbreaks⟩ := exists_walk kind t.text
  have hseen := seen?_judge t.breaks found
  refine ⟨found, judge t.breaks found, hwalk, ?_, goes_of_walk hwalk (List.forall_mem_nil _), ?_, ?_⟩
  · rw [run, ← text, hbreaks]
    rfl
  · rw [← seen?_eq_none_iff, hseen]
    simp
  · rw [hseen]
    rintro seen hmem
    split at hmem
    case isTrue => exact nomatch hmem
    case isFalse =>
      rw [← Option.some.inj hmem]
      exact longestRun_takeWhile t.breaks found

theorem exists_report {verdict : Verdict} (h : run kind t = .ok verdict) :
    ∃ outcome, report? kind t = .ok outcome ∧ (outcome = none ↔ verdict = .passed)
      ∧ ∀ f ∈ outcome, f.line = t.line ∧ f.expected = t.breaks ∧ f.seen ∈ verdict.seen? := by
  obtain ⟨outcome, houtcome, hseen, hfailure⟩ := failure?_eq t verdict
  refine ⟨outcome, ?_, ?_, fun f hf => ?_⟩
  · rw [report?, h]
    exact houtcome
  · rw [← Option.map_eq_none_iff (f := Failure.seen), hseen, seen?_eq_none_iff]
  · obtain ⟨hline, hexpected⟩ := hfailure f hf
    rw [← hseen]
    exact ⟨hline, hexpected, Option.mem_map_of_mem _ hf⟩

namespace Statement

def Holds (kind : Kind) (s : Statement) : Prop := Text.Walk kind ⟨.codePoints, s.chars⟩ 0 s.breaks

theorem holds_iff {found : List Nat} (h : Text.Walk kind ⟨.codePoints, s.chars⟩ 0 found) :
    s.Holds kind ↔ found = s.breaks := by
  refine ⟨fun hholds => hholds.unique h, fun heq => ?_⟩
  rw [heq] at h
  exact h

instance (kind : Kind) (s : Statement) : Decidable (s.Holds kind) := decidable_of_iff _ walk_iff.symm

end Statement

structure Failure.Tells (kind : Kind) (entry : Nat × Statement) (f : Failure) : Prop where
  line_eq : f.line = entry.1
  expected_eq : f.expected = entry.2.breaks
  seen : ∃ found, Text.Walk kind ⟨.codePoints, entry.2.chars⟩ 0 found ∧ LongestRun entry.2.breaks found f.seen

/-- A summary of all that was looked at. -/
structure Summary.Counts (kind : Kind) (entries : List (Nat × Statement)) (summary : Summary) : Prop where
  kind_eq : summary.kind = kind
  passed_eq : summary.passed = entries.countP fun entry => entry.2.Holds kind
  failed_eq : summary.failed = entries.countP fun entry => ¬entry.2.Holds kind
  failures : List.Forall₂ (Failure.Tells kind) (entries.filter fun entry => ¬entry.2.Holds kind) summary.failures

def examined (kind : Kind) (failFast : Bool) (entries : List (Nat × Statement)) : List (Nat × Statement) :=
  if failFast then
    entries.takeWhile (fun entry => entry.2.Holds kind) ++ (entries.dropWhile fun entry => entry.2.Holds kind).take 1
  else entries

variable {entry : Nat × Statement} {entries : List (Nat × Statement)} {failFast : Bool} {tests : List BreakTest}
  {summary : Summary} {f : Failure}

theorem examined_of_holds (h : entry.2.Holds kind) :
    examined kind failFast (entry :: entries) = entry :: examined kind failFast entries := by
  cases failFast <;> simp [examined, h]

theorem examined_of_not_holds (h : ¬entry.2.Holds kind) :
    examined kind failFast (entry :: entries)
      = entry :: if failFast then [] else examined kind failFast entries := by
  cases failFast <;> simp [examined, h]

namespace Summary.Counts

theorem nil : Counts kind [] ⟨kind, 0, 0, []⟩ := ⟨rfl, rfl, rfl, .nil⟩

theorem passed (h : summary.Counts kind entries) (hholds : entry.2.Holds kind) :
    Counts kind (entry :: entries) { summary with passed := summary.passed + 1 } where
  kind_eq := h.kind_eq
  passed_eq := by simp [h.passed_eq, hholds]
  failed_eq := by simp [h.failed_eq, hholds]
  failures := by simpa [hholds] using h.failures

theorem failed (h : summary.Counts kind entries) (hholds : ¬entry.2.Holds kind) (hf : f.Tells kind entry) :
    Counts kind (entry :: entries)
      { summary with failed := summary.failed + 1, failures := f :: summary.failures } where
  kind_eq := h.kind_eq
  passed_eq := by simp [h.passed_eq, hholds]
  failed_eq := by simp [h.failed_eq, hholds]
  failures := by
    rw [List.filter_cons_of_pos (by simpa using hholds)]
    exact .cons hf h.failures

end Summary.Counts

theorem summarize_cons (kind : Kind) (failFast : Bool) (t : BreakTest) (tests : List BreakTest) :
    summarize kind failFast (t :: tests) = do
      match ← report? kind t with
      | none =>
        let rest ← summarize kind failFast tests
        return { rest with passed := rest.passed + 1 }
      | some f =>
        if failFast then return ⟨kind, 0, 1, [f]⟩
        else
          let rest ← summarize kind failFast tests
          return { rest with failed := rest.failed + 1, failures := f :: rest.failures } :=
  (bind_assoc (run kind t) (failure? t) _).symm

theorem map_eq_of_gives (h : List.Forall₂ Gives tests entries) :
    tests.map (fun t => (t.line, t.chars, t.breaks))
      = entries.map fun (number, s) => (number, s.chars, s.breaks) := by
  induction h with
  | nil => rfl
  | cons hgives _ ih => rw [List.map_cons, List.map_cons, ih, hgives.line_eq, hgives.chars_eq, hgives.breaks_eq]

theorem exists_summary (h : List.Forall₂ Gives tests entries) (kind : Kind) (failFast : Bool) :
    ∃ summary, summarize kind failFast tests = .ok summary
      ∧ summary.Counts kind (examined kind failFast entries) := by
  induction h with
  | nil =>
    refine ⟨⟨kind, 0, 0, []⟩, rfl, ?_⟩
    cases failFast <;> exact .nil
  | @cons t entry tests entries hgives _ ih =>
    obtain ⟨rest, hrest, hcounts⟩ := ih
    obtain ⟨found, verdict, hwalk, hrun, -, hpassed, hlongest⟩ := exists_verdict kind t
    obtain ⟨outcome, hreport, hnone, hsome⟩ := exists_report hrun
    rw [text, hgives.chars_eq] at hwalk
    rw [hpassed, hgives.breaks_eq, ← Statement.holds_iff hwalk] at hnone
    rw [summarize_cons, hreport, hrest]
    cases outcome with
    | none =>
      have hholds : entry.2.Holds kind := hnone.mp rfl
      rw [examined_of_holds hholds]
      exact ⟨_, rfl, hcounts.passed hholds⟩
    | some f =>
      have hholds : ¬entry.2.Holds kind := mt hnone.mpr (Option.some_ne_none f)
      obtain ⟨hline, hexpected, hseen⟩ := hsome f rfl
      have hseen := hlongest f.seen hseen
      rw [hgives.breaks_eq] at hexpected hseen
      have htells : f.Tells kind entry := ⟨hline.trans hgives.line_eq, hexpected, found, hwalk, hseen⟩
      rw [examined_of_not_holds hholds]
      cases failFast with
      | true => exact ⟨_, rfl, Summary.Counts.nil.failed hholds htells⟩
      | false => exact ⟨_, rfl, hcounts.failed hholds htells⟩

/-- A file of lines that state boundaries, with other lines in between, is read as these statements. A test goes from
boundary to boundary; it passes exactly when those found are those stated, else as many are reported as agree from the
start on. The summary counts what passes and what fails, up to the first failure where it is to stop there. -/
theorem tests_pass_where_boundaries_agree {content : String} {entries : List (Option Statement)}
    (h : States content entries) :
    ∃ tests, parse content = .ok tests
      ∧ tests.map (fun t => (t.line, t.chars, t.breaks))
        = (numbered 1 entries).map (fun (number, s) => (number, s.chars, s.breaks))
      ∧ (∀ kind, ∀ t ∈ tests, ∃ found verdict, t.text.Walk kind 0 found ∧ run kind t = .ok verdict
        ∧ t.Goes kind 0 [] verdict ∧ (verdict = .passed ↔ found = t.breaks)
        ∧ ∀ seen ∈ verdict.seen?, LongestRun t.breaks found seen)
      ∧ ∀ kind failFast, ∃ summary, summarize kind failFast tests = .ok summary
        ∧ summary.Counts kind (examined kind failFast (numbered 1 entries)) := by
  obtain ⟨tests, htests, hgives⟩ := parse_eq h
  exact ⟨tests, htests, map_eq_of_gives hgives, fun kind t _ => exists_verdict kind t, exists_summary hgives⟩

theorem left_out_boundary_is_reported :
    let content := "# é\n÷ 61 ÷ 0062 × 6A ÷# ÷\n\n ÷ 61 ÷\n"
    let wrong : Statement := ⟨['a', 'b', 'j'], {1}, by decide, by decide⟩
    let right : Statement := ⟨['a'], ∅, by decide, by decide⟩
    States content [none, some wrong, none, some right, none] ∧ ∃ tests, parse content = .ok tests
      ∧ tests.map (fun t => (t.line, t.chars, t.breaks)) = [(2, ['a', 'b', 'j'], [1, 3]), (4, ['a'], [1])]
      ∧ (∃ summary, summarize .grapheme false tests = .ok summary ∧ summary.passed = 1 ∧ summary.failed = 1
        ∧ summary.failures.map (fun f => (f.line, f.seen)) = [(2, [1])])
      ∧ ∃ summary, summarize .grapheme true tests = .ok summary ∧ summary.passed = 0 ∧ summary.failed = 1 := by
  intro content wrong right
  have hwrong : Line (some wrong) ([] ++ ([' '].intercalate
      (wrong.fields [['6', '1'], ['0', '0', '6', '2'], ['6', 'A']]) ++ ['#', ' ', '÷'])) := by
    refine .test (.cons ⟨by decide, [6, 1], ?_, by decide⟩ (.cons ⟨by decide, [0, 0, 6, 2], ?_, by decide⟩
      (.cons ⟨by decide, [6, 10], ?_, by decide⟩ .nil))) nofun (Blank.spaced_intercalate (List.cons_ne_nil _ _))
      (comment_hash _) <;> decide
  have hright : Line (some right) ([' '] ++ ([' '].intercalate (right.fields [['6', '1']]) ++ [])) := by
    refine .test (.cons ⟨by decide, [6, 1], ?_, by decide⟩ .nil) Blank.blanks_space
      (Blank.spaced_intercalate (List.cons_ne_nil _ _)) nofun
    decide
  have hbare : Line none ([] ++ ['#', ' ', 'é']) := .bare nofun (comment_hash _)
  have hempty : Line none ([] ++ []) := .bare nofun nofun
  have h : States content [none, some wrong, none, some right, none] :=
    .lines (by decide +kernel) (by decide +kernel)
      (.cons hbare (.cons hwrong (.cons hempty (.cons hright (.cons hempty .nil)))))
  obtain ⟨tests, hparse, hmap, -, hsummary⟩ := tests_pass_where_boundaries_agree h
  refine ⟨h, tests, hparse, hmap.trans (by decide +kernel), ?_, ?_⟩
  · obtain ⟨summary, hsummarize, hcounts⟩ := hsummary .grapheme false
    have hfilter : (examined .grapheme false (numbered 1 [none, some wrong, none, some right, none])).filter
        (fun entry => ¬entry.2.Holds .grapheme) = [(2, wrong)] := by decide +kernel
    have hfailures := hcounts.failures
    rw [hfilter, List.forall₂_cons_left_iff] at hfailures
    obtain ⟨f, others, hf, hothers, hfailures⟩ := hfailures
    obtain ⟨found, hwalk, hrun⟩ := hf.seen
    have hbreaks : Text.breaks .grapheme ⟨.codePoints, ['a', 'b', 'j']⟩ 0 = .ok [1, 2, 3] := by decide +kernel
    have hfound : found = [1, 2, 3] := (walk_iff.mpr hbreaks).unique hwalk
    have htaken : [1, 2, 3].takeWhile wrong.breaks.contains = [1] := by decide +kernel
    rw [hfound] at hrun
    have hseen : f.seen = [1] := (hrun.unique (longestRun_takeWhile _ _)).trans htaken
    refine ⟨summary, hsummarize, hcounts.passed_eq.trans (by decide +kernel),
      hcounts.failed_eq.trans (by decide +kernel), ?_⟩
    rw [hfailures, List.forall₂_nil_left_iff.mp hothers, List.map_singleton, hf.line_eq, hseen]
  · obtain ⟨summary, hsummarize, hcounts⟩ := hsummary .grapheme true
    exact ⟨summary, hsummarize, hcounts.passed_eq.trans (by decide +kernel),
      hcounts.failed_eq.trans (by decide +kernel)⟩

end BreakTest
end TextBoundary
