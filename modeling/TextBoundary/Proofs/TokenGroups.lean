import Mathlib.Data.List.Basic
import TextBoundary.Tokenizer.Token

namespace TextBoundary.Tokenizer

variable {length : Nat} {options : Options} {kept : List Report} {r : Report}

namespace Report

def Known (r : Report) : Prop := r.flags = 0 ∨ r.flags = colocatedFlag

def Fits (r : Report) (length : Nat) : Prop := r.start ≤ r.stop ∧ r.stop ≤ length

theorem Known.not_unknown (h : r.Known) : ¬(r.flags ≠ 0 ∧ r.flags ≠ colocatedFlag) :=
  fun hne => h.elim hne.1 hne.2

theorem Fits.not_outside (h : r.Fits length) : ¬(r.stop < r.start ∨ length < r.stop) :=
  not_or.mpr ⟨Nat.not_lt.mpr h.1, Nat.not_lt.mpr h.2⟩

theorem ne_colocated (h : r.flags = 0) : r.flags ≠ colocatedFlag := by
  rw [h]
  decide

end Report

/-- A primary report and the colocated ones that go with it. -/
structure Group where
  primary : Report
  colocated : List Report

namespace Group

def reports (g : Group) : List Report := g.primary :: g.colocated

def token (options : Options) (g : Group) : Token where
  text := g.primary.text
  span := if options.includeOffsets then some ⟨g.primary.start, g.primary.stop⟩ else none
  colocated := if options.includeColocated then g.colocated.map Report.text else []

def push (g : Group) (r : Report) : Group := { g with colocated := g.colocated ++ [r] }

end Group

/-- Reports in groups, of which every one begins at a primary report. -/
structure Grouped (kept : List Report) (groups : List Group) : Prop where
  reports_eq : kept = groups.flatMap Group.reports
  primary : ∀ g ∈ groups, g.primary.flags = 0
  colocated : ∀ g ∈ groups, ∀ r ∈ g.colocated, r.flags = colocatedFlag

namespace Grouped

variable {groups : List Group} {last : Group}

theorem nil : Grouped [] [] := ⟨rfl, (fun _ h => nomatch h), fun _ h => nomatch h⟩

theorem snoc (h : Grouped kept groups) (hr : r.flags = 0) :
    Grouped (kept ++ [r]) (groups ++ [⟨r, []⟩]) where
  reports_eq := by simp [h.reports_eq, Group.reports]
  primary := List.forall_mem_append.mpr ⟨h.primary, List.forall_mem_singleton.mpr hr⟩
  colocated := List.forall_mem_append.mpr
    ⟨h.colocated, List.forall_mem_singleton.mpr fun _ h => nomatch h⟩

theorem push (h : Grouped kept (groups ++ [last])) (hr : r.flags = colocatedFlag) :
    Grouped (kept ++ [r]) (groups ++ [last.push r]) := by
  obtain ⟨hprimary, hlast⟩ := List.forall_mem_append.mp h.primary
  obtain ⟨hcolocated, hbehind⟩ := List.forall_mem_append.mp h.colocated
  rw [List.forall_mem_singleton] at hlast hbehind
  refine ⟨by simp [h.reports_eq, Group.reports, Group.push], ?_, ?_⟩
  · exact List.forall_mem_append.mpr ⟨hprimary, List.forall_mem_singleton.mpr hlast⟩
  · refine List.forall_mem_append.mpr ⟨hcolocated, List.forall_mem_singleton.mpr ?_⟩
    exact List.forall_mem_append.mpr ⟨hbehind, List.forall_mem_singleton.mpr hr⟩

theorem primary_mem (h : Grouped kept groups) {g : Group} (hg : g ∈ groups) : g.primary ∈ kept := by
  rw [h.reports_eq]
  exact List.mem_flatMap_of_mem hg (.head _)

theorem exists_primary_iff (h : Grouped kept groups) : (∃ p ∈ kept, p.flags = 0) ↔ groups ≠ [] := by
  cases groups with
  | nil => simp [h.reports_eq]
  | cons g groups =>
    exact iff_of_true ⟨g.primary, h.primary_mem (.head _), h.primary g (.head _)⟩ (List.cons_ne_nil _ _)

theorem flatMap_texts (h : Grouped kept groups) :
    (groups.map (Group.token .default)).flatMap Token.texts = kept.map Report.text := by
  rw [h.reports_eq, List.map_flatMap, List.flatMap_map]
  rfl

end Grouped

namespace Collector

def answer (c : Collector) (r : Report) : Except TokenizerError Unit := ((sink r).run.run c).1

def after (c : Collector) (r : Report) : Collector := ((sink r).run.run c).2

def afterAll (c : Collector) (reports : List Report) : Collector := reports.foldl after c

/-- Those of the reports that are not refused when they come one after the other. -/
def taken : Collector → List Report → List Report
  | _, [] => []
  | c, r :: rs => if (c.answer r).isOk then r :: (c.after r).taken rs else (c.after r).taken rs

def ofGroups (length : Nat) (options : Options) (groups : List Group) : Collector :=
  ⟨length, options, (groups.map (Group.token options)).reverse⟩

variable {c d : Collector} {groups : List Group} {last : Group} {e : TokenizerError}

theorem run_sink (c : Collector) (r : Report) : (sink r).run.run c
    = match c.add r with
      | .ok d => (.ok (), d)
      | .error e => (.error e, c) := by
  change (match c.add r with
    | .ok d => set d
    | .error e => throw e : ExceptT TokenizerError (StateM Collector) Unit).run.run c = _
  cases c.add r <;> rfl

theorem answer_of_ok (h : c.add r = .ok d) : c.answer r = .ok () ∧ c.after r = d := by
  rw [answer, after, run_sink, h]
  exact ⟨rfl, rfl⟩

theorem answer_of_error (h : c.add r = .error e) : c.answer r = .error e ∧ c.after r = c := by
  rw [answer, after, run_sink, h]
  exact ⟨rfl, rfl⟩

theorem add_of_unknown (h : ¬r.Known) : c.add r = .error (.invalidFlags r.flags) :=
  if_pos (not_or.mp h)

theorem add_of_outside (h : r.Known) (hfits : ¬r.Fits c.length) :
    c.add r = .error (.invalidSpan r.start r.stop c.length) := by
  have houtside : r.stop < r.start ∨ c.length < r.stop := by
    rw [Report.Fits] at hfits
    omega
  rw [add, if_neg h.not_unknown, if_pos houtside]

theorem add_of_primary (h : r.flags = 0) (hfits : r.Fits c.length) :
    c.add r = .ok { c with newest := Group.token c.options ⟨r, []⟩ :: c.newest } := by
  rw [add, if_neg (Report.Known.not_unknown (.inl h)), if_neg hfits.not_outside,
    if_neg (Report.ne_colocated h)]
  simp [Group.token]

theorem add_of_colocated (h : r.flags = colocatedFlag) (hfits : r.Fits c.length) : c.add r
    = match c.newest with
      | [] => .error .colocatedWithoutToken
      | last :: earlier =>
        if c.options.includeColocated then
          .ok { c with newest := { last with colocated := last.colocated ++ [r.text] } :: earlier }
        else .ok c :=
  (if_neg (Report.Known.not_unknown (.inr h))).trans ((if_neg hfits.not_outside).trans (if_pos h))

theorem add_snoc (h : r.flags = 0) (hfits : r.Fits length) :
    (ofGroups length options groups).add r = .ok (ofGroups length options (groups ++ [⟨r, []⟩])) := by
  rw [add_of_primary h hfits]
  simp [ofGroups]

theorem add_alone (h : r.flags = colocatedFlag) (hfits : r.Fits length) :
    (ofGroups length options []).add r = .error .colocatedWithoutToken := add_of_colocated h hfits

theorem add_push (h : r.flags = colocatedFlag) (hfits : r.Fits length) :
    (ofGroups length options (groups ++ [last])).add r
      = .ok (ofGroups length options (groups ++ [last.push r])) := by
  have hnewest : (ofGroups length options (groups ++ [last])).newest
      = last.token options :: (ofGroups length options groups).newest := by simp [ofGroups]
  rw [add_of_colocated h hfits, hnewest]
  cases hcolocated : options.includeColocated <;> simp [ofGroups, Group.token, Group.push, hcolocated]

/-- Everything that can come of a report when others were taken before. -/
inductive Verdict (length : Nat) (options : Options) (kept : List Report) (groups : List Group)
    (r : Report) (answer : Except TokenizerError Unit) (after : Collector) : Prop
  | flags (hflags : ¬r.Known) (hanswer : answer = .error (.invalidFlags r.flags))
      (hafter : after = ofGroups length options groups)
  | span (hflags : r.Known) (hspan : ¬r.Fits length)
      (hanswer : answer = .error (.invalidSpan r.start r.stop length))
      (hafter : after = ofGroups length options groups)
  | alone (hflags : r.flags = colocatedFlag) (hspan : r.Fits length) (hgroups : groups = [])
      (hanswer : answer = .error .colocatedWithoutToken) (hafter : after = ofGroups length options groups)
  | took (hflags : r.Known) (hspan : r.Fits length) (hgroups : r.flags = colocatedFlag → groups ≠ [])
      (hanswer : answer = .ok ()) {more : List Group} (hmore : Grouped (kept ++ [r]) more)
      (hafter : after = ofGroups length options more)

theorem verdict (h : Grouped kept groups) (length : Nat) (options : Options) (r : Report) :
    Verdict length options kept groups r ((ofGroups length options groups).answer r)
      ((ofGroups length options groups).after r) := by
  by_cases hflags : r.Known
  case neg =>
    obtain ⟨hanswer, hafter⟩ := answer_of_error (add_of_unknown hflags)
    exact .flags hflags hanswer hafter
  by_cases hspan : r.Fits length
  case neg =>
    obtain ⟨hanswer, hafter⟩ :=
      answer_of_error (show (ofGroups length options groups).add r = _ from add_of_outside hflags hspan)
    exact .span hflags hspan hanswer hafter
  rcases hflags with hprimary | hcolocated
  · obtain ⟨hanswer, hafter⟩ := answer_of_ok (add_snoc hprimary hspan)
    exact .took (.inl hprimary) hspan (absurd · (Report.ne_colocated hprimary)) hanswer (h.snoc hprimary) hafter
  rcases List.eq_nil_or_concat' groups with rfl | ⟨earlier, last, rfl⟩
  · obtain ⟨hanswer, hafter⟩ := answer_of_error (add_alone hcolocated hspan)
    exact .alone hcolocated hspan rfl hanswer hafter
  · obtain ⟨hanswer, hafter⟩ := answer_of_ok (add_push hcolocated hspan)
    exact .took (.inr hcolocated) hspan (fun _ => by simp) hanswer (h.push hcolocated) hafter

theorem exists_more (length : Nat) (options : Options) (h : Grouped kept groups)
    (hfits : ∀ r ∈ kept, r.Fits length) (reports : List Report) :
    ∃ more, (ofGroups length options groups).afterAll reports = ofGroups length options more
      ∧ Grouped (kept ++ (ofGroups length options groups).taken reports) more
      ∧ ∀ r ∈ kept ++ (ofGroups length options groups).taken reports, r.Fits length := by
  induction reports generalizing kept groups with
  | nil => exact ⟨groups, rfl, by rwa [taken, List.append_nil], by rwa [taken, List.append_nil]⟩
  | cons r rs ih =>
    have hrefused (e : TokenizerError) (hanswer : (ofGroups length options groups).answer r = .error e)
        (hafter : (ofGroups length options groups).after r = ofGroups length options groups) :
        (ofGroups length options groups).taken (r :: rs) = (ofGroups length options groups).taken rs := by
      rw [taken, hanswer, hafter]
      rfl
    rw [afterAll, List.foldl_cons, ← afterAll]
    cases verdict h length options r with
    | flags _ hanswer hafter =>
      rw [hrefused _ hanswer hafter, hafter]
      exact ih h hfits
    | span _ _ hanswer hafter =>
      rw [hrefused _ hanswer hafter, hafter]
      exact ih h hfits
    | alone _ _ _ hanswer hafter =>
      rw [hrefused _ hanswer hafter, hafter]
      exact ih h hfits
    | took _ hspan _ hanswer hmore hafter =>
      have htaken : (ofGroups length options groups).taken (r :: rs)
          = r :: ((ofGroups length options groups).after r).taken rs := by
        rw [taken, hanswer]
        rfl
      rw [htaken, hafter, List.append_cons]
      exact ih hmore (List.forall_mem_append.mpr ⟨hfits, List.forall_mem_singleton.mpr hspan⟩)

theorem exists_groups (length : Nat) (options : Options) (reports : List Report) :
    ∃ groups, (empty length options).afterAll reports = ofGroups length options groups
      ∧ Grouped ((empty length options).taken reports) groups
      ∧ ∀ r ∈ (empty length options).taken reports, r.Fits length :=
  exists_more length options .nil (fun _ h => nomatch h) reports

structure Judges (length : Nat) (kept : List Report) (c : Collector) (r : Report) : Prop where
  ok_iff : c.answer r = .ok ()
    ↔ r.Known ∧ r.Fits length ∧ (r.flags = colocatedFlag → ∃ p ∈ kept, p.flags = 0)
  invalidFlags_iff : c.answer r = .error (.invalidFlags r.flags) ↔ ¬r.Known
  invalidSpan_iff : c.answer r = .error (.invalidSpan r.start r.stop length) ↔ r.Known ∧ ¬r.Fits length
  colocatedWithoutToken_iff : c.answer r = .error .colocatedWithoutToken
    ↔ r.flags = colocatedFlag ∧ r.Fits length ∧ ¬∃ p ∈ kept, p.flags = 0
  after_of_error : ∀ e, c.answer r = .error e → c.after r = c

theorem judges (h : Grouped kept groups) (length : Nat) (options : Options) (r : Report) :
    Judges length kept (ofGroups length options groups) r := by
  have hexists := h.exists_primary_iff
  cases verdict h length options r with
  | flags hflags hanswer hafter =>
    have hne : r.flags ≠ colocatedFlag := fun heq => hflags (.inr heq)
    constructor <;> simp [hanswer, hafter, hflags, hne]
  | span hflags hspan hanswer hafter => constructor <;> simp [hanswer, hafter, hflags, hspan]
  | alone hflags hspan hgroups hanswer hafter =>
    have hknown : r.Known := .inr hflags
    constructor <;> simp only [hanswer, hafter, hexists] <;> simp [hknown, hflags, hspan, hgroups]
  | took hflags hspan hgroups hanswer hmore hafter =>
    constructor <;> simp only [hanswer, hexists] <;> simp [hflags, hspan]
    · exact hgroups
    · exact hgroups

/-- A report is taken exactly when its flags are known, its span is in order and within the buffer, and a
colocated one has a primary one before it. The tokens are the taken reports in order, grouped at the primary
ones. -/
theorem taken_reports_are_grouped (length : Nat) (reports : List Report) :
    (∀ options r, Judges length ((empty length options).taken reports)
      ((empty length options).afterAll reports) r)
    ∧ ∃ groups, Grouped ((empty length .default).taken reports) groups
      ∧ ((empty length .default).afterAll reports).tokens = groups.map (fun g =>
        ⟨g.primary.text, some ⟨g.primary.start, g.primary.stop⟩, g.colocated.map Report.text⟩)
      ∧ ((empty length .default).afterAll reports).tokens.flatMap Token.texts
        = ((empty length .default).taken reports).map Report.text
      ∧ ∀ t ∈ ((empty length .default).afterAll reports).tokens, ∃ span, t.span = some span
        ∧ span.start ≤ span.stop ∧ span.stop ≤ length := by
  refine ⟨fun options r => ?_, ?_⟩
  · obtain ⟨groups, hafter, hgrouped, -⟩ := exists_groups length options reports
    rw [hafter]
    exact judges hgrouped length options r
  · obtain ⟨groups, hafter, hgrouped, hfits⟩ := exists_groups length .default reports
    have htokens : ((empty length .default).afterAll reports).tokens
        = groups.map (Group.token .default) := by
      rw [hafter, tokens, ofGroups, List.reverse_reverse]
    refine ⟨groups, hgrouped, htokens, ?_, ?_⟩
    · rw [htokens]
      exact hgrouped.flatMap_texts
    · rw [htokens]
      intro t ht
      obtain ⟨g, hg, rfl⟩ := List.mem_map.mp ht
      exact ⟨_, rfl, hfits g.primary (hgrouped.primary_mem hg)⟩

example : ((empty 10 .default).afterAll [⟨1, "early", 0, 1⟩, ⟨0, "first", 0, 5⟩, ⟨2, "odd", 0, 5⟩,
    ⟨1, "1st", 0, 5⟩, ⟨0, "long", 6, 11⟩, ⟨1, "one", 0, 5⟩, ⟨0, "two", 6, 9⟩]).tokens
      = [⟨"first", some ⟨0, 5⟩, ["1st", "one"]⟩, ⟨"two", some ⟨6, 9⟩, []⟩] := by decide

end Collector
end TextBoundary.Tokenizer
