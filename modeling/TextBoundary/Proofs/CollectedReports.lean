import TextBoundary.Proofs.ReportStreams
import TextBoundary.Proofs.TokenGroups

namespace TextBoundary.Tokenizer

variable {length : Nat} {options : Options} {kept reports : List Report} {groups before : List Group}
  {r : Report} {e : TokenizerError} {result : Except TokenizerError Unit}

/-- What a wrapper makes of a group: the texts that it adds to the primary one are colocated with it. -/
def Group.through (w : Wrapper) (g : Group) : Group where
  primary := { g.primary with text := w.first g.primary.text }
  colocated := (w.others g.primary.text).map
      (fun s => { g.primary with flags := colocatedFlag, text := s })
    ++ g.colocated.flatMap w.reports

theorem Group.reports_through (w : Wrapper) (g : Group) :
    (g.through w).reports = g.reports.flatMap w.reports := rfl

namespace Wrapper

variable {w : Wrapper} {q : Report}

theorem map_text_reports (w : Wrapper) (r : Report) :
    (w.reports r).map Report.text = w.first r.text :: w.others r.text := by
  rw [reports, List.map_cons, List.map_map]
  exact congrArg _ (List.map_id _)

theorem span_of_mem_reports (h : q ∈ w.reports r) : q.start = r.start ∧ q.stop = r.stop := by
  rcases List.mem_cons.mp h with rfl | h
  · exact ⟨rfl, rfl⟩
  · obtain ⟨s, -, rfl⟩ := List.mem_map.mp h
    exact ⟨rfl, rfl⟩

theorem colocated_of_mem_reports (hr : r.flags = colocatedFlag) (h : q ∈ w.reports r) :
    q.flags = colocatedFlag := by
  rcases List.mem_cons.mp h with rfl | h
  · exact hr
  · obtain ⟨s, -, rfl⟩ := List.mem_map.mp h
    rfl

theorem fits_of_mem_flatMap (hfits : ∀ r ∈ kept, r.Fits length) (h : q ∈ kept.flatMap w.reports) :
    q.Fits length := by
  obtain ⟨r, hr, hq⟩ := List.mem_flatMap.mp h
  obtain ⟨hstart, hstop⟩ := span_of_mem_reports hq
  rw [Report.Fits, hstart, hstop]
  exact hfits r hr

end Wrapper

theorem Grouped.append {more : List Report} {others : List Group} (h : Grouped kept groups)
    (h' : Grouped more others) : Grouped (kept ++ more) (groups ++ others) where
  reports_eq := by rw [h.reports_eq, h'.reports_eq, List.flatMap_append]
  primary := List.forall_mem_append.mpr ⟨h.primary, h'.primary⟩
  colocated := List.forall_mem_append.mpr ⟨h.colocated, h'.colocated⟩

theorem Grouped.through (h : Grouped kept groups) (w : Wrapper) :
    Grouped (kept.flatMap w.reports) (groups.map (Group.through w)) where
  reports_eq := by
    rw [h.reports_eq, List.flatMap_map, List.flatMap_assoc]
    rfl
  primary := List.forall_mem_map.mpr h.primary
  colocated := by
    refine List.forall_mem_map.mpr fun g hg q hq => ?_
    rcases List.mem_append.mp hq with hq | hq
    · obtain ⟨s, -, rfl⟩ := List.mem_map.mp hq
      rfl
    · obtain ⟨r, hr, hq⟩ := List.mem_flatMap.mp hq
      exact Wrapper.colocated_of_mem_reports (h.colocated g hg r hr) hq

/-- Reports in groups with one span for all of a group, within a buffer. -/
structure Tidy (length : Nat) (kept : List Report) (groups : List Group) : Prop
    extends Grouped kept groups where
  fits : ∀ r ∈ kept, r.Fits length
  together : ∀ g ∈ groups, ∀ r ∈ g.colocated, r.start = g.primary.start ∧ r.stop = g.primary.stop

namespace Tidy

theorem nil : Tidy length [] [] := ⟨.nil, (fun _ h => nomatch h), fun _ h => nomatch h⟩

theorem append {more : List Report} {others : List Group} (h : Tidy length kept groups)
    (h' : Tidy length more others) : Tidy length (kept ++ more) (groups ++ others) where
  toGrouped := h.toGrouped.append h'.toGrouped
  fits := List.forall_mem_append.mpr ⟨h.fits, h'.fits⟩
  together := List.forall_mem_append.mpr ⟨h.together, h'.together⟩

theorem primaries (h : ∀ r ∈ kept, r.flags = 0 ∧ r.Fits length) :
    Tidy length kept (kept.map fun r => ⟨r, []⟩) where
  reports_eq := by
    rw [List.flatMap_map]
    exact (List.flatMap_singleton' kept).symm
  primary := List.forall_mem_map.mpr fun r hr => (h r hr).1
  colocated := List.forall_mem_map.mpr fun _ _ _ h => nomatch h
  fits := fun r hr => (h r hr).2
  together := List.forall_mem_map.mpr fun _ _ _ h => nomatch h

theorem through (h : Tidy length kept groups) (w : Wrapper) :
    Tidy length (kept.flatMap w.reports) (groups.map (Group.through w)) where
  toGrouped := h.toGrouped.through w
  fits := fun _ hq => Wrapper.fits_of_mem_flatMap h.fits hq
  together := by
    refine List.forall_mem_map.mpr fun g hg q hq => ?_
    rcases List.mem_append.mp hq with hq | hq
    · obtain ⟨s, -, rfl⟩ := List.mem_map.mp hq
      exact ⟨rfl, rfl⟩
    · obtain ⟨r, hr, hq⟩ := List.mem_flatMap.mp hq
      obtain ⟨hstart, hstop⟩ := Wrapper.span_of_mem_reports hq
      rw [hstart, hstop]
      exact h.together g hg r hr

end Tidy

namespace Collector

theorem tokens_ofGroups (length : Nat) (options : Options) (groups : List Group) :
    (ofGroups length options groups).tokens = groups.map (Group.token options) := List.reverse_reverse _

inductive Refusal (length : Nat) (groups : List Group) (r : Report) : TokenizerError → Prop
  | flags (hflags : ¬r.Known) : Refusal length groups r (.invalidFlags r.flags)
  | span (hflags : r.Known) (hspan : ¬r.Fits length) :
    Refusal length groups r (.invalidSpan r.start r.stop length)
  | alone (hflags : r.flags = colocatedFlag) (hspan : r.Fits length) (hgroups : groups = []) :
    Refusal length groups r .colocatedWithoutToken

theorem Refusal.add_eq (h : Refusal length groups r e) (options : Options) :
    (ofGroups length options groups).add r = .error e := by
  cases h with
  | flags hflags => exact add_of_unknown hflags
  | span hflags hspan => exact add_of_outside hflags hspan
  | alone hflags hspan hgroups =>
    rw [hgroups]
    exact add_alone hflags hspan

/-- All reports are taken, or those before the first that is refused. -/
inductive Collected (length : Nat) : List Report → Except TokenizerError Unit → List Group → Prop
  | taken {kept : List Report} {groups : List Group} (hgroups : Grouped kept groups)
    (hfits : ∀ r ∈ kept, r.Fits length) : Collected length kept (.ok ()) groups
  | refused {kept : List Report} {groups : List Group} {r : Report} {e : TokenizerError}
    (rest : List Report) (hgroups : Grouped kept groups) (hfits : ∀ r ∈ kept, r.Fits length)
    (hrefused : Refusal length groups r e) : Collected length (kept ++ r :: rest) (.error e) groups

theorem collected_append (h : Grouped kept groups) (hfits : ∀ r ∈ kept, r.Fits length)
    (rest : List Report) : ∃ result groups, Collected length (kept ++ rest) result groups := by
  induction rest generalizing kept groups with
  | nil => exact ⟨_, groups, by rw [List.append_nil]; exact .taken h hfits⟩
  | cons r rest ih =>
    cases verdict h length .default r with
    | flags hflags => exact ⟨_, groups, .refused rest h hfits (.flags hflags)⟩
    | span hflags hspan => exact ⟨_, groups, .refused rest h hfits (.span hflags hspan)⟩
    | alone hflags hspan hgroups => exact ⟨_, groups, .refused rest h hfits (.alone hflags hspan hgroups)⟩
    | took _ hspan _ _ hmore =>
      rw [List.append_cons]
      exact ih hmore (List.forall_mem_append.mpr ⟨hfits, List.forall_mem_singleton.mpr hspan⟩)

theorem exists_collected (length : Nat) (reports : List Report) :
    ∃ result groups, Collected length reports result groups :=
  collected_append .nil (fun _ h => nomatch h) reports

theorem run_push {g : Group} {more : List Report} (hflags : ∀ r ∈ more, r.flags = colocatedFlag)
    (hfits : ∀ r ∈ more, r.Fits length) :
    (reportAll sink more).run.run (ofGroups length options (before ++ [g]))
      = (.ok (), ofGroups length options (before ++ [{ g with colocated := g.colocated ++ more }])) := by
  induction more generalizing g with
  | nil => rw [List.append_nil]; rfl
  | cons r rs ih =>
    obtain ⟨hr, hrs⟩ := List.forall_mem_cons.mp hflags
    obtain ⟨hrfits, hrsfits⟩ := List.forall_mem_cons.mp hfits
    have hsink := run_sink (ofGroups length options (before ++ [g])) r
    rw [add_push hr hrfits] at hsink
    rw [reportAll, run_bind_of_ok hsink, ih hrs hrsfits]
    simp only [Group.push, List.append_assoc, List.singleton_append]

theorem run_groups (h : Grouped kept groups) (hfits : ∀ r ∈ kept, r.Fits length) (options : Options)
    (before : List Group) :
    (reportAll sink kept).run.run (ofGroups length options before)
      = (.ok (), ofGroups length options (before ++ groups)) := by
  obtain ⟨rfl, hprimary, hcolocated⟩ := h
  -- a primary report opens a group behind those before it, and only then can it be pushed to
  induction groups generalizing before with
  | nil => rw [List.append_nil]; rfl
  | cons g groups ih =>
    obtain ⟨hg, hgs⟩ := List.forall_mem_cons.mp hprimary
    obtain ⟨hc, hcs⟩ := List.forall_mem_cons.mp hcolocated
    rw [List.flatMap_cons] at hfits
    obtain ⟨hgfits, hgsfits⟩ := List.forall_mem_append.mp hfits
    obtain ⟨hpfits, hcfits⟩ := List.forall_mem_cons.mp hgfits
    have hsink := run_sink (ofGroups length options before) g.primary
    rw [add_snoc hg hpfits] at hsink
    have hgroup : (reportAll sink g.reports).run.run (ofGroups length options before)
        = (.ok (), ofGroups length options (before ++ [g])) := by
      rw [Group.reports, reportAll, run_bind_of_ok hsink, run_push hc hcfits]
      rfl
    rw [List.flatMap_cons, reportAll_append, run_bind_of_ok hgroup, ih _ hgs hcs hgsfits,
      List.append_assoc]
    rfl

/-- What a collector answers to reports one after the other, and what it holds then. -/
theorem Collected.run (h : Collected length reports result groups) (options : Options) :
    (reportAll sink reports).run.run (empty length options) = (result, ofGroups length options groups) := by
  cases h with
  | taken hgroups hfits => exact run_groups hgroups hfits options []
  | @refused kept _ r e rest hgroups hfits hrefused =>
    have hkept : (reportAll sink kept).run.run (empty length options)
        = (.ok (), ofGroups length options groups) := run_groups hgroups hfits options []
    have hsink := run_sink (ofGroups length options groups) r
    rw [hrefused.add_eq options] at hsink
    rw [reportAll_append, run_bind_of_ok hkept, reportAll]
    exact run_bind_of_error hsink

theorem Collected.through (h : Collected length reports result groups) (w : Wrapper) :
    Collected length (reports.flatMap w.reports) result (groups.map (Group.through w)) := by
  cases h with
  | taken hgroups hfits =>
    exact .taken (hgroups.through w) fun q hq => Wrapper.fits_of_mem_flatMap hfits hq
  | refused rest hgroups hfits hrefused =>
    rw [List.flatMap_append, List.flatMap_cons]
    refine .refused _ (hgroups.through w) (fun q hq => Wrapper.fits_of_mem_flatMap hfits hq) ?_
    cases hrefused with
    | flags hflags => exact .flags hflags
    | span hflags hspan => exact .span hflags hspan
    | alone hflags hspan hnil => exact .alone hflags hspan (List.map_eq_nil_iff.mpr hnil)

end Collector

theorem Tidy.run (h : Tidy length kept groups) (options : Options) :
    (reportAll Collector.sink kept).run.run (.empty length options)
      = (.ok (), .ofGroups length options groups) :=
  (Collector.Collected.taken h.toGrouped h.fits).run options

end TextBoundary.Tokenizer
