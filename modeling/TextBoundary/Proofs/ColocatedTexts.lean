import Mathlib.Data.List.Nodup
import TextBoundary.Proofs.RefusingSinks

namespace TextBoundary.Tokenizer

variable {length : Nat} {r : Registry} {h : Handle} {f : WordFilter}

theorem Group.texts_token (g : Group) : (g.token .default).texts = g.reports.map Report.text := rfl

namespace Wrapper

variable {w : Wrapper} {q p : Report}

theorem nodup_texts (w : Wrapper) (s : String) : (w.first s :: w.others s).Nodup := by
  cases w with
  | delegate => exact List.nodup_singleton s
  | casefold colocate =>
    cases colocate with
    | false => exact List.nodup_singleton _
    | true =>
      simp only [first, others, foldedForms]
      split
      case isFalse => exact List.nodup_singleton s
      case isTrue hne =>
        exact List.nodup_cons.mpr ⟨fun h => hne (List.mem_singleton.mp h).symm, List.nodup_singleton _⟩

theorem others_eq_nil (h : w ≠ .casefold true) (s : String) : w.others s = [] := by
  cases w with
  | delegate => rfl
  | casefold colocate =>
    cases colocate with
    | false => rfl
    | true => exact absurd rfl h

theorem flags_of_mem_reports (h : w ≠ .casefold true) (hq : q ∈ w.reports p) : q.flags = p.flags := by
  rw [reports, others_eq_nil h] at hq
  rw [List.mem_singleton.mp hq]

end Wrapper

namespace Collector

/-- One text has another span than its token, and one is the text of the token itself. -/
theorem displaced_and_repeated_texts :
    let reports : List Report := [⟨0, "a", 0, 1⟩, ⟨1, "b", 2, 3⟩, ⟨1, "a", 0, 1⟩]
    let tokens := ((empty 4 .default).afterAll reports).tokens
    (empty 4 .default).taken reports = reports
    ∧ ¬(∀ t ∈ tokens, ∀ s ∈ t.colocated, ∃ q ∈ reports, q.text = s ∧ t.span = some ⟨q.start, q.stop⟩)
    ∧ ¬∀ t ∈ tokens, t.texts.Nodup := by
  decide

end Collector

namespace Handle

theorem nodup_texts_of_primaries {reports : List Report} {t : Token} (w : Wrapper)
    (ht : t ∈ ((reports.map fun q => ⟨q, []⟩).map (Group.through w)).map (Group.token .default)) :
    t.texts.Nodup := by
  obtain ⟨g, hg, rfl⟩ := List.mem_map.mp ht
  obtain ⟨_, hq, rfl⟩ := List.mem_map.mp hg
  obtain ⟨q, -, rfl⟩ := List.mem_map.mp hq
  have htexts : ((Group.through w ⟨q, []⟩).token .default).texts = w.first q.text :: w.others q.text := by
    rw [Group.texts_token, Group.reports_through, ← w.map_text_reports]
    exact congrArg _ (List.flatMap_singleton w.reports q)
  rw [htexts]
  exact w.nodup_texts q.text

theorem exists_tells_of_folded_words (hleaf : h.leaf = .words f)
    (hwrappers : ∀ w ∈ h.wrappers, w.2 ≠ .casefold true) (r : Registry) (text : String) (reason : Reason) :
    ∃ t after registry, h.Tells r text reason t after registry
      ∧ ∀ q ∈ t.reports, q.flags = 0 ∧ q.Fits text.utf8ByteSize := by
  obtain ⟨wrappers, binding, leaf, calls⟩ := h
  obtain rfl : leaf = .words f := hleaf
  induction wrappers with
  | nil =>
    cases hvalid : r.validate binding with
    | error e => exact ⟨_, _, _, tells_of_stale hvalid text reason, fun _ h => nomatch h⟩
    | ok =>
      obtain ⟨t, htells, hprimary⟩ := exists_tells_of_words hvalid f calls text reason
      exact ⟨t, _, _, htells, hprimary⟩
  | cons w wrappers ih =>
    obtain ⟨hw, hrest⟩ := List.forall_mem_cons.mp hwrappers
    obtain ⟨b, w⟩ := w
    cases hvalid : r.validate b with
    | error e => exact ⟨_, _, _, tells_of_stale hvalid text reason, fun _ h => nomatch h⟩
    | ok =>
      obtain ⟨t, after, registry, htells, hprimary⟩ := ih hrest
      refine ⟨_, _, _, htells.wrap hvalid w, fun q hq => ?_⟩
      obtain ⟨p, hp, hq'⟩ := List.mem_flatMap.mp hq
      obtain ⟨hflags, -⟩ := hprimary p hp
      exact ⟨(Wrapper.flags_of_mem_reports hw hq').trans hflags,
        Wrapper.fits_of_mem_flatMap (fun p hp => (hprimary p hp).2) hq⟩

theorem nodup_texts_of_words (hleaf : h.leaf = .words f)
    (hwrappers : ∀ w ∈ h.wrappers.tail, w.2 ≠ .casefold true) (r : Registry) (text : String)
    (reason : Reason) :
    ∀ t ∈ (h.tokenizeInto r text reason Collector.sink (.empty text.utf8ByteSize .default)).state.tokens,
      t.texts.Nodup := by
  obtain ⟨wrappers, binding, leaf, calls⟩ := h
  cases wrappers with
  | nil =>
    obtain ⟨t, after, registry, htells, hprimary⟩ :=
      exists_tells_of_folded_words hleaf (fun _ h => nomatch h) r text reason
    rw [htells.collected (.primaries hprimary), Collector.tokens_ofGroups]
    intro t ht
    obtain ⟨g, hg, rfl⟩ := List.mem_map.mp ht
    obtain ⟨q, -, rfl⟩ := List.mem_map.mp hg
    exact List.nodup_singleton q.text
  | cons w wrappers =>
    -- what comes to the outermost wrapper are primary reports
    obtain ⟨b, w⟩ := w
    cases hvalid : r.validate b with
    | error e =>
      rw [(tells_of_stale hvalid text reason).collected .nil]
      exact fun _ h => nomatch h
    | ok =>
      have hinner : leaf = .words f := hleaf
      obtain ⟨t, after, registry, htells, hprimary⟩ :=
        exists_tells_of_folded_words (h := ⟨wrappers, binding, leaf, calls⟩) hinner hwrappers r text reason
      have hcollected := (htells.wrap hvalid w).collected ((Tidy.primaries hprimary).through w) .default
      rw [show tokenizeInto ⟨(b, w) :: wrappers, binding, leaf, calls⟩ r text reason _ _ = _ from hcollected,
        Collector.tokens_ofGroups]
      exact fun _ ht => nodup_texts_of_primaries w ht

/-- The texts of a token are those of its reports. They have its span when the leaf is one of the library, and
no text of a word is there twice when only the outermost wrapper adds texts. -/
theorem colocated_texts_are_as_reported :
    (∀ length reports, ∃ groups, Grouped ((Collector.empty length .default).taken reports) groups
      ∧ ((Collector.empty length .default).afterAll reports).tokens = groups.map (Group.token .default)
      ∧ ∀ g ∈ groups, (g.token .default).texts = g.reports.map Report.text)
    ∧ ∀ (h : Handle) (r : Registry) (text : String) (reason : Reason),
      let told := h.tokenizeInto r text reason Sink.taking []
      let collected := h.tokenizeInto r text reason Collector.sink (.empty text.utf8ByteSize .default)
      (h.leaf.Provided → collected.result = told.result ∧ ∃ groups, Grouped told.state groups
        ∧ collected.state.tokens = groups.map (Group.token .default)
        ∧ ∀ g ∈ groups, ∀ q ∈ g.colocated, q.start = g.primary.start ∧ q.stop = g.primary.stop)
      ∧ ∀ f, h.leaf = .words f → (∀ w ∈ h.wrappers.tail, w.2 ≠ .casefold true) →
        ∀ t ∈ collected.state.tokens, t.texts.Nodup := by
  refine ⟨fun length reports => ?_, fun h r text reason => ⟨fun hleaf => ?_, fun f hleaf hwrappers => ?_⟩⟩
  · obtain ⟨groups, hafter, hgrouped, -⟩ := Collector.exists_groups length .default reports
    rw [hafter, Collector.tokens_ofGroups]
    exact ⟨groups, hgrouped, rfl, fun g _ => g.texts_token⟩
  · obtain ⟨t, after, registry, htells, htidy⟩ := h.exists_tells r text reason
    obtain ⟨groups, htidy⟩ := htidy hleaf
    rw [htells.taking, htells.collected htidy, Collector.tokens_ofGroups]
    exact ⟨rfl, groups, htidy.toGrouped, rfl, htidy.together⟩
  · exact nodup_texts_of_words hleaf hwrappers r text reason

end Handle
end TextBoundary.Tokenizer
