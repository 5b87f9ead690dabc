import TextBoundary.Proofs.FoldTables
import TextBoundary.Proofs.RefusingSinks

namespace TextBoundary.Tokenizer

open Casefold (casefold)

variable {length : Nat} {options : Options} {r registry : Registry} {h after : Handle} {b : Binding}
  {text : String} {reason : Reason} {t : ReportStream}

def Token.through (w : Wrapper) (t : Token) : Token where
  text := w.first t.text
  span := t.span
  colocated := w.others t.text ++ t.colocated.flatMap fun s => w.first s :: w.others s

theorem Group.token_through (w : Wrapper) (hothers : options.includeColocated = false → ∀ s, w.others s = [])
    (g : Group) : (g.through w).token options = (g.token options).through w := by
  cases hcolocated : options.includeColocated with
  | true =>
    have htexts : (g.through w).colocated.map Report.text
        = w.others g.primary.text ++ (g.colocated.map Report.text).flatMap fun s => w.first s :: w.others s := by
      rw [through, List.map_append, List.map_map, List.map_flatMap, List.flatMap_map]
      simp only [Wrapper.map_text_reports]
      exact congrArg (· ++ _) (List.map_id _)
    simp only [token, Token.through, hcolocated, if_true, htexts]
    rfl
  | false =>
    simp only [token, Token.through, hcolocated, hothers hcolocated]
    rfl

theorem Token.through_casefold : through (.casefold false)
    = fun t => ⟨casefold t.text, t.span, t.colocated.map casefold⟩ := by
  funext t
  rw [← List.flatMap_pure_eq_map]
  rfl

theorem Wrapper.flatMap_reports_casefold (r : Report) :
    (reports (.casefold false) r).flatMap (reports (.casefold false)) = reports (.casefold false) r := by
  simp only [reports, first, others, List.map_nil, List.flatMap_singleton, Casefold.casefold_casefold]

theorem ReportStream.through_casefold (t : ReportStream) :
    (t.through (.casefold false)).through (.casefold false) = t.through (.casefold false) := by
  simp only [through, List.flatMap_assoc, Wrapper.flatMap_reports_casefold]

theorem ReportStream.exists_groups_through (t : ReportStream) (length : Nat) :
    ∃ result groups, ∀ options : Options,
      (t.into Collector.sink).run.run (.empty length options) = (result, .ofGroups length options groups)
      ∧ ∀ w : Wrapper, ((t.through w).into Collector.sink).run.run (.empty length options)
        = (result, .ofGroups length options (groups.map (Group.through w))) := by
  obtain ⟨result, groups, hcollected⟩ := Collector.exists_collected length t.reports
  cases result with
  | ok =>
    exact ⟨t.ending, groups, fun options => ⟨run_into_of_ok (hcollected.run options),
      fun w => run_into_of_ok ((hcollected.through w).run options)⟩⟩
  | error e =>
    exact ⟨.error e, groups, fun options => ⟨run_into_of_error (hcollected.run options),
      fun w => run_into_of_error ((hcollected.through w).run options)⟩⟩

theorem Collector.tokens_through (w : Wrapper)
    (hothers : options.includeColocated = false → ∀ s, w.others s = []) (groups : List Group) :
    (ofGroups length options (groups.map (Group.through w))).tokens
      = (ofGroups length options groups).tokens.map (Token.through w) := by
  rw [tokens_ofGroups, tokens_ofGroups, List.map_map, List.map_map]
  exact List.map_congr_left fun g _ => g.token_through w hothers

namespace Handle

theorem Tells.collect_wrap (h' : h.Tells r text reason t after registry) (hb : r.validate b = .ok ())
    (w : Wrapper) (length : Nat) (options : Options)
    (hothers : options.includeColocated = false → ∀ s, w.others s = []) :
    let plain := h.tokenizeInto r text reason Collector.sink (.empty length options)
    let through := (h.wrap w b).tokenizeInto r text reason Collector.sink (.empty length options)
    through.result = plain.result ∧ through.state.tokens = plain.state.tokens.map (Token.through w) := by
  intro plain through
  obtain ⟨result, groups, hruns⟩ := t.exists_groups_through length
  obtain ⟨hplain, hthrough⟩ := hruns options
  have hinner : plain = ⟨after, registry, .ofGroups length options groups, result⟩ := by
    rw [show plain = _ from h' _ _, ReportStream.outcome, hplain]
  have houter : through
      = ⟨after.wrap w b, registry, .ofGroups length options (groups.map (Group.through w)), result⟩ := by
    rw [show through = _ from h'.wrap hb w _ _, ReportStream.outcome, hthrough]
  rw [hinner, houter]
  exact ⟨rfl, Collector.tokens_through w hothers groups⟩

theorem Tells.fold (h' : h.Tells r text reason t after registry) {layers : List Binding}
    (hne : layers ≠ []) (hlayers : ∀ b ∈ layers, r.validate b = .ok ()) :
    ∃ after, (layers.foldr (fun b h => h.wrap (.casefold false) b) h).Tells r text reason
      (t.through (.casefold false)) after registry := by
  induction layers with
  | nil => exact absurd rfl hne
  | cons b layers ih =>
    obtain ⟨hb, hrest⟩ := List.forall_mem_cons.mp hlayers
    cases layers with
    | nil => exact ⟨_, h'.wrap hb _⟩
    | cons c layers =>
      obtain ⟨after, hinner⟩ := ih (List.cons_ne_nil c layers) hrest
      have hwrapped := hinner.wrap hb (.casefold false)
      rw [t.through_casefold] at hwrapped
      exact ⟨_, hwrapped⟩

/-- Behind case folding the same reports are taken or refused, and the tokens are the folded ones: with their
forms beside the texts or in place of them. Folding again tells nothing else. -/
theorem folding_commutes_with_grouping (hb : r.validate b = .ok ()) (h : Handle) (text : String)
    (reason : Reason) :
    let collect (h : Handle) (length : Nat) (options : Options) :=
      h.tokenizeInto r text reason Collector.sink (.empty length options)
    (∀ length options,
      let plain := collect h length options
      let folded := collect (h.wrap (.casefold false) b) length options
      folded.result = plain.result ∧ folded.state.tokens
        = plain.state.tokens.map fun t => ⟨casefold t.text, t.span, t.colocated.map casefold⟩)
    ∧ (∀ length offsets,
      let plain := collect h length ⟨offsets, true⟩
      let both := collect (h.wrap (.casefold true) b) length ⟨offsets, true⟩
      both.result = plain.result ∧ both.state.tokens = plain.state.tokens.map fun t =>
        ⟨t.text, t.span, foldedForms t.text ++ t.colocated.flatMap fun s => s :: foldedForms s⟩)
    ∧ ∀ layers : List Binding, layers ≠ [] → (∀ b ∈ layers, r.validate b = .ok ()) →
      ∀ ⦃σ : Type⦄ (sink : Sink σ) (s : σ),
      let deep := (layers.foldr (fun b h => h.wrap (.casefold false) b) h).tokenizeInto r text reason sink s
      let once := (h.wrap (.casefold false) b).tokenizeInto r text reason sink s
      deep.state = once.state ∧ deep.result = once.result ∧ deep.registry = once.registry := by
  intro collect
  obtain ⟨t, after, registry, htells, -⟩ := h.exists_tells r text reason
  refine ⟨fun length options => ?_, fun length offsets => ?_, fun layers hne hlayers σ sink s => ?_⟩
  · have hfolded := htells.collect_wrap hb (.casefold false) length options fun _ _ => rfl
    rwa [Token.through_casefold] at hfolded
  · exact htells.collect_wrap hb (.casefold true) length ⟨offsets, true⟩ nofun
  · obtain ⟨_, hdeep⟩ := htells.fold hne hlayers
    rw [hdeep, htells.wrap hb]
    exact ⟨rfl, rfl, rfl⟩

theorem folded_up_to_a_bad_span :
    let told : List Report := [⟨0, "Maß", 0, 4⟩, ⟨1, "MASS", 0, 4⟩, ⟨0, "voll", 9, 5⟩]
    let r := (Registry.empty.register "spans" fun _ => .ready (.reports told)).register Fold.name Fold.factory
    let h : Handle := ⟨[], ⟨"spans", 1, []⟩, .reports told, []⟩
    let b : Binding := ⟨Fold.name, 2, ["spans"]⟩
    let collect (h : Handle) :=
      h.tokenizeInto r "Maß voll" .document Collector.sink (.empty 9 ⟨true, true⟩)
    (collect (h.wrap (.casefold false) b)).state.tokens = [⟨"mass", some ⟨0, 4⟩, ["mass"]⟩]
    ∧ (collect (h.wrap (.casefold true) b)).state.tokens
      = [⟨"Maß", some ⟨0, 4⟩, ["mass", "MASS", "mass"]⟩]
    ∧ (collect (h.wrap (.casefold true) b)).result = .error (.invalidSpan 9 5 9) := by
  intro told r h b collect
  have hb : r.validate b = .ok () := rfl
  obtain ⟨hfolds, hadds, -⟩ := folding_commutes_with_grouping hb h "Maß voll" .document
  obtain ⟨-, hfolded⟩ := hfolds 9 ⟨true, true⟩
  obtain ⟨hresult, hboth⟩ := hadds 9 true
  have htokens : (collect h).state.tokens = [⟨"Maß", some ⟨0, 4⟩, ["MASS"]⟩] := by decide
  have hplain : (collect h).result = .error (.invalidSpan 9 5 9) := by decide
  refine ⟨hfolded.trans ?_, hboth.trans ?_, hresult.trans hplain⟩
  · exact (congrArg (List.map _) htokens).trans (by decide +kernel)
  · exact (congrArg (List.map _) htokens).trans (by decide +kernel)

end Handle
end TextBoundary.Tokenizer
