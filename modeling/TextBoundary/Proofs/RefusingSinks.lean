import TextBoundary.Proofs.FunctionValues
import TextBoundary.Proofs.UnitsAgree
import TextBoundary.Proofs.WordTokens

namespace TextBoundary.Tokenizer

variable {r : Registry} {b : Binding} {h : Handle} {text : String} {reason : Reason}

/-- A leaf of the library: its reports are those of words or of the values of a function. -/
def Leaf.Provided : Leaf → Prop
  | .words _ | .function _ => True
  | .reports _ => False

namespace Handle

theorem exists_tells_of_words (hb : r.validate b = .ok ()) (f : WordFilter) (calls : List (String × Reason)) (text : String)
    (reason : Reason) :
    ∃ t, Tells ⟨[], b, .words f, calls⟩ r text reason t ⟨[], b, .words f, calls⟩ r
      ∧ ∀ q ∈ t.reports, q.flags = 0 ∧ q.Fits text.utf8ByteSize := by
  obtain ⟨runs, hparts, hruns⟩ := Kind.word.exists_parts text.toList
  have hbytes : (Utf8.encode text).length = text.utf8ByteSize := by
    rw [Utf8.length_encode, ← Units.utf8ByteSize_ofList, String.ofList_toList]
  refine ⟨⟨(Span.keep (some f) (Span.lay .bytes 0 runs)).map .ofSpan, .ok ()⟩, fun σ sink s => ?_,
    List.forall_mem_map.mpr fun s hs => ?_⟩
  · rw [tokenizeInto_words hb, ReportStream.outcome, ReportStream.into_of_ok]
    dsimp only
    rw [reportWords_eq (t := ⟨.bytes, text.toList⟩) hparts hruns.symm]
  · have hword := wordIn_of_mem hparts hruns.symm hs
    exact ⟨rfl, Nat.le_of_lt hword.nonempty, hbytes ▸ hword.inside⟩

theorem exists_tells_of_leaf (hb : r.validate b = .ok ()) (leaf : Leaf) (calls : List (String × Reason)) (text : String)
    (reason : Reason) :
    ∃ t after registry, Tells ⟨[], b, leaf, calls⟩ r text reason t after registry
      ∧ (leaf.Provided → ∃ groups, Tidy text.utf8ByteSize t.reports groups) := by
  cases leaf with
  | words f =>
    obtain ⟨t, htells, hprimary⟩ := exists_tells_of_words hb f calls text reason
    exact ⟨t, _, _, htells, fun _ => ⟨_, .primaries hprimary⟩⟩
  | function call =>
    cases hcall : (call calls text reason).run r with
    | mk registry result =>
    cases result with
    | error e =>
      refine ⟨⟨[], .error e⟩, ⟨[], b, .function call, (text, reason) :: calls⟩, registry, tells_of_leaf hb fun _ sink s => ?_,
        fun _ => ⟨[], .nil⟩⟩
      rw [runLeaf]
      simp only [hcall]
      rfl
    | ok values =>
      obtain ⟨t, hreads⟩ := Value.exists_reads text.utf8ByteSize values
      exact ⟨t, _, _, hreads.tells hb hcall, fun _ => hreads.tidy⟩
  | reports reports =>
    refine ⟨⟨reports, .ok ()⟩, ⟨[], b, .reports reports, calls⟩, r, tells_of_leaf hb fun _ sink s => ?_,
      False.elim⟩
    rw [ReportStream.outcome, ReportStream.into_of_ok, runLeaf]
    rfl

theorem exists_tells (h : Handle) (r : Registry) (text : String) (reason : Reason) :
    ∃ t after registry, h.Tells r text reason t after registry
      ∧ (h.leaf.Provided → ∃ groups, Tidy text.utf8ByteSize t.reports groups) := by
  obtain ⟨wrappers, binding, leaf, calls⟩ := h
  -- from the leaf outward: a stale layer tells nothing, whatever is inside of it
  induction wrappers with
  | nil =>
    cases hvalid : r.validate binding with
    | error e => exact ⟨_, _, _, tells_of_stale hvalid text reason, fun _ => ⟨[], .nil⟩⟩
    | ok => exact exists_tells_of_leaf hvalid leaf calls text reason
  | cons w wrappers ih =>
    obtain ⟨b, w⟩ := w
    cases hvalid : r.validate b with
    | error e => exact ⟨_, _, _, tells_of_stale hvalid text reason, fun _ => ⟨[], .nil⟩⟩
    | ok =>
      obtain ⟨t, after, registry, htells, htidy⟩ := ih
      refine ⟨_, _, _, htells.wrap hvalid w, fun hleaf => ?_⟩
      obtain ⟨groups, hgroups⟩ := htidy hleaf
      exact ⟨_, hgroups.through w⟩

/-- What a sink is told that takes all reports is what every other one is told up to the report that it
refuses. -/
theorem sinks_are_told_up_to_a_refusal (h : Handle) (r : Registry) (text : String) (reason : Reason) :
    let told := h.tokenizeInto r text reason Sink.taking []
    (∀ ⦃σ : Type⦄ (sink : Sink σ) (s : σ), h.tokenizeInto r text reason sink s
      = ReportStream.outcome ⟨told.state, told.result⟩ told.handle told.registry sink s)
    ∧ ∀ {answer : Nat → Except TokenizerError Unit} {n : Nat} {e : TokenizerError},
      (∀ k < n, answer k = .ok ()) → answer n = .error e →
      let cut := h.tokenizeInto r text reason (Sink.logging answer) []
      cut.state = told.state.take (n + 1)
        ∧ (n < told.state.length → cut.result = .error e)
        ∧ (told.state.length ≤ n → cut.result = told.result) := by
  intro told
  obtain ⟨t, after, registry, htells, -⟩ := h.exists_tells r text reason
  rw [show told = _ from htells.taking]
  refine ⟨htells, fun {answer n e} htakes hrefuses => ?_⟩
  intro cut
  have hcut : cut = ⟨after, registry, t.reports.take (n + 1),
      if n < t.reports.length then .error e else t.ending⟩ := by
    rw [show cut = _ from htells (Sink.logging answer) [], ReportStream.outcome,
      t.run_logging htakes hrefuses]
  rw [hcut]
  exact ⟨rfl, fun hn => if_pos hn, fun hn => if_neg (Nat.not_lt.mpr hn)⟩

theorem refused_between_word_and_folded_form :
    let r := Registry.empty.registerBuiltins
    let words : Handle := ⟨[], ⟨Words.name, 1, []⟩, .words .default, []⟩
    let h := words.wrap (.casefold true) ⟨Fold.name, 2, ["colocate"]⟩
    let answer : Nat → Except TokenizerError Unit :=
      fun k => if k = 1 then .error .colocatedWithoutToken else .ok ()
    let cut := h.tokenizeInto r "Viel Text" .document (Sink.logging answer) []
    cut.state = [⟨0, "Viel", 0, 4⟩, ⟨1, "viel", 0, 4⟩] ∧ cut.result = .error .colocatedWithoutToken := by
  intro r words h answer cut
  have htakes : ∀ k < 1, answer k = .ok () := by decide
  obtain ⟨hstate, hrefused, -⟩ :=
    (sinks_are_told_up_to_a_refusal h r "Viel Text" .document).2 htakes rfl
  have htold : (h.tokenizeInto r "Viel Text" .document Sink.taking []).state
      = [⟨0, "Viel", 0, 4⟩, ⟨1, "viel", 0, 4⟩, ⟨0, "Text", 5, 9⟩, ⟨1, "text", 5, 9⟩] := by decide +kernel
  rw [htold] at hstate hrefused
  exact ⟨hstate, hrefused (by decide)⟩

end Handle
end TextBoundary.Tokenizer
