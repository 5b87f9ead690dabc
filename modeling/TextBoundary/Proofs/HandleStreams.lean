import TextBoundary.Proofs.CollectedReports

namespace TextBoundary.Tokenizer

open Registry (Created)

variable {σ : Type} {r registry : Registry} {h after : Handle} {b : Binding} {w : Wrapper} {text : String}
  {reason : Reason} {t : ReportStream} {e : TokenizerError}

def ReportStream.outcome (t : ReportStream) (after : Handle) (registry : Registry) (sink : Sink σ) (s : σ) :
    Outcome σ :=
  let answer := (t.into sink).run.run s
  ⟨after, registry, answer.2, answer.1⟩

namespace Handle

/-- The stream that a handle tells to every sink, with what it leaves behind. -/
def Tells (h : Handle) (r : Registry) (text : String) (reason : Reason) (t : ReportStream) (after : Handle)
    (registry : Registry) : Prop :=
  ∀ ⦃σ : Type⦄ (sink : Sink σ) (s : σ),
    h.tokenizeInto r text reason sink s = t.outcome after registry sink s

def wrap (w : Wrapper) (b : Binding) (h : Handle) : Handle := (Created.wrapping w h).bind b

theorem tokenizeInto_wrap (hb : r.validate b = .ok ()) (w : Wrapper) (h : Handle) (text : String)
    (reason : Reason) (sink : Sink σ) (s : σ) :
    (h.wrap w b).tokenizeInto r text reason sink s =
      let out := h.tokenizeInto r text reason (w.sink sink) s
      { out with handle := out.handle.wrap w b } := by
  obtain ⟨wrappers, binding, leaf, calls⟩ := h
  have hinward : inward r binding ((b, w) :: wrappers) sink = inward r binding wrappers (w.sink sink) := by
    rw [inward, hb]
    rfl
  simp only [tokenizeInto, tokenizeWith, wrap, Created.bind, hinward]
  cases inward r binding wrappers (w.sink sink) with
  | error e => rfl
  | ok sink =>
    cases leaf with
    | words f => rfl
    | reports reports => rfl
    | function call =>
      simp only [runLeaf]
      cases hcall : (call calls text reason).run r with
      | mk registry result => cases result <;> rfl

theorem tokenizeInto_of_stale (hb : r.validate h.outermost = .error e) (text : String) (reason : Reason)
    (sink : Sink σ) (s : σ) : h.tokenizeInto r text reason sink s = ⟨h, r, s, .error e⟩ := by
  obtain ⟨wrappers, binding, leaf, calls⟩ := h
  cases wrappers with
  | nil =>
    have hb : r.validate binding = .error e := hb
    rw [tokenizeInto, tokenizeWith, inward, hb]
    rfl
  | cons w wrappers =>
    have hb : r.validate w.1 = .error e := hb
    rw [tokenizeInto, tokenizeWith, inward, hb]
    rfl

theorem tells_of_leaf {leaf : Leaf} {calls : List (String × Reason)} (hb : r.validate b = .ok ())
    (hleaf : ∀ ⦃σ : Type⦄ (sink : Sink σ) (s : σ),
      runLeaf ⟨[], b, leaf, calls⟩ r text reason sink s = t.outcome after registry sink s) :
    Tells ⟨[], b, leaf, calls⟩ r text reason t after registry := by
  intro σ sink s
  rw [tokenizeInto, tokenizeWith, inward, hb]
  exact hleaf sink s

theorem tells_of_stale (hb : r.validate h.outermost = .error e) (text : String) (reason : Reason) :
    h.Tells r text reason ⟨[], .error e⟩ h r :=
  fun _ sink s => tokenizeInto_of_stale hb text reason sink s

theorem Tells.wrap (h' : h.Tells r text reason t after registry) (hb : r.validate b = .ok ()) (w : Wrapper) :
    (h.wrap w b).Tells r text reason (t.through w) (after.wrap w b) registry := by
  intro σ sink s
  rw [tokenizeInto_wrap hb, h', ReportStream.outcome, ReportStream.outcome, ReportStream.into_through]

theorem Tells.taking (h' : h.Tells r text reason t after registry) :
    h.tokenizeInto r text reason Sink.taking [] = ⟨after, registry, t.reports, t.ending⟩ := by
  rw [h', ReportStream.outcome, t.run_taking]
  rfl

theorem Tells.collected {length : Nat} {groups : List Group} (h' : h.Tells r text reason t after registry)
    (htidy : Tidy length t.reports groups) (options : Options) :
    h.tokenizeInto r text reason Collector.sink (.empty length options)
      = ⟨after, registry, .ofGroups length options groups, t.ending⟩ := by
  rw [h', ReportStream.outcome, ReportStream.run_into_of_ok (htidy.run options)]

end Handle
end TextBoundary.Tokenizer
