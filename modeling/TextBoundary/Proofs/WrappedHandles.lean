import Mathlib.Data.List.Infix
import TextBoundary.Proofs.StaleHandles

namespace TextBoundary.Tokenizer

namespace Handle

variable {σ : Type} {r : Registry} {binding b : Binding} {wrappers : List (Binding × Wrapper)}
  {outer inner : List Binding} {h : Handle} {sink : Sink σ}

/-- The handle itself and those inside of it, down to the one of the leaf. -/
def chain (h : Handle) : List Handle := h.wrappers.tails.map fun wrappers => { h with wrappers := wrappers }

def innermostSink (h : Handle) (sink : Sink σ) : Sink σ :=
  h.wrappers.foldl (fun sink w => w.2.sink sink) sink

theorem map_outermost_chain (h : Handle) : h.chain.map outermost = h.bindings := by
  obtain ⟨wrappers, binding, leaf, calls⟩ := h
  induction wrappers with
  | nil => rfl
  | cons w wrappers ih => exact congrArg (w.1 :: ·) ih

theorem inward_of_ok (h : ∀ b ∈ wrappers.map Prod.fst ++ [binding], r.validate b = .ok ()) :
    inward r binding wrappers sink = .ok (wrappers.foldl (fun sink w => w.2.sink sink) sink) := by
  induction wrappers generalizing sink with
  | nil =>
    rw [inward, h binding (.head _)]
    rfl
  | cons w wrappers ih =>
    obtain ⟨hw, hrest⟩ := List.forall_mem_cons.mp h
    rw [inward, hw]
    exact ih hrest

theorem inward_of_error {e : TokenizerError}
    (h : wrappers.map Prod.fst ++ [binding] = outer ++ b :: inner)
    (houter : ∀ b ∈ outer, r.validate b = .ok ()) (hb : r.validate b = .error e) :
    inward r binding wrappers sink = .error e := by
  induction wrappers generalizing outer sink with
  | nil =>
    cases outer with
    | nil =>
      obtain ⟨rfl, -⟩ := List.cons.inj h
      rw [inward, hb]
      rfl
    | cons x outer => simp at h
  | cons w wrappers ih =>
    cases outer with
    | nil =>
      obtain ⟨rfl, -⟩ := List.cons.inj h
      rw [inward, hb]
      rfl
    | cons x outer =>
      obtain ⟨rfl, hrest⟩ := List.cons.inj h
      obtain ⟨hx, houter⟩ := List.forall_mem_cons.mp houter
      rw [inward, hx]
      exact ih hrest houter

theorem runLeaf_of_function {call : List (String × Reason) → String → Reason → Routine}
    (hcall : h.leaf = .function call) (r : Registry) (text : String) (reason : Reason) (sink : Sink σ) (s : σ) :
    (h.runLeaf r text reason sink s).handle = { h with calls := (text, reason) :: h.calls }
      ∧ (h.runLeaf r text reason sink s).registry = ((call h.calls text reason).run r).1 := by
  rw [runLeaf, hcall]
  dsimp only
  split
  case h_1 r e heq => exact ⟨rfl, by rw [heq]⟩
  case h_2 r values heq => exact ⟨rfl, by rw [heq]; rfl⟩

end Handle

namespace Moment

variable {m : Moment} {h : Handle}

/-- The registration stands that the handle was made from. -/
def Stands (m : Moment) (h : Handle) : Prop :=
  ∃ origin, ⟨h.outermost, origin⟩ ∈ m.issued ∧ standing? h.name m.history = some origin

/-- What is told of a stale handle: whether another registration stands under its name or none. -/
def staleness (m : Moment) (name : String) : TokenizerError :=
  if (standing? name m.history).isSome then .changed name else .removed name

theorem Consistent.validate_of_stands (hm : m.Consistent) (h' : m.Stands h) :
    m.registry.validate h.outermost = .ok () := by
  obtain ⟨origin, hissue, hstands⟩ := h'
  exact (hm.tells hissue).ok_iff.mpr hstands

theorem Consistent.stands_iff (hm : m.Consistent)
    (hissued : ∃ issue ∈ m.issued, issue.binding = h.outermost) :
    m.Stands h ↔ m.registry.validate h.outermost = .ok () := by
  refine ⟨hm.validate_of_stands, fun hvalid => ?_⟩
  obtain ⟨⟨binding, origin⟩, hissue, rfl⟩ := hissued
  exact ⟨origin, hissue, (hm.tells hissue).ok_iff.mp hvalid⟩

theorem Consistent.validate_of_not_stands (hm : m.Consistent)
    (hissued : ∃ issue ∈ m.issued, issue.binding = h.outermost) (h' : ¬m.Stands h) :
    m.registry.validate h.outermost = .error (m.staleness h.name) := by
  obtain ⟨⟨binding, origin⟩, hissue, rfl⟩ := hissued
  have htells := hm.tells hissue
  rw [staleness]
  cases hstanding : standing? h.name m.history with
  | none => exact htells.removed_iff.mpr hstanding
  | some other =>
    refine htells.changed_iff.mpr ⟨other, hstanding, ?_⟩
    rintro rfl
    exact h' ⟨_, hissue, hstanding⟩

theorem Issues.of_mem_chain (hissued : m.Issues h.bindings) {link : Handle} (hlink : link ∈ h.chain) :
    ∃ issue ∈ m.issued, issue.binding = link.outermost := by
  apply hissued
  rw [← h.map_outermost_chain]
  exact List.mem_map_of_mem hlink

section Chain

variable {σ : Type} {run : Handle → Registry → String → Reason → Sink σ → σ → Outcome σ} {text : String}
  {reason : Reason} {sink : Sink σ} {s : σ}

theorem Consistent.tokenizeWith_of_stands (hm : m.Consistent) (hstands : ∀ link ∈ h.chain, m.Stands link) :
    h.tokenizeWith run m.registry text reason sink s
      = run h m.registry text reason (h.innermostSink sink) s := by
  have hvalid : ∀ b ∈ h.bindings, m.registry.validate b = .ok () := by
    rw [← h.map_outermost_chain]
    intro b hb
    obtain ⟨link, hlink, rfl⟩ := List.mem_map.mp hb
    exact hm.validate_of_stands (hstands link hlink)
  rw [Handle.tokenizeWith, Handle.inward_of_ok hvalid]
  rfl

theorem Consistent.tokenizeWith_of_stale (hm : m.Consistent) (hissued : m.Issues h.bindings)
    {outer inner : List Handle} {stale : Handle} (hchain : h.chain = outer ++ stale :: inner)
    (houter : ∀ link ∈ outer, m.Stands link) (hstale : ¬m.Stands stale) :
    h.tokenizeWith run m.registry text reason sink s
      = ⟨h, m.registry, s, .error (m.staleness stale.name)⟩ := by
  have hbindings : h.bindings
      = outer.map Handle.outermost ++ stale.outermost :: inner.map Handle.outermost := by
    rw [← h.map_outermost_chain, hchain, List.map_append, List.map_cons]
  have hvalid : ∀ b ∈ outer.map Handle.outermost, m.registry.validate b = .ok () := by
    intro b hb
    obtain ⟨link, hlink, rfl⟩ := List.mem_map.mp hb
    exact hm.validate_of_stands (houter link hlink)
  have herror := hm.validate_of_not_stands (hissued.of_mem_chain (by simp [hchain])) hstale
  rw [Handle.tokenizeWith, Handle.inward_of_error hbindings hvalid herror]

end Chain

theorem stands_or_stale (m : Moment) (links : List Handle) :
    (∀ link ∈ links, m.Stands link) ∨ ∃ outer stale inner, links = outer ++ stale :: inner
      ∧ (∀ link ∈ outer, m.Stands link) ∧ ¬m.Stands stale := by
  induction links with
  | nil => exact .inl fun _ h => nomatch h
  | cons link links ih =>
    by_cases hlink : m.Stands link
    · rcases ih with hall | ⟨outer, stale, inner, rfl, houter, hstale⟩
      · exact .inl (List.forall_mem_cons.mpr ⟨hlink, hall⟩)
      · exact .inr ⟨link :: outer, stale, inner, rfl, List.forall_mem_cons.mpr ⟨hlink, houter⟩, hstale⟩
    · exact .inr ⟨[], link, links, rfl, (fun _ h => nomatch h), hlink⟩

/-- However deep a stale handle is in a chain, a run of the chain notices it: the first one from the
outermost on is told, and nothing else happens. With none stale the leaf is run once, on the same text and
for the same reason, whatever a leaf does when it is run. -/
theorem stale_links_are_noticed {m : Moment} (hm : m.Reachable) :
    (∀ name args h, (m.registry.load name args).2 = .ok h →
      ∃ later, m.Runs (m.registry.load name args).1 later
        ∧ ∀ now, later.Reaches now → now.Reachable ∧ now.Issues h.bindings)
    ∧ ∀ h : Handle, m.Issues h.bindings → ∀ (σ : Type) text reason (sink : Sink σ) s,
      ((∀ link ∈ h.chain, m.Stands link) ∨ ∃ outer stale inner, h.chain = outer ++ stale :: inner
        ∧ (∀ link ∈ outer, m.Stands link) ∧ ¬m.Stands stale)
      ∧ (∀ run : Handle → Registry → String → Reason → Sink σ → σ → Outcome σ,
        (∀ outer stale inner, h.chain = outer ++ stale :: inner → (∀ link ∈ outer, m.Stands link) →
          ¬m.Stands stale → h.tokenizeWith run m.registry text reason sink s
            = ⟨h, m.registry, s, .error (m.staleness stale.name)⟩)
        ∧ ((∀ link ∈ h.chain, m.Stands link) → h.tokenizeWith run m.registry text reason sink s
          = run h m.registry text reason (h.innermostSink sink) s))
      ∧ (∀ outer stale inner, h.chain = outer ++ stale :: inner → (∀ link ∈ outer, m.Stands link) →
        ¬m.Stands stale → h.tokenizeInto m.registry text reason sink s
          = ⟨h, m.registry, s, .error (m.staleness stale.name)⟩)
      ∧ ((∀ link ∈ h.chain, m.Stands link) →
        h.tokenizeInto m.registry text reason sink s
          = h.runLeaf m.registry text reason (h.innermostSink sink) s
        ∧ ∀ call, h.leaf = .function call →
          (h.tokenizeInto m.registry text reason sink s).handle = { h with calls := (text, reason) :: h.calls }
          ∧ (h.tokenizeInto m.registry text reason sink s).registry
            = ((call h.calls text reason).run m.registry).1) := by
  have hc := hm.consistent
  refine ⟨fun name args h hload => ?_, fun h hissued σ text reason sink s => ⟨m.stands_or_stale h.chain, ?_, ?_, ?_⟩⟩
  · obtain ⟨later, hruns, hanswer⟩ := loads_load hc name args
    refine ⟨later, hruns, fun now hnow => ⟨(hm.trans hruns.reaches).trans hnow, ?_⟩⟩
    exact (hanswer h hload).issues.mono hnow
  · exact fun run => ⟨fun outer stale inner hchain houter hstale =>
      hc.tokenizeWith_of_stale hissued hchain houter hstale, hc.tokenizeWith_of_stands⟩
  · exact fun outer stale inner hchain houter hstale => hc.tokenizeWith_of_stale hissued hchain houter hstale
  · intro hstands
    rw [Handle.tokenizeInto, hc.tokenizeWith_of_stands hstands]
    exact ⟨rfl, fun call hcall => Handle.runLeaf_of_function hcall _ _ _ _ _⟩

theorem replaced_behind_two_wrappers :
    ∃ (m : Moment) (h : Handle), m.Reachable ∧ m.Issues h.bindings
      ∧ h.bindings
        = [⟨"casefold", 2, ["colocate", "casefold", "a"]⟩, ⟨"casefold", 2, ["a"]⟩, ⟨"a", 3, []⟩]
      ∧ ∀ (σ : Type) text reason (sink : Sink σ) s,
        h.tokenizeInto m.registry text reason sink s = ⟨h, m.registry, s, .error (.changed "a")⟩ := by
  let factory : Factory := fun _ => .ready (.reports [])
  let first : Moment :=
    ⟨Registry.empty.registerBuiltins.register "a" factory,
      [.register "a" factory, .register Fold.name Fold.factory, .register Words.name Words.factory], [], []⟩
  let handle : Handle :=
    ⟨[(⟨"casefold", 2, ["colocate", "casefold", "a"]⟩, .casefold true),
      (⟨"casefold", 2, ["a"]⟩, .casefold false)], ⟨"a", 3, []⟩, .reports [], []⟩
  have hfirst : first.Reachable :=
    ((Relation.ReflTransGen.single (.register start Words.name Words.factory)).tail
      (.register _ Fold.name Fold.factory)).tail (.register _ "a" factory)
  obtain ⟨later, hruns, hlater⟩ :=
    (stale_links_are_noticed hfirst).1 "casefold" ["colocate", "casefold", "a"] handle rfl
  obtain ⟨hm, hissued⟩ := hlater _ (.single (.register later "a" factory))
  have hregistry : later.registry.register "a" factory = first.registry.register "a" factory :=
    congrArg (Registry.register · "a" factory) hruns.registry
  rw [hregistry] at hm hissued
  have hstands {link : Handle} (hlink : link ∈ handle.chain) :=
    hm.consistent.stands_iff (hissued.of_mem_chain hlink)
  refine ⟨_, handle, hm, hissued, rfl, fun σ text reason sink s => ?_⟩
  obtain ⟨-, -, hstale, -⟩ := (stale_links_are_noticed hm).2 handle hissued σ text reason sink s
  rw [hstale (handle.chain.take 2) ⟨[], ⟨"a", 3, []⟩, .reports [], []⟩ [] rfl]
  · rw [staleness, standing?]
    rfl
  · exact List.forall_mem_cons.mpr ⟨(hstands (.head _)).mpr rfl,
      List.forall_mem_singleton.mpr ((hstands (.tail _ (.head _))).mpr rfl)⟩
  · rw [hstands (.tail _ (.tail _ (.head _)))]
    rintro ⟨⟩

end Moment
end TextBoundary.Tokenizer
