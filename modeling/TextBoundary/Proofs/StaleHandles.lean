import TextBoundary.Proofs.RegistryRuns

namespace TextBoundary.Tokenizer

namespace Moment

variable {m later : Moment} {issue : Issue} {newer : List Change}

/-- Checking a handle tells what stands under its name: its own registration, another one, or none. -/
structure Tells (m : Moment) (issue : Issue) : Prop where
  ok_iff : m.registry.validate issue.binding = .ok ()
    ↔ standing? issue.binding.name m.history = some issue.origin
  changed_iff : m.registry.validate issue.binding = .error (.changed issue.binding.name)
    ↔ ∃ other, standing? issue.binding.name m.history = some other ∧ other ≠ issue.origin
  removed_iff : m.registry.validate issue.binding = .error (.removed issue.binding.name)
    ↔ standing? issue.binding.name m.history = none

theorem Consistent.tells (hm : m.Consistent) (h : issue ∈ m.issued) : m.Tells issue := by
  rcases hm.keeps.validate_cases (hm.issued issue h) with
    ⟨hstands, hcheck⟩ | ⟨other, hstands, hne, hcheck⟩ | ⟨hstands, hcheck⟩
  · constructor <;> simp [hstands, hcheck]
  · constructor <;> simp [hstands, hcheck, hne]
  · constructor <;> simp [hstands, hcheck]

theorem Tells.validate_eq (h : m.Tells issue) (h' : later.Tells issue)
    (hstanding : standing? issue.binding.name later.history = standing? issue.binding.name m.history) :
    later.registry.validate issue.binding = m.registry.validate issue.binding := by
  cases hs : standing? issue.binding.name m.history with
  | none => rw [h.removed_iff.mpr hs, h'.removed_iff.mpr (hstanding.trans hs)]
  | some origin =>
    by_cases heq : origin = issue.origin
    · rw [h.ok_iff.mpr (heq ▸ hs), h'.ok_iff.mpr (heq ▸ hstanding.trans hs)]
    · rw [h.changed_iff.mpr ⟨origin, hs, heq⟩, h'.changed_iff.mpr ⟨origin, hstanding.trans hs, heq⟩]

theorem Tells.stale_later (h : m.Tells issue) (h' : later.Tells issue) (hstamped : m.Stamps issue)
    (hreaches : m.Reaches later) (hstale : m.registry.validate issue.binding ≠ .ok ()) :
    later.registry.validate issue.binding ≠ .ok () := by
  intro hok
  obtain ⟨newer, hnewer⟩ := hreaches.history_suffix
  -- the registration is older than `newer`, so that it stood before if it stands now
  have hstands := h'.ok_iff.mp hok
  rw [hnewer] at hstands
  exact hstale (h.ok_iff.mpr (standing?_of_append hstands hstamped.bounds.1))

/-- A handle is valid exactly while the registration stands whose factory made it, at every moment of a run
in which factories and tokenizers do what they like. What is stale stays stale, and changes of other names
make no difference. -/
theorem stale_handles_are_noticed {m : Moment} (hm : m.Reachable) :
    (∀ issue ∈ m.issued, m.Tells issue
      ∧ ∀ later, m.Reaches later → issue ∈ later.issued
        ∧ (m.registry.validate issue.binding ≠ .ok () → later.registry.validate issue.binding ≠ .ok ())
        ∧ ∀ newer, later.history = newer ++ m.history →
          (∀ change ∈ newer, change.name ≠ issue.binding.name) →
          later.registry.validate issue.binding = m.registry.validate issue.binding)
    ∧ m.registry.generation = registrations m.history
    ∧ (∀ name, (m.registry.find? name).map Entry.factory
      = (standing? name m.history).map Registration.factory)
    ∧ (∀ name factory, ∃ later, m.Runs (m.registry.register name factory) later
      ∧ later.history = .register name factory :: m.history)
    ∧ (∀ name, ∃ later, m.Runs (m.registry.unregister name) later
      ∧ later.history = .unregister name :: m.history)
    ∧ (∀ name args, m.Loads name args (m.registry.load name args))
    ∧ ∀ (σ : Type) (h : Handle) text reason (sink : Sink σ) s, ∃ later,
      m.Runs (h.tokenizeInto m.registry text reason sink s).registry later
        ∧ (h.tokenizeInto m.registry text reason sink s).handle.bindings = h.bindings := by
  have hc := hm.consistent
  refine ⟨fun issue hissue => ⟨hc.tells hissue, fun later hreaches => ?_⟩, hc.keeps.generation,
    hc.keeps.factory_eq, Runs.register m, Runs.unregister m, loads_load hc,
    fun σ h text reason sink s => h.tokenizeInto_runs hc text reason sink s⟩
  have hlater := hreaches.issued_subset hissue
  have htells := (hreaches.consistent hc).tells hlater
  refine ⟨hlater, (hc.tells hissue).stale_later htells (hc.issued issue hissue) hreaches,
    fun newer hnewer hnames => (hc.tells hissue).validate_eq htells ?_⟩
  rw [hnewer, standing?_append_of_name_ne hnames]

theorem stale_before_it_is_handed_out :
    ∃ (m : Moment) (issue : Issue), m.Reachable ∧ issue ∈ m.issued ∧ issue.binding = ⟨"a", 1, []⟩
      ∧ m.registry.validate issue.binding = .error (.changed "a") := by
  let factory : Factory := fun _ => .ready default
  have hfind : (Registry.empty.register "a" factory).find? "a" = some ⟨factory, 1⟩ := by
    rw [Registry.find?_register, if_pos rfl]
    rfl
  have hstands : standing? "a" [.register "a" factory] = some ⟨0, factory⟩ := if_pos rfl
  have hreachable : Reachable _ :=
    (((Relation.ReflTransGen.single (.register start "a" factory)).tail
      (.call [] hfind (by decide) hstands rfl)).tail (.register _ "a" factory)).tail (.answer rfl)
  obtain ⟨htells, -⟩ := (stale_handles_are_noticed hreachable).1 _ (.head _)
  refine ⟨_, _, hreachable, .head _, rfl, htells.changed_iff.mpr ⟨⟨1, factory⟩, if_pos rfl, ?_⟩⟩
  exact fun heq => absurd (congrArg Registration.number heq) Nat.one_ne_zero

end Moment
end TextBoundary.Tokenizer
