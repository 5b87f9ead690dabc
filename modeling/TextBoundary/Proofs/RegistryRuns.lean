import Mathlib.Logic.Relation
import TextBoundary.Tokenizer.Run
import TextBoundary.Proofs.RegistryHistory

/-! Runs of a registry, in steps so small that user code may do anything between two of them: while a
creation is in progress, names may be registered, removed and loaded. What the library itself runs, namely
factories and tokenizer functions, are such runs. -/

namespace TextBoundary.Tokenizer

open Registry (Created Loader)

namespace Handle

def bindings (h : Handle) : List Binding := h.wrappers.map Prod.fst ++ [h.binding]

end Handle

namespace Registry.Created

def bindings : Created → List Binding
  | leaf _ => []
  | wrapping _ inner => inner.bindings

@[simp] theorem bindings_bind (b : Binding) (c : Created) : (c.bind b).bindings = b :: c.bindings := by
  cases c <;> rfl

@[simp] theorem outermost_bind (b : Binding) (c : Created) : (c.bind b).outermost = b := by
  cases c <;> rfl

end Registry.Created

/-- A handle on its way to the caller, with the registration whose factory makes it. -/
structure Issue where
  binding : Binding
  origin : Registration

/-- A creation in progress, and how deep it was begun. -/
structure Frame where
  issue : Issue
  depth : Nat

/-- A moment of a run: the registry with all its changes, the creations in progress from the innermost on,
and the handles that were ever handed out. -/
structure Moment where
  registry : Registry
  history : List Change
  pending : List Frame
  issued : List Issue

namespace Moment

def start : Moment := ⟨.empty, [], [], []⟩

variable {m n later : Moment}

/-- What can happen next. A call finds the entry of a name and begins a creation, which goes on until it
answers or fails. -/
inductive Step : Moment → Moment → Prop
  | register (m : Moment) (name : String) (factory : Factory) :
      Step m { m with
        registry := m.registry.register name factory
        history := .register name factory :: m.history }
  | unregister (m : Moment) (name : String) :
      Step m { m with
        registry := m.registry.unregister name
        history := .unregister name :: m.history }
  | call {m : Moment} {name : String} {entry : Entry} {origin : Registration} (args : List String)
      (hfind : m.registry.find? name = some entry) (hdepth : m.registry.depth < Registry.maxNesting)
      (horigin : standing? name m.history = some origin) (hfactory : entry.factory = origin.factory) :
      Step m { m with
        registry := { m.registry with depth := m.registry.depth + 1 }
        pending := ⟨⟨⟨name, entry.generation, args⟩, origin⟩, m.registry.depth⟩ :: m.pending }
  | answer {m : Moment} {frame : Frame} {rest : List Frame} (hpending : m.pending = frame :: rest) :
      Step m { m with
        registry := { m.registry with depth := frame.depth }
        pending := rest
        issued := frame.issue :: m.issued }
  | fail {m : Moment} {frame : Frame} {rest : List Frame} (hpending : m.pending = frame :: rest) :
      Step m { m with
        registry := { m.registry with depth := frame.depth }
        pending := rest }

abbrev Reaches : Moment → Moment → Prop := Relation.ReflTransGen Step

def Reachable (m : Moment) : Prop := start.Reaches m

def Stamps (m : Moment) (issue : Issue) : Prop :=
  Stamped m.history issue.origin issue.binding.generation

/-- What holds at every moment: generations tell registrations apart, in the registry and in handles. -/
structure Consistent (m : Moment) : Prop where
  keeps : m.registry.Keeps m.history
  pending : ∀ frame ∈ m.pending, m.Stamps frame.issue
  issued : ∀ issue ∈ m.issued, m.Stamps issue

theorem consistent_start : start.Consistent :=
  ⟨.empty, fun _ h => (nomatch h), fun _ h => (nomatch h)⟩

theorem Step.consistent (h : m.Step n) (hm : m.Consistent) : n.Consistent := by
  cases h with
  | register name factory =>
    exact ⟨hm.keeps.register name factory, fun frame h => .before (hm.pending frame h),
      fun issue h => .before (hm.issued issue h)⟩
  | unregister name =>
    exact ⟨hm.keeps.unregister name, fun frame h => .before (hm.pending frame h),
      fun issue h => .before (hm.issued issue h)⟩
  | @call name entry origin args hfind hdepth horigin hfactory =>
    obtain ⟨other, hother, -, hstamped⟩ := hm.keeps.standing?_of_find? hfind
    obtain rfl := Option.some.inj (horigin.symm.trans hother)
    exact ⟨hm.keeps.withDepth _, List.forall_mem_cons.mpr ⟨hstamped, hm.pending⟩, hm.issued⟩
  | @answer frame rest hpending =>
    obtain ⟨hframe, hrest⟩ := List.forall_mem_cons.mp (hpending ▸ hm.pending)
    exact ⟨hm.keeps.withDepth _, hrest, List.forall_mem_cons.mpr ⟨hframe, hm.issued⟩⟩
  | @fail frame rest hpending =>
    exact ⟨hm.keeps.withDepth _, (List.forall_mem_cons.mp (hpending ▸ hm.pending)).2, hm.issued⟩

theorem Reaches.consistent (h : m.Reaches later) (hm : m.Consistent) : later.Consistent := by
  induction h with
  | refl => exact hm
  | tail _ hstep ih => exact hstep.consistent ih

theorem Reachable.consistent (h : m.Reachable) : m.Consistent := Reaches.consistent h consistent_start

theorem Step.history_suffix (h : m.Step n) : ∃ newer, n.history = newer ++ m.history := by
  cases h with
  | register name factory => exact ⟨[.register name factory], rfl⟩
  | unregister name => exact ⟨[.unregister name], rfl⟩
  | call => exact ⟨[], rfl⟩
  | answer => exact ⟨[], rfl⟩
  | fail => exact ⟨[], rfl⟩

theorem Reaches.history_suffix (h : m.Reaches later) : ∃ newer, later.history = newer ++ m.history := by
  induction h with
  | refl => exact ⟨[], rfl⟩
  | tail _ hstep ih =>
    obtain ⟨newer, heq⟩ := ih
    obtain ⟨newest, heq'⟩ := hstep.history_suffix
    exact ⟨newest ++ newer, by rw [heq', heq, List.append_assoc]⟩

theorem Step.issued_subset (h : m.Step n) : m.issued ⊆ n.issued := by
  cases h with
  | answer => exact List.subset_cons_self _ _
  | _ => exact List.Subset.refl _

theorem Reaches.issued_subset (h : m.Reaches later) : m.issued ⊆ later.issued := by
  induction h with
  | refl => exact List.Subset.refl _
  | tail _ hstep ih => exact List.Subset.trans ih hstep.issued_subset

/-- All of the bindings are those of handles that were handed out. -/
def Issues (m : Moment) (bindings : List Binding) : Prop :=
  ∀ b ∈ bindings, ∃ issue ∈ m.issued, issue.binding = b

theorem Issues.mono {bindings : List Binding} (h : m.Issues bindings) (hreaches : m.Reaches later) :
    later.Issues bindings := by
  intro b hb
  obtain ⟨issue, hissue, heq⟩ := h b hb
  exact ⟨issue, hreaches.issued_subset hissue, heq⟩

/-- A run that leaves the registry `r`, with the creations in progress that it began with. -/
structure Runs (m : Moment) (r : Registry) (later : Moment) : Prop where
  reaches : m.Reaches later
  registry : later.registry = r
  pending : later.pending = m.pending

namespace Runs

variable {r r' : Registry}

theorem refl (m : Moment) : m.Runs m.registry m := ⟨.refl, rfl, rfl⟩

theorem trans (h : m.Runs r n) (h' : n.Runs r' later) : m.Runs r' later :=
  ⟨h.reaches.trans h'.reaches, h'.registry, h'.pending.trans h.pending⟩

theorem exists_trans (h : m.Runs r n) (h' : ∃ later, n.Runs r' later) : ∃ later, m.Runs r' later := by
  obtain ⟨later, hlater⟩ := h'
  exact ⟨later, h.trans hlater⟩

theorem issues {loaded : Option Handle} (h : m.Runs r n) (hloaded : ∀ h ∈ loaded, m.Issues h.bindings) :
    ∀ h ∈ loaded, n.Issues h.bindings :=
  fun inner hinner => (hloaded inner hinner).mono h.reaches

theorem register (m : Moment) (name : String) (factory : Factory) :
    ∃ later, m.Runs (m.registry.register name factory) later
      ∧ later.history = .register name factory :: m.history :=
  ⟨_, ⟨.single (.register m name factory), rfl, rfl⟩, rfl⟩

theorem unregister (m : Moment) (name : String) :
    ∃ later, m.Runs (m.registry.unregister name) later
      ∧ later.history = .unregister name :: m.history :=
  ⟨_, ⟨.single (.unregister m name), rfl, rfl⟩, rfl⟩

end Runs

/-- What a load has done when it answers: the handle, and all that it wraps, were handed out, and it was
made by the factory that stood under the name when the load began. -/
structure Loaded (m later : Moment) (name : String) (args : List String) (h : Handle) : Prop where
  name_eq : h.name = name
  args_eq : h.args = args
  issues : later.Issues h.bindings
  origin : ∃ issue ∈ later.issued, issue.binding = h.outermost
    ∧ standing? name m.history = some issue.origin

def Loads (m : Moment) (name : String) (args : List String)
    (answer : Registry × Except TokenizerError Handle) : Prop :=
  ∃ later, m.Runs answer.1 later ∧ ∀ h, answer.2 = .ok h → m.Loaded later name args h

def Creates (m : Moment) (answer : Registry × Except TokenizerError Created) : Prop :=
  ∃ later, m.Runs answer.1 later ∧ ∀ created, answer.2 = .ok created → later.Issues created.bindings

theorem Runs.creates {r : Registry} {answer : Registry × Except TokenizerError Created}
    (h : m.Runs r n) (h' : n.Creates answer) : m.Creates answer := by
  obtain ⟨later, hruns, hissues⟩ := h'
  exact ⟨later, h.trans hruns, hissues⟩

theorem loads_error (m : Moment) (name : String) (args : List String) (e : TokenizerError) :
    m.Loads name args (m.registry, .error e) := ⟨m, .refl m, fun _ h => nomatch h⟩

theorem creates_error (m : Moment) (e : TokenizerError) : m.Creates (m.registry, .error e) :=
  ⟨m, .refl m, fun _ h => nomatch h⟩

theorem Consistent.exists_call {name : String} {entry : Entry} (hm : m.Consistent)
    (hfind : m.registry.find? name = some entry) (hdepth : m.registry.depth < Registry.maxNesting)
    (args : List String) :
    ∃ n origin, m.Reaches n ∧ n.registry = { m.registry with depth := m.registry.depth + 1 }
      ∧ n.pending = ⟨⟨⟨name, entry.generation, args⟩, origin⟩, m.registry.depth⟩ :: m.pending
      ∧ standing? name m.history = some origin := by
  obtain ⟨origin, horigin, hfactory, -⟩ := hm.keeps.standing?_of_find? hfind
  exact ⟨_, origin, .single (.call args hfind hdepth horigin hfactory), rfl, rfl, horigin⟩

theorem Runs.loads {name : String} {args : List String} {entry : Entry} {origin : Registration}
    {answer : Registry × Except TokenizerError Created} (hcall : m.Reaches n)
    (hpending : n.pending = ⟨⟨⟨name, entry.generation, args⟩, origin⟩, m.registry.depth⟩ :: m.pending)
    (horigin : standing? name m.history = some origin) (h : n.Creates answer) :
    m.Loads name args ({ answer.1 with depth := m.registry.depth },
      answer.2.map (Created.bind ⟨name, entry.generation, args⟩)) := by
  obtain ⟨last, hruns, hissues⟩ := h
  -- whatever was begun inside has ended too, so the creation called is the innermost again
  have hlast := hruns.pending.trans hpending
  have hreaches := hcall.trans hruns.reaches
  obtain ⟨r, result⟩ := answer
  obtain rfl := hruns.registry
  cases result with
  | error e =>
    exact ⟨_, ⟨hreaches.tail (.fail hlast), rfl, rfl⟩, fun _ h => nomatch h⟩
  | ok created =>
    have hanswer := Step.answer hlast
    refine ⟨_, ⟨hreaches.tail hanswer, rfl, rfl⟩, fun h heq => ?_⟩
    obtain rfl := Except.ok.inj heq
    refine ⟨by simp [Handle.name], by simp [Handle.args], ?_, _, .head _, by simp, horigin⟩
    rw [Created.bindings_bind]
    exact List.forall_mem_cons.mpr ⟨⟨_, .head _, rfl⟩, (hissues created rfl).mono (.single hanswer)⟩

end Moment

def Faithful (loader : Loader) : Prop :=
  ∀ {m : Moment}, m.Consistent → ∀ name args, m.Loads name args (loader m.registry name args)

open Moment

theorem Creation.runs {loader : Loader} (hl : Faithful loader) (c : Creation) {loaded : Option Handle}
    {m : Moment} (hm : m.Consistent) (hloaded : ∀ h ∈ loaded, m.Issues h.bindings) :
    m.Creates (c.run loader loaded m.registry) := by
  generalize hr : m.registry = r
  fun_induction Creation.run loader c loaded r generalizing m with
  | case1 leaf loaded r =>
    subst hr
    exact ⟨m, .refl m, fun created h => Except.ok.inj h ▸ fun _ hb => nomatch hb⟩
  | case2 wrapper inner r =>
    subst hr
    exact ⟨m, .refl m, fun created h => Except.ok.inj h ▸ hloaded inner rfl⟩
  | case3 wrapper r => exact hr ▸ m.creates_error _
  | case4 e loaded r => exact hr ▸ m.creates_error _
  | case5 name args failed next loaded r after h hload ih =>
    -- the handle that was loaded takes the place of `loaded`
    subst hr
    obtain ⟨mid, hmid, hanswer⟩ := hl hm name args
    rw [hload] at hmid hanswer
    have hissues : ∀ inner ∈ some h, mid.Issues inner.bindings :=
      fun inner hinner => Option.some.inj hinner ▸ (hanswer h rfl).issues
    exact hmid.creates (ih (hmid.reaches.consistent hm) hissues hmid.registry)
  | case6 name args failed next loaded r after e hload ih =>
    subst hr
    obtain ⟨mid, hmid, -⟩ := hl hm name args
    rw [hload] at hmid
    exact hmid.creates (ih (hmid.reaches.consistent hm) (hmid.issues hloaded) hmid.registry)
  | case7 name factory next loaded r ih =>
    subst hr
    obtain ⟨mid, hmid, -⟩ := Runs.register m name factory
    exact hmid.creates (ih (hmid.reaches.consistent hm) (hmid.issues hloaded) hmid.registry)
  | case8 name next loaded r ih =>
    subst hr
    obtain ⟨mid, hmid, -⟩ := Runs.unregister m name
    exact hmid.creates (ih (hmid.reaches.consistent hm) (hmid.issues hloaded) hmid.registry)
  | case9 name next loaded r ih => exact ih hm hloaded hr
  | case10 next loaded r ih => exact ih hm hloaded hr

theorem faithful_loadWithin (levels : Nat) : Faithful (Registry.loadWithin levels) := by
  induction levels with
  | zero =>
    intro m hm name args
    rw [Registry.loadWithin]
    split
    case h_1 => exact m.loads_error name args _
    case h_2 => exact m.loads_error name args _
  | succ levels ih =>
    intro m hm name args
    rw [Registry.loadWithin]
    split
    case h_1 => exact m.loads_error name args _
    case h_2 entry hfind =>
    split
    case isTrue => exact m.loads_error name args _
    case isFalse hdepth =>
    obtain ⟨n, origin, hcall, hregistry, hpending, horigin⟩ :=
      hm.exists_call hfind (Nat.lt_of_not_le hdepth) args
    have hcreates := (entry.factory args).runs ih (hcall.consistent hm)
      (fun _ h => absurd h (Option.not_mem_none _))
    rw [hregistry] at hcreates
    exact Runs.loads hcall hpending horigin hcreates

theorem Moment.loads_load {m : Moment} (hm : m.Consistent) (name : String) (args : List String) :
    m.Loads name args (m.registry.load name args) := faithful_loadWithin _ hm name args

theorem Routine.runs (work : Routine) {m : Moment} (hm : m.Consistent) :
    ∃ later, m.Runs (work.run m.registry).1 later := by
  generalize hr : m.registry = r
  fun_induction Routine.run work r generalizing m with
  | case1 values r => exact ⟨m, hr ▸ .refl m⟩
  | case2 message r => exact ⟨m, hr ▸ .refl m⟩
  | case3 name args next r after h hload ih =>
    subst hr
    obtain ⟨mid, hmid, -⟩ := loads_load hm name args
    rw [hload] at hmid
    exact hmid.exists_trans (ih (hmid.reaches.consistent hm) hmid.registry)
  | case4 name args next r after e hload ih =>
    subst hr
    obtain ⟨mid, hmid, -⟩ := loads_load hm name args
    rw [hload] at hmid
    exact hmid.exists_trans (ih (hmid.reaches.consistent hm) hmid.registry)
  | case5 name factory next r ih =>
    subst hr
    obtain ⟨mid, hmid, -⟩ := Runs.register m name factory
    exact hmid.exists_trans (ih (hmid.reaches.consistent hm) hmid.registry)
  | case6 name next r ih =>
    subst hr
    obtain ⟨mid, hmid, -⟩ := Runs.unregister m name
    exact hmid.exists_trans (ih (hmid.reaches.consistent hm) hmid.registry)
  | case7 name next r ih => exact ih hm hr
  | case8 next r ih => exact ih hm hr

theorem Handle.tokenizeInto_runs {σ : Type} (h : Handle) {m : Moment} (hm : m.Consistent)
    (text : String) (reason : Reason) (sink : Sink σ) (s : σ) :
    ∃ later, m.Runs (h.tokenizeInto m.registry text reason sink s).registry later
      ∧ (h.tokenizeInto m.registry text reason sink s).handle.bindings = h.bindings := by
  rw [tokenizeInto, tokenizeWith]
  split
  case h_1 => exact ⟨m, .refl m, rfl⟩
  case h_2 inner _ =>
  rw [runLeaf]
  split
  case h_1 => exact ⟨m, .refl m, rfl⟩
  case h_2 call _ =>
    obtain ⟨later, hlater⟩ := (call h.calls text reason).runs hm
    refine ⟨later, ?_⟩
    dsimp only
    split
    case h_1 r e heq => exact ⟨by rwa [heq] at hlater, rfl⟩
    case h_2 r values heq => exact ⟨by rwa [heq] at hlater, rfl⟩
  case h_3 => exact ⟨m, .refl m, rfl⟩

end TextBoundary.Tokenizer
