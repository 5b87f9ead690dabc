import TextBoundary.Tokenizer.Builtin
import TextBoundary.Proofs.RegistryRuns

namespace TextBoundary.Tokenizer

open Registry (Created maxNesting)

def Change.apply (r : Registry) : Change → Registry
  | .register name factory => r.register name factory
  | .unregister name => r.unregister name

def Registry.replay (r : Registry) (changes : List Change) : Registry := changes.foldl Change.apply r

structure Call where
  /-- the names of the creations in progress, the innermost one first -/
  within : List String
  name : String
  before : Registry
  /-- the depth at which its factory ran, if it did -/
  ran : Option Nat
  changes : List Change
  after : Registry
  answer : Except TokenizerError Handle

/-- What came of some work, with the calls and the changes made in it, in order of their ends. -/
structure Traced (α : Type) where
  calls : List Call
  changes : List Change
  registry : Registry
  result : Except TokenizerError α

namespace Traced

variable {α : Type}

def outcome (t : Traced α) : Registry × Except TokenizerError α := (t.registry, t.result)

def behind {β : Type} (t : Traced α) (first : Traced β) : Traced α :=
  { t with calls := first.calls ++ t.calls, changes := first.changes ++ t.changes }

def afterChange (t : Traced α) (change : Change) : Traced α :=
  { t with changes := change :: t.changes }

end Traced

def Creation.trace (loader : Registry → String → List String → Traced Handle) :
    Creation → Option Handle → Registry → Traced Created
  | .ready leaf, _, r => ⟨[], [], r, .ok (.leaf leaf)⟩
  | .wrap wrapper, some inner, r => ⟨[], [], r, .ok (.wrapping wrapper inner)⟩
  | .wrap _, none, r => ⟨[], [], r, .error (.failed "no tokenizer to wrap")⟩
  | .refuse e, _, r => ⟨[], [], r, .error e⟩
  | .load name args failed next, loaded, r =>
    let call := loader r name args
    match call.result with
    | .ok h => (next.trace loader (some h) call.registry).behind call
    | .error e => ((failed e).trace loader loaded call.registry).behind call
  | .register name factory next, loaded, r =>
    (next.trace loader loaded (r.register name factory)).afterChange (.register name factory)
  | .unregister name next, loaded, r =>
    ((next (r.contains name)).trace loader loaded (r.unregister name)).afterChange (.unregister name)
  | .generation name next, loaded, r => (next (r.generation? name)).trace loader loaded r
  | .names next, loaded, r => (next r.names).trace loader loaded r

namespace Registry

def refused (within : List String) (r : Registry) (name : String) (e : TokenizerError) : Traced Handle :=
  ⟨[⟨within, name, r, none, [], r, .error e⟩], [], r, .error e⟩

def traceWithin : Nat → List String → Registry → String → List String → Traced Handle
  | 0, within, r, name, _ =>
    match r.find? name with
    | none => refused within r name (.notFound name)
    | some _ => refused within r name (.nestedTooDeep name r.depth)
  | levels + 1, within, r, name, args =>
    match r.find? name with
    | none => refused within r name (.notFound name)
    | some entry =>
      if maxNesting ≤ r.depth then refused within r name (.nestedTooDeep name r.depth)
      else
        let inside : Registry := { r with depth := r.depth + 1 }
        let work := (entry.factory args).trace (traceWithin levels (name :: within)) none inside
        let after := { work.registry with depth := r.depth }
        let answer := work.result.map (Created.bind ⟨name, entry.generation, args⟩)
        ⟨work.calls ++ [⟨within, name, r, some inside.depth, work.changes, after, answer⟩], work.changes,
          after, answer⟩

def trace (within : List String) (r : Registry) (name : String) (args : List String) : Traced Handle :=
  traceWithin (maxNesting - r.depth) within r name args

end Registry

theorem Creation.outcome_trace {loader : Registry → String → List String → Traced Handle}
    {plain : Registry.Loader} (h : ∀ r name args, (loader r name args).outcome = plain r name args)
    (c : Creation) (loaded : Option Handle) (r : Registry) :
    (c.trace loader loaded r).outcome = c.run plain loaded r := by
  fun_induction Creation.run plain c loaded r with
  | case1 leaf loaded r => rfl
  | case2 wrapper inner r => rfl
  | case3 wrapper r => rfl
  | case4 e loaded r => rfl
  | case5 name args failed next loaded r after inner hload ih =>
    rw [← h] at hload
    obtain ⟨rfl, hresult⟩ := Prod.mk.inj hload
    rw [Creation.trace, hresult]
    exact ih
  | case6 name args failed next loaded r after e hload ih =>
    rw [← h] at hload
    obtain ⟨rfl, hresult⟩ := Prod.mk.inj hload
    rw [Creation.trace, hresult]
    exact ih
  | case7 name factory next loaded r ih => exact ih
  | case8 name next loaded r ih => exact ih
  | case9 name next loaded r ih => exact ih
  | case10 next loaded r ih => exact ih

namespace Registry

theorem outcome_traceWithin (levels : Nat) (within : List String) (r : Registry) (name : String)
    (args : List String) :
    (traceWithin levels within r name args).outcome = loadWithin levels r name args := by
  induction levels generalizing within r name args with
  | zero =>
    rw [traceWithin, loadWithin]
    cases r.find? name <;> rfl
  | succ levels ih =>
    rw [traceWithin, loadWithin]
    cases r.find? name with
    | none => rfl
    | some entry =>
      by_cases hdeep : maxNesting ≤ r.depth
      · simp only [if_pos hdeep]
        rfl
      · simp only [if_neg hdeep, ← Creation.outcome_trace (ih (name :: within))]
        rfl

theorem replay_append (r : Registry) (changes more : List Change) :
    r.replay (changes ++ more) = (r.replay changes).replay more := List.foldl_append

theorem replay_withDepth (r : Registry) (depth : Nat) (changes : List Change) :
    { r with depth := depth }.replay changes = { r.replay changes with depth := depth } := by
  induction changes generalizing r with
  | nil => rfl
  | cons change changes ih =>
    cases change with
    | register name factory => exact ih (r.register name factory)
    | unregister name => exact ih (r.unregister name)

theorem depth_replay (r : Registry) (changes : List Change) : (r.replay changes).depth = r.depth := by
  have h := congrArg depth (replay_withDepth r r.depth changes)
  exact h

end Registry

/-- A call leaves the registry as it was but for the changes made inside, and runs the factory when there is
one and fewer than the most creations are in progress. -/
structure Call.Bracketed (c : Call) : Prop where
  depth_before : c.before.depth = c.within.length
  depth_after : c.after.depth = c.before.depth
  after_eq : c.after = c.before.replay c.changes
  ran : ∀ depth, c.ran = some depth →
    depth = c.within.length + 1 ∧ 1 ≤ depth ∧ depth ≤ maxNesting
  ran_iff : c.ran.isSome ↔ c.before.contains c.name ∧ c.within.length < maxNesting
  tooDeep_iff : c.ran = none ∧ c.answer = .error (.nestedTooDeep c.name maxNesting)
    ↔ c.before.contains c.name ∧ c.within.length = maxNesting
  notFound_iff : c.ran = none ∧ c.answer = .error (.notFound c.name)
    ↔ c.before.contains c.name = false
  unchanged : c.ran = none → c.changes = []

namespace Traced

variable {α β : Type} {within : List String} {r : Registry} {name : String}

structure Sound (t : Traced α) (within : List String) (r : Registry) : Prop where
  registry : t.registry = r.replay t.changes
  calls : ∀ c ∈ t.calls, c.Bracketed ∧ within <:+ c.within

/-- The last call is that for the tokenizer itself, and the others were made while it was in progress. -/
structure Brackets (t : Traced Handle) (within : List String) (r : Registry) (name : String) : Prop where
  calls : ∃ inner ran, t.calls = inner ++ [⟨within, name, r, ran, t.changes, t.registry, t.result⟩]
    ∧ ∀ c ∈ inner, name :: within <:+ c.within
  bracketed : ∀ c ∈ t.calls, c.Bracketed

theorem Brackets.sound {t : Traced Handle} (h : t.Brackets within r name) : t.Sound within r := by
  obtain ⟨inner, ran, hcalls, hinner⟩ := h.calls
  have hself := h.bracketed _ (hcalls ▸ List.mem_append_right inner (.head _))
  refine ⟨hself.after_eq, fun c hc => ⟨h.bracketed c hc, ?_⟩⟩
  rw [hcalls] at hc
  rcases List.mem_append.mp hc with hc | hc
  · exact (List.suffix_cons name within).trans (hinner c hc)
  · obtain rfl := List.mem_singleton.mp hc
    exact List.suffix_rfl

theorem Sound.done (within : List String) (r : Registry) (result : Except TokenizerError α) :
    Sound ⟨[], [], r, result⟩ within r := ⟨rfl, fun _ h => nomatch h⟩

theorem Sound.behind {t : Traced α} {first : Traced β} (hfirst : first.Sound within r)
    (ht : t.Sound within first.registry) : (t.behind first).Sound within r where
  registry := by
    rw [Traced.behind, ht.registry, hfirst.registry, Registry.replay_append]
  calls := List.forall_mem_append.mpr ⟨hfirst.calls, ht.calls⟩

theorem Sound.afterChange {t : Traced α} {change : Change} (h : t.Sound within (change.apply r)) :
    (t.afterChange change).Sound within r := ⟨h.registry, h.calls⟩

end Traced

open Traced

theorem Creation.sound_trace {loader : Registry → String → List String → Traced Handle}
    {within : List String} {depth : Nat}
    (h : ∀ r name args, r.depth = depth → (loader r name args).Sound within r)
    (c : Creation) (loaded : Option Handle) {r : Registry} (hr : r.depth = depth) :
    (c.trace loader loaded r).Sound within r := by
  fun_induction Creation.trace loader c loaded r with
  | case1 leaf loaded r => exact .done within r _
  | case2 wrapper inner r => exact .done within r _
  | case3 wrapper r => exact .done within r _
  | case4 e loaded r => exact .done within r _
  | case5 name args failed next loaded r call inner hcall ih =>
    have hsound := h r name args hr
    refine hsound.behind (ih ?_)
    rw [hsound.registry, Registry.depth_replay, hr]
  | case6 name args failed next loaded r call e hcall ih =>
    have hsound := h r name args hr
    refine hsound.behind (ih ?_)
    rw [hsound.registry, Registry.depth_replay, hr]
  | case7 name factory next loaded r ih => exact (ih hr).afterChange
  | case8 name next loaded r ih => exact (ih hr).afterChange
  | case9 name next loaded r ih => exact ih hr
  | case10 next loaded r ih => exact ih hr

namespace Registry

variable {within : List String} {r : Registry} {name : String} {entry : Entry} {levels : Nat}

theorem contains_of_find? (h : r.find? name = some entry) : r.contains name = true :=
  congrArg Option.isSome h

theorem brackets_notFound (hdepth : r.depth = within.length) (h : r.find? name = none) :
    (refused within r name (.notFound name)).Brackets within r name where
  calls := ⟨[], none, rfl, fun _ h => nomatch h⟩
  bracketed := by
    have hcontains : r.contains name = false := congrArg Option.isSome h
    refine List.forall_mem_singleton.mpr ?_
    constructor <;> simp [hdepth, hcontains, replay]

theorem brackets_tooDeep (hdepth : r.depth = within.length) (h : r.find? name = some entry)
    (hdeep : within.length = maxNesting) :
    (refused within r name (.nestedTooDeep name r.depth)).Brackets within r name where
  calls := ⟨[], none, rfl, fun _ h => nomatch h⟩
  bracketed := by
    have hcontains := contains_of_find? h
    refine List.forall_mem_singleton.mpr ?_
    constructor <;> simp [hdepth, hcontains, hdeep, replay]

theorem brackets_ran {α : Type} {t : Traced α} (answer : Except TokenizerError Handle)
    (hdepth : r.depth = within.length) (h : r.find? name = some entry)
    (hlt : within.length < maxNesting)
    (ht : t.Sound (name :: within) { r with depth := r.depth + 1 }) :
    Brackets ⟨t.calls ++ [⟨within, name, r, some (r.depth + 1), t.changes,
        { t.registry with depth := r.depth }, answer⟩], t.changes,
        { t.registry with depth := r.depth }, answer⟩ within r name where
  calls := ⟨t.calls, _, rfl, fun c hc => (ht.calls c hc).2⟩
  bracketed := by
    refine List.forall_mem_append.mpr ⟨fun c hc => (ht.calls c hc).1,
      List.forall_mem_singleton.mpr ?_⟩
    have hcontains := contains_of_find? h
    have hafter : { t.registry with depth := r.depth } = r.replay t.changes := by
      rw [ht.registry, replay_withDepth, ← depth_replay r t.changes]
    constructor
    case depth_before => exact hdepth
    case depth_after => rfl
    case after_eq => exact hafter
    case ran =>
      rintro depth ⟨⟩
      exact ⟨by rw [hdepth], Nat.le_add_left 1 _, by rw [hdepth]; exact hlt⟩
    case ran_iff => simp [hcontains, hlt]
    case tooDeep_iff => simp [Nat.ne_of_lt hlt]
    case notFound_iff => simp [hcontains]
    case unchanged => exact fun h => nomatch h

theorem brackets_traceWithin (hdepth : r.depth = within.length)
    (hlevels : levels + within.length = maxNesting) (args : List String) :
    (traceWithin levels within r name args).Brackets within r name := by
  induction levels generalizing within r name args with
  | zero =>
    rw [traceWithin]
    split
    case h_1 hfind => exact brackets_notFound hdepth hfind
    case h_2 hfind => exact brackets_tooDeep hdepth hfind (by omega)
  | succ levels ih =>
    rw [traceWithin]
    split
    case h_1 hfind => exact brackets_notFound hdepth hfind
    case h_2 entry hfind =>
    split
    case isTrue hdeep => exact absurd hdeep (by omega)
    case isFalse =>
    refine brackets_ran _ hdepth hfind (by omega) ?_
    refine (entry.factory args).sound_trace (fun r' other args' hr' => ?_) none rfl
    -- while the factory runs, one more creation is in progress
    refine (ih ?_ ?_ args').sound
    · rw [hr', hdepth]
      rfl
    · rw [List.length_cons]
      omega

theorem brackets_trace (hdepth : r.depth = within.length) (hle : within.length ≤ maxNesting)
    (name : String) (args : List String) : (trace within r name args).Brackets within r name :=
  brackets_traceWithin hdepth (by omega) args

theorem depth_loadWithin (levels : Nat) (r : Registry) (name : String) (args : List String) :
    (loadWithin levels r name args).1.depth = r.depth := by
  cases levels with
  | zero =>
    rw [loadWithin]
    cases r.find? name <;> rfl
  | succ levels =>
    rw [loadWithin]
    split
    case h_1 => rfl
    case h_2 =>
    split <;> rfl

end Registry

theorem Creation.run_congr {loader other : Registry.Loader} {depth : Nat}
    (hkeeps : ∀ r name args, (loader r name args).1.depth = r.depth)
    (h : ∀ r name args, r.depth = depth → loader r name args = other r name args)
    (c : Creation) (loaded : Option Handle) {r : Registry} (hr : r.depth = depth) :
    c.run loader loaded r = c.run other loaded r := by
  fun_induction Creation.run loader c loaded r with
  | case1 leaf loaded r => rfl
  | case2 wrapper inner r => rfl
  | case3 wrapper r => rfl
  | case4 e loaded r => rfl
  | case5 name args failed next loaded r after inner hload ih =>
    have hafter : after.depth = depth := by rw [← hr, ← hkeeps r name args, hload]
    rw [ih hafter, Creation.run, ← h r name args hr, hload]
  | case6 name args failed next loaded r after e hload ih =>
    have hafter : after.depth = depth := by rw [← hr, ← hkeeps r name args, hload]
    rw [ih hafter, Creation.run, ← h r name args hr, hload]
  | case7 name factory next loaded r ih => exact ih hr
  | case8 name next loaded r ih => exact ih hr
  | case9 name next loaded r ih => exact ih hr
  | case10 next loaded r ih => exact ih hr

namespace Registry

variable {r : Registry} {name : String} {entry : Entry}

theorem load_of_deep (h : r.find? name = some entry) (hdeep : maxNesting ≤ r.depth)
    (args : List String) : r.load name args = (r, .error (.nestedTooDeep name r.depth)) := by
  rw [load, Nat.sub_eq_zero_of_le hdeep, loadWithin, h]

theorem load_of_find? (h : r.find? name = some entry) (hdepth : r.depth < maxNesting)
    (args : List String) :
    r.load name args =
      let work := (entry.factory args).run load none { r with depth := r.depth + 1 }
      ({ work.1 with depth := r.depth }, work.2.map (Created.bind ⟨name, entry.generation, args⟩)) := by
  obtain ⟨levels, hlevels⟩ := Nat.exists_eq_add_of_lt hdepth
  have hrest : maxNesting - (r.depth + 1) = levels := by omega
  have hagree := (entry.factory args).run_congr (depth_loadWithin levels)
    (fun r' other args' hr' => show _ = r'.load other args' by rw [load, hr', hrest]) none
    (r := { r with depth := r.depth + 1 }) rfl
  rw [load, show maxNesting - r.depth = levels + 1 by omega, loadWithin, h]
  simp only [if_neg (Nat.not_le_of_lt hdepth)]
  rw [hagree]

theorem run_load_wrap (r : Registry) (name : String) (args : List String) (w : Wrapper) :
    (Creation.load name args .refuse (.wrap w)).run load none r
      = ((r.load name args).1, (r.load name args).2.map (Created.wrapping w)) := by
  rw [Creation.run]
  split
  case h_1 h heq => rw [heq]; rfl
  case h_2 e heq => rw [heq]; rfl

def Answers (r : Registry) (name : String) (args : List String) : Prop :=
  ∃ h, (r.load name args).2 = .ok h

theorem answers_of_wrap {w : Wrapper} {inner : String} {args innerArgs : List String}
    (h : r.find? name = some entry) (hdepth : r.depth < maxNesting)
    (hfactory : entry.factory args = .load inner innerArgs .refuse (.wrap w)) :
    r.Answers name args ↔ { r with depth := r.depth + 1 }.Answers inner innerArgs := by
  rw [Answers, load_of_find? h hdepth, hfactory]
  simp only [run_load_wrap, Answers]
  cases (load { r with depth := r.depth + 1 } inner innerArgs).2 with
  | ok inner => exact ⟨fun _ => ⟨_, rfl⟩, fun _ => ⟨_, rfl⟩⟩
  | error e => exact ⟨fun ⟨_, h⟩ => (nomatch h), fun ⟨_, h⟩ => (nomatch h)⟩

theorem not_answers_of_deep (h : r.find? name = some entry) (hdeep : maxNesting ≤ r.depth)
    (args : List String) : ¬ r.Answers name args := by
  rintro ⟨handle, hload⟩
  rw [load_of_deep h hdeep] at hload
  exact nomatch hload

end Registry

namespace Words

theorem load_eq {r : Registry} {generation : Nat} {args : List String} {f : WordFilter}
    (h : r.find? name = some ⟨factory, generation⟩) (hdepth : r.depth < maxNesting)
    (hoptions : options args = .ok f) :
    r.load name args = (r, .ok ⟨[], ⟨name, generation, args⟩, .words f, []⟩) := by
  rw [Registry.load_of_find? h hdepth]
  simp only [factory, hoptions]
  rfl

theorem answers_iff {r : Registry} {generation : Nat} {args : List String} {f : WordFilter}
    (h : r.find? name = some ⟨factory, generation⟩) (hoptions : options args = .ok f) :
    r.Answers name args ↔ r.depth < maxNesting := by
  rcases Nat.lt_or_ge r.depth maxNesting with hdepth | hdeep
  · exact iff_of_true ⟨_, congrArg Prod.snd (load_eq h hdepth hoptions)⟩ hdepth
  · exact iff_of_false (Registry.not_answers_of_deep h hdeep args) (Nat.not_lt_of_ge hdeep)

end Words

namespace Fold

def flag (colocate : Bool) : List String := if colocate then ["colocate"] else []

def argsOf (colocate : Bool) : List Bool → List String
  | [] => flag colocate
  | inner :: levels => flag colocate ++ name :: argsOf inner levels

theorem factory_flag (colocate : Bool) :
    factory (flag colocate) = .load Words.name [] .refuse (.wrap (.casefold colocate)) := by
  cases colocate <;> rfl

theorem factory_flag_append (colocate : Bool) (args : List String) :
    factory (flag colocate ++ name :: args) = .load name args .refuse (.wrap (.casefold colocate)) := by
  cases colocate <;> rfl

theorem answers_iff {r : Registry} {generation other : Nat}
    (hfold : r.find? name = some ⟨factory, generation⟩)
    (hwords : r.find? Words.name = some ⟨Words.factory, other⟩) (colocate : Bool)
    (levels : List Bool) :
    r.Answers name (argsOf colocate levels) ↔ r.depth + levels.length + 2 ≤ maxNesting := by
  induction levels generalizing r colocate with
  | nil =>
    rcases Nat.lt_or_ge r.depth maxNesting with hdepth | hdeep
    case inr => exact iff_of_false (Registry.not_answers_of_deep hfold hdeep _) (by simp; omega)
    rw [argsOf, Registry.answers_of_wrap hfold hdepth (factory_flag colocate)]
    rw [Words.answers_iff (r := { r with depth := r.depth + 1 }) hwords rfl]
    exact Iff.rfl
  | cons inner levels ih =>
    rcases Nat.lt_or_ge r.depth maxNesting with hdepth | hdeep
    case inr => exact iff_of_false (Registry.not_answers_of_deep hfold hdeep _) (by omega)
    rw [argsOf, Registry.answers_of_wrap hfold hdepth (factory_flag_append colocate _),
      ih (r := { r with depth := r.depth + 1 }) hfold hwords, List.length_cons]
    dsimp only
    omega

end Fold

namespace Moment

variable {m n : Moment}

def within (m : Moment) : List String := m.pending.map (·.issue.binding.name)

structure Nested (m : Moment) : Prop where
  depth : m.registry.depth = m.pending.length
  frames : ∀ frame rest, frame :: rest <:+ m.pending → frame.depth = rest.length
  le : m.pending.length ≤ maxNesting

theorem nested_start : start.Nested :=
  ⟨rfl, fun _ _ h => (nomatch List.suffix_nil.mp h), Nat.zero_le _⟩

theorem Nested.pop {frame : Frame} {rest : List Frame} (hm : m.Nested)
    (hpending : m.pending = frame :: rest) (hdepth : n.registry.depth = frame.depth)
    (hrest : n.pending = rest) : n.Nested := by
  have hinner : rest <:+ m.pending := hpending ▸ List.suffix_cons frame rest
  subst hrest
  exact ⟨hdepth.trans (hm.frames frame n.pending (hpending ▸ List.suffix_rfl)),
    fun other rest h => hm.frames other rest (h.trans hinner), Nat.le_trans hinner.length_le hm.le⟩

theorem Step.nested (h : m.Step n) (hm : m.Nested) : n.Nested := by
  cases h with
  | register name factory => exact ⟨hm.depth, hm.frames, hm.le⟩
  | unregister name => exact ⟨hm.depth, hm.frames, hm.le⟩
  | @call name entry origin args hfind hdepth horigin hfactory =>
    refine ⟨congrArg (· + 1) hm.depth, fun frame rest h => ?_, hm.depth ▸ hdepth⟩
    rcases List.suffix_cons_iff.mp h with heq | h
    · obtain ⟨rfl, rfl⟩ := List.cons.inj heq
      exact hm.depth
    · exact hm.frames frame rest h
  | answer hpending => exact hm.pop hpending rfl rfl
  | fail hpending => exact hm.pop hpending rfl rfl

theorem Reachable.nested (h : m.Reachable) : m.Nested := by
  induction h with
  | refl => exact nested_start
  | tail _ hstep ih => exact hstep.nested ih

theorem Runs.depth_eq {r : Registry} (hm : m.Reachable) (h : m.Runs r n) :
    r.depth = m.registry.depth := by
  have hn := Reachable.nested (hm.trans h.reaches)
  rw [← h.registry, hn.depth, h.pending, hm.nested.depth]

/-- Creations are brackets. Where the depth stands is the number of the creations in progress, and every call
for a tokenizer, at whatever depth a factory makes it, leaves it there. -/
theorem creations_are_bracketed {m : Moment} (hm : m.Reachable) :
    m.registry.depth = m.pending.length ∧ m.pending.length ≤ maxNesting
    ∧ (∀ name args,
      (m.registry.trace m.within name args).outcome = m.registry.load name args
      ∧ (m.registry.trace m.within name args).Brackets m.within m.registry name)
    ∧ (∀ (σ : Type) (h : Handle) text reason (sink : Sink σ) s,
      (h.tokenizeInto m.registry text reason sink s).registry.depth = m.registry.depth)
    ∧ ∀ generation other, m.pending = [] →
      m.registry.find? Fold.name = some ⟨Fold.factory, generation⟩ →
      m.registry.find? Words.name = some ⟨Words.factory, other⟩ →
      ∀ colocate levels, m.registry.Answers Fold.name (Fold.argsOf colocate levels)
        ↔ levels.length ≤ maxNesting - 2 := by
  have hn := hm.nested
  have hwithin : m.within.length = m.pending.length := List.length_map _
  refine ⟨hn.depth, hn.le, fun name args => ⟨?_, ?_⟩, fun σ h text reason sink s => ?_,
    fun generation other hpending hfold hwords colocate levels => ?_⟩
  · exact Registry.outcome_traceWithin _ _ _ _ _
  · exact Registry.brackets_trace (hn.depth.trans hwithin.symm) (hwithin ▸ hn.le) name args
  · obtain ⟨later, hruns, -⟩ := h.tokenizeInto_runs hm.consistent text reason sink s
    exact hruns.depth_eq hm
  · rw [Fold.answers_iff hfold hwords, hn.depth, hpending, List.length_nil]
    have : 2 ≤ maxNesting := by decide
    omega

theorem folding_within_sixteen :
    ∃ m : Moment, m.Reachable ∧ m.registry = Registry.empty.registerBuiltins ∧ m.registry.depth = 0
      ∧ m.registry.Answers Fold.name (Fold.argsOf true (List.replicate 14 false))
      ∧ ¬ m.registry.Answers Fold.name (Fold.argsOf true (List.replicate 15 false)) := by
  have hreachable : Reachable _ :=
    (Relation.ReflTransGen.single (.register start Words.name Words.factory)).tail
      (.register _ Fold.name Fold.factory)
  obtain ⟨hdepth, -, -, -, hfolds⟩ := creations_are_bracketed hreachable
  have hiff := hfolds 2 1 rfl rfl rfl true
  exact ⟨_, hreachable, rfl, hdepth, (hiff _).mpr (by decide), mt (hiff _).mp (by decide)⟩

end Moment
end TextBoundary.Tokenizer
