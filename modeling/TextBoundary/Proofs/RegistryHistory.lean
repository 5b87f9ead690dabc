import TextBoundary.Tokenizer.Registry

/-! The changes of a registry, the last one first. A generation is given to one registration only, so it
tells which one an entry comes from, however often a name is registered anew. -/

namespace TextBoundary.Tokenizer

namespace Registry

theorem find?_filter_name (entries : List (String × Entry)) (name other : String) :
    (entries.filter (·.1 != name)).find? (·.1 == other)
      = if name = other then none else entries.find? (·.1 == other) := by
  rw [List.find?_filter]
  split
  case isTrue h =>
    subst h
    exact List.find?_eq_none.mpr (by simp)
  case isFalse h =>
    congr 1
    funext p
    grind

theorem find?_register (r : Registry) (name other : String) (factory : Factory) :
    (r.register name factory).find? other
      = if name = other then some ⟨factory, r.generation + 1⟩ else r.find? other := by
  rw [find?, register, List.find?_cons]
  by_cases h : name = other
  · simp [h]
  · rw [beq_eq_false_iff_ne.mpr h, find?_filter_name, if_neg h, if_neg h, find?]

theorem find?_unregister (r : Registry) (name other : String) :
    (r.unregister name).find? other = if name = other then none else r.find? other := by
  rw [find?, unregister, find?_filter_name]
  split <;> rfl

theorem validate_eq (r : Registry) (b : Binding) :
    r.validate b = match r.find? b.name with
      | some entry => if entry.generation = b.generation then .ok () else .error (.changed b.name)
      | none => .error (.removed b.name) := by
  rw [validate, generation?]
  cases r.find? b.name <;> rfl

end Registry

inductive Change
  | register (name : String) (factory : Factory)
  | unregister (name : String)

def Change.name : Change → String
  | register name _ => name
  | unregister name => name

/-- A registration, known by the number of changes before it. -/
structure Registration where
  number : Nat
  factory : Factory

variable {name : String} {past history newer : List Change} {origin other : Registration}
  {generation otherGeneration : Nat}

/-- The registration that stands under a name. -/
def standing? (name : String) : List Change → Option Registration
  | [] => none
  | .register n factory :: past =>
    if n = name then some ⟨past.length, factory⟩ else standing? name past
  | .unregister n :: past => if n = name then none else standing? name past

def registrations : List Change → Nat
  | [] => 0
  | .register _ _ :: past => registrations past + 1
  | .unregister _ :: past => registrations past

theorem standing?_append_of_name_ne (h : ∀ change ∈ newer, change.name ≠ name) :
    standing? name (newer ++ history) = standing? name history := by
  induction newer with
  | nil => rfl
  | cons change newer ih =>
    obtain ⟨hname, hnewer⟩ := List.forall_mem_cons.mp h
    cases change with
    | register n factory => exact (if_neg hname).trans (ih hnewer)
    | unregister n => exact (if_neg hname).trans (ih hnewer)

theorem standing?_of_append (h : standing? name (newer ++ history) = some origin)
    (hnumber : origin.number < history.length) : standing? name history = some origin := by
  induction newer with
  | nil => exact h
  | cons change newer ih =>
    cases change with
    | register n factory =>
      rw [List.cons_append, standing?] at h
      split at h
      case isTrue =>
        obtain rfl := Option.some.inj h
        simp only [List.length_append] at hnumber
        omega
      case isFalse => exact ih h
    | unregister n =>
      rw [List.cons_append, standing?] at h
      split at h
      case isTrue => exact nomatch h
      case isFalse => exact ih h

/-- A registration of the history was given the generation. -/
inductive Stamped : List Change → Registration → Nat → Prop
  | register {name : String} {factory : Factory} {past : List Change} :
      Stamped (.register name factory :: past) ⟨past.length, factory⟩ (registrations past + 1)
  | before {change : Change} {past : List Change} {origin : Registration} {generation : Nat} :
      Stamped past origin generation → Stamped (change :: past) origin generation

theorem registrations_le_cons (change : Change) : registrations past ≤ registrations (change :: past) := by
  cases change with
  | register name factory => exact Nat.le_succ _
  | unregister name => exact Nat.le_refl _

theorem Stamped.bounds (h : Stamped history origin generation) :
    origin.number < history.length ∧ generation ≤ registrations history := by
  induction h with
  | register => exact ⟨Nat.lt_succ_self _, Nat.le_refl _⟩
  | before _ ih => exact ⟨Nat.lt_succ_of_lt ih.1, Nat.le_trans ih.2 (registrations_le_cons _)⟩

theorem Stamped.eq_iff (h : Stamped history origin generation)
    (h' : Stamped history other otherGeneration) : origin = other ↔ generation = otherGeneration := by
  induction h with
  | register =>
    cases h' with
    | register => exact ⟨fun _ => rfl, fun _ => rfl⟩
    | before h' =>
      -- one is older than the other, by its number and by its generation
      obtain ⟨hnumber, hgeneration⟩ := h'.bounds
      exact ⟨fun heq => absurd hnumber (heq ▸ Nat.lt_irrefl _), fun heq => by omega⟩
  | before h ih =>
    cases h' with
    | register =>
      obtain ⟨hnumber, hgeneration⟩ := h.bounds
      exact ⟨fun heq => absurd hnumber (heq ▸ Nat.lt_irrefl _), fun heq => by omega⟩
    | before h' => exact ih h'

def Recorded (history : List Change) (entry : Entry) (origin : Registration) : Prop :=
  entry.factory = origin.factory ∧ Stamped history origin entry.generation

/-- The entries of a registry are the records of what stands in its history. -/
structure Registry.Keeps (r : Registry) (history : List Change) : Prop where
  generation : r.generation = registrations history
  entries (name : String) : Option.Rel (Recorded history) (r.find? name) (standing? name history)

namespace Registry.Keeps

variable {r : Registry}

theorem empty : Registry.empty.Keeps [] := ⟨rfl, fun _ => .none⟩

theorem recorded_cons (change : Change) {found : Option Entry} {stands : Option Registration}
    (h : Option.Rel (Recorded history) found stands) :
    Option.Rel (Recorded (change :: history)) found stands := by
  cases h with
  | none => exact .none
  | some h => exact .some ⟨h.1, .before h.2⟩

theorem register (h : r.Keeps history) (name : String) (factory : Factory) :
    (r.register name factory).Keeps (.register name factory :: history) where
  generation := congrArg (· + 1) h.generation
  entries other := by
    rw [find?_register, standing?, h.generation]
    split
    case isTrue => exact .some ⟨rfl, .register⟩
    case isFalse => exact recorded_cons _ (h.entries other)

theorem unregister (h : r.Keeps history) (name : String) :
    (r.unregister name).Keeps (.unregister name :: history) where
  generation := h.generation
  entries other := by
    rw [find?_unregister, standing?]
    split
    case isTrue => exact .none
    case isFalse => exact recorded_cons _ (h.entries other)

theorem withDepth (h : r.Keeps history) (depth : Nat) : { r with depth := depth }.Keeps history :=
  ⟨h.generation, h.entries⟩

theorem standing?_of_find? (h : r.Keeps history) {entry : Entry} (hfind : r.find? name = some entry) :
    ∃ origin, standing? name history = some origin ∧ Recorded history entry origin := by
  have hentry := h.entries name
  rw [hfind] at hentry
  cases hstanding : standing? name history with
  | none => rw [hstanding] at hentry; exact nomatch hentry
  | some origin =>
    rw [hstanding] at hentry
    cases hentry with
    | some hrecorded => exact ⟨origin, rfl, hrecorded⟩

theorem factory_eq (h : r.Keeps history) (name : String) :
    (r.find? name).map Entry.factory = (standing? name history).map Registration.factory := by
  have hentry := h.entries name
  generalize r.find? name = found at hentry ⊢
  generalize standing? name history = stands at hentry ⊢
  cases hentry with
  | none => rfl
  | some hrecorded => exact congrArg some hrecorded.1

theorem validate_cases (h : r.Keeps history) {b : Binding} (hb : Stamped history origin b.generation) :
    (standing? b.name history = some origin ∧ r.validate b = .ok ())
    ∨ (∃ other, standing? b.name history = some other ∧ other ≠ origin
        ∧ r.validate b = .error (.changed b.name))
    ∨ standing? b.name history = none ∧ r.validate b = .error (.removed b.name) := by
  have hentry := h.entries b.name
  rw [validate_eq]
  generalize r.find? b.name = found at hentry ⊢
  generalize standing? b.name history = stands at hentry ⊢
  cases hentry with
  | none => exact .inr (.inr ⟨rfl, rfl⟩)
  | @some entry other hrecorded =>
    have hiff := hrecorded.2.eq_iff hb
    by_cases heq : other = origin
    · exact .inl ⟨congrArg _ heq, if_pos (hiff.mp heq)⟩
    · exact .inr (.inl ⟨other, rfl, heq, if_neg (mt hiff.mpr heq)⟩)

end Registry.Keeps
end TextBoundary.Tokenizer
