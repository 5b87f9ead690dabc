namespace TextBoundary

variable {σ α ε β : Type} {read : σ → List α → Except ε β} {next : σ → α → σ} {front : List α}

/-- An item that can be read leaves the others to the next state, and adds to what they give. -/
def Passes (read : σ → List α → Except ε β) (next : σ → α → σ) (item : α) : Prop :=
  ∀ state, ∃ add : β → β, ∀ items, read state (item :: items) = (read (next state item) items).map add

theorem exists_read_append (h : ∀ item ∈ front, Passes read next item) (state : σ) :
    ∃ add, ∀ items, read state (front ++ items) = (read (front.foldl next state) items).map add := by
  induction front generalizing state with
  | nil =>
    refine ⟨id, fun items => ?_⟩
    rw [List.nil_append, List.foldl_nil]
    cases read state items <;> rfl
  | cons item front ih =>
    obtain ⟨hitem, hfront⟩ := List.forall_mem_cons.mp h
    obtain ⟨add, hcons⟩ := hitem state
    obtain ⟨more, happend⟩ := ih hfront (next state item)
    refine ⟨add ∘ more, fun items => ?_⟩
    rw [List.cons_append, hcons, happend, List.foldl_cons]
    cases read (front.foldl next (next state item)) items <;> rfl

theorem exists_read (h : ∀ item ∈ front, Passes read next item) (hnil : ∀ state, ∃ result, read state [] = .ok result)
    (state : σ) : ∃ result, read state front = .ok result := by
  obtain ⟨add, happend⟩ := exists_read_append h state
  obtain ⟨result, hresult⟩ := hnil (front.foldl next state)
  have hfront := happend []
  rw [List.append_nil, hresult] at hfront
  exact ⟨_, hfront⟩

theorem read_append_error {items : List α} {error : ε} {state : σ} (h : ∀ item ∈ front, Passes read next item)
    (herror : read (front.foldl next state) items = .error error) : read state (front ++ items) = .error error := by
  obtain ⟨add, happend⟩ := exists_read_append h state
  rw [happend, herror]
  rfl

theorem exists_first {good : α → Prop} {items : List α} (h : ¬∀ item ∈ items, good item) :
    ∃ front item back, items = front ++ item :: back ∧ (∀ other ∈ front, good other) ∧ ¬good item := by
  induction items with
  | nil => exact absurd (List.forall_mem_nil good) h
  | cons item items ih =>
    by_cases hitem : good item
    · have hitems : ¬∀ item ∈ items, good item := fun hitems => h (List.forall_mem_cons.mpr ⟨hitem, hitems⟩)
      obtain ⟨front, other, back, rfl, hfront, hother⟩ := ih hitems
      exact ⟨item :: front, other, back, rfl, List.forall_mem_cons.mpr ⟨hitem, hfront⟩, hother⟩
    · exact ⟨[], item, items, rfl, List.forall_mem_nil good, hitem⟩

end TextBoundary
