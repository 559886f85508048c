import Mathlib.Data.List.Basic

namespace CommandCompletion

-- When what is computed step by step comes to a result: each of its steps does.

variable {ε α β : Type}

theorem bind_eq_ok_iff {x : Except ε α} {f : α → Except ε β} {b : β} :
    x >>= f = .ok b ↔ ∃ a, x = .ok a ∧ f a = .ok b := by
  cases x <;> simp [bind, Except.bind]

theorem map_eq_ok_iff {x : Except ε α} {f : α → β} {b : β} :
    x.map f = .ok b ↔ ∃ a, x = .ok a ∧ f a = b := by
  cases x <;> simp [Except.map]

theorem mapM_cons_eq_ok_iff {f : α → Except ε β} {item : α} {items : List α} {values : List β} :
    (item :: items).mapM f = .ok values ↔
      ∃ value others, f item = .ok value ∧ items.mapM f = .ok others ∧
        value :: others = values := by
  rw [List.mapM_cons, bind_eq_ok_iff]
  simp only [bind_eq_ok_iff, pure, Except.pure, Except.ok.injEq]
  constructor
  · rintro ⟨value, hvalue, others, hothers, he⟩
    exact ⟨value, others, hvalue, hothers, he⟩
  · rintro ⟨value, others, hvalue, hothers, he⟩
    exact ⟨value, hvalue, others, hothers, he⟩

theorem mapM_eq_ok {f : α → Except ε β} {values : α → β} {items : List α}
    (h : ∀ item ∈ items, f item = .ok (values item)) : items.mapM f = .ok (items.map values) := by
  induction items with
  | nil => rfl
  | cons item items ih =>
    obtain ⟨hitem, h⟩ := List.forall_mem_cons.mp h
    exact mapM_cons_eq_ok_iff.mpr ⟨_, _, hitem, ih h, rfl⟩

theorem exists_mapM_eq_ok {f : α → Except ε β} {p : β → Prop} {items : List α}
    (h : ∀ item ∈ items, ∃ value, f item = .ok value ∧ p value) :
    ∃ values, items.mapM f = .ok values ∧ ∀ value ∈ values, p value := by
  induction items with
  | nil => exact ⟨[], rfl, List.forall_mem_nil _⟩
  | cons item items ih =>
    obtain ⟨⟨value, hvalue, hp⟩, h⟩ := List.forall_mem_cons.mp h
    obtain ⟨values, hvalues, hall⟩ := ih h
    exact ⟨value :: values, mapM_cons_eq_ok_iff.mpr ⟨_, _, hvalue, hvalues, rfl⟩,
      List.forall_mem_cons.mpr ⟨hp, hall⟩⟩

end CommandCompletion
