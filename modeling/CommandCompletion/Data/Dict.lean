import CommandCompletion.Text

namespace CommandCompletion

-- Named values in the order in which their names first appeared.
abbrev Dict (α : Type) := List (Text × α)

namespace Dict

variable {α : Type}

def get? (d : Dict α) (key : Text) : Option α :=
  d.lookup key

def keys (d : Dict α) : List Text :=
  d.map Prod.fst

def contains (d : Dict α) (key : Text) : Bool :=
  (d.get? key).isSome

-- A name that is already there keeps its place and takes the new value.
def insert (d : Dict α) (key : Text) (value : α) : Dict α :=
  match d with
  | [] => [(key, value)]
  | (k, v) :: rest => if k = key then (key, value) :: rest else (k, v) :: insert rest key value

-- The dictionary after each pair in turn is put into `d`.
def insertAll (d : Dict α) (pairs : List (Text × α)) : Dict α :=
  pairs.foldl (fun d pair => d.insert pair.1 pair.2) d

-- A repeated name keeps its first place and takes its last value.
def ofList (pairs : List (Text × α)) : Dict α :=
  insertAll [] pairs

def Distinct (d : Dict α) : Prop :=
  d.keys.Nodup

theorem mem_of_get? {d : Dict α} {key : Text} {value : α} (h : d.get? key = some value) :
    (key, value) ∈ d := by
  induction d with
  | nil => simp [get?] at h
  | cons pair rest ih =>
    obtain ⟨k, v⟩ := pair
    simp only [get?, List.lookup_cons] at h ih
    split at h
    · next hk => simp_all
    · exact List.mem_cons_of_mem _ (ih h)

-- Among distinct names a pair is found by its name.
theorem get?_of_mem {d : Dict α} {key : Text} {value : α} (distinct : d.Distinct)
    (h : (key, value) ∈ d) : d.get? key = some value := by
  induction d with
  | nil => cases h
  | cons pair rest ih =>
    obtain ⟨k, v⟩ := pair
    simp only [Distinct, keys, List.map_cons, List.nodup_cons, List.mem_map] at distinct
    simp only [get?, List.lookup_cons]
    rcases List.mem_cons.mp h with hm | hm
    · simp_all
    · have hne : (key == k) = false := by
        rw [beq_eq_false_iff_ne]
        rintro rfl
        exact distinct.1 ⟨(key, value), hm, rfl⟩
      rw [hne]
      exact ih distinct.2 hm

theorem mem_of_mem_insert {d : Dict α} {key : Text} {value : α} {pair : Text × α}
    (h : pair ∈ d.insert key value) : pair = (key, value) ∨ pair ∈ d := by
  induction d with
  | nil => simpa [insert] using h
  | cons head rest ih =>
    obtain ⟨k, v⟩ := head
    simp only [insert] at h
    split at h
    · rcases List.mem_cons.mp h with h | h
      · exact .inl h
      · exact .inr (List.mem_cons_of_mem _ h)
    · rcases List.mem_cons.mp h with h | h
      · exact .inr (h ▸ List.mem_cons_self)
      · exact (ih h).imp id (List.mem_cons_of_mem _)

theorem keys_insert (d : Dict α) (key : Text) (value : α) :
    (d.insert key value).keys = if key ∈ d.keys then d.keys else d.keys ++ [key] := by
  induction d with
  | nil => rfl
  | cons head rest ih =>
    obtain ⟨k, v⟩ := head
    simp only [keys] at ih
    by_cases hk : k = key
    · simp [insert, keys, hk]
    · have hk' : key ≠ k := fun h => hk h.symm
      simp only [insert, hk, ↓reduceIte, keys, List.map_cons, List.mem_cons, hk', false_or, ih]
      split <;> simp_all

theorem distinct_insert {d : Dict α} (h : d.Distinct) (key : Text) (value : α) :
    (d.insert key value).Distinct := by
  unfold Distinct at h ⊢
  rw [keys_insert]
  split
  · exact h
  · next hk =>
    rw [List.nodup_append]
    exact ⟨h, by simp, fun a ha b hb => by
      rw [List.mem_singleton.mp hb]; rintro rfl; exact hk ha⟩

theorem distinct_insertAll {d : Dict α} (h : d.Distinct) (pairs : List (Text × α)) :
    (d.insertAll pairs).Distinct := by
  induction pairs generalizing d with
  | nil => exact h
  | cons pair rest ih => exact ih (distinct_insert h _ _)

theorem distinct_ofList (pairs : List (Text × α)) : (ofList pairs).Distinct :=
  distinct_insertAll (by simp [Distinct, keys]) pairs

theorem mem_of_mem_insertAll {d : Dict α} {pairs : List (Text × α)} {pair : Text × α}
    (h : pair ∈ d.insertAll pairs) : pair ∈ d ∨ pair ∈ pairs := by
  induction pairs generalizing d with
  | nil => exact .inl h
  | cons head rest ih =>
    rcases ih h with h | h
    · rcases mem_of_mem_insert h with h | h
      · exact .inr (h ▸ List.mem_cons_self)
      · exact .inl h
    · exact .inr (List.mem_cons_of_mem _ h)

theorem mem_of_mem_ofList {pairs : List (Text × α)} {pair : Text × α}
    (h : pair ∈ ofList pairs) : pair ∈ pairs := by
  rcases mem_of_mem_insertAll h with h | h
  · cases h
  · exact h

end Dict

end CommandCompletion
