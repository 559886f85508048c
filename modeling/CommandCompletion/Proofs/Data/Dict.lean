import CommandCompletion.Data.Dict
import Mathlib.Data.List.Induction

namespace CommandCompletion.Dict

variable {α : Type}

instance (d : Dict α) : Decidable d.Distinct :=
  inferInstanceAs (Decidable d.keys.Nodup)

theorem distinct_nil : Distinct ([] : Dict α) :=
  List.nodup_nil

theorem get?_cons (key name : Text) (value : α) (rest : Dict α) :
    get? ((key, value) :: rest) name = if name = key then some value else rest.get? name := by
  simp only [get?, List.lookup_cons]
  by_cases h : name = key
  · simp [h]
  · simp [h, beq_false_of_ne h]

theorem get?_insert (d : Dict α) (key name : Text) (value : α) :
    (d.insert key value).get? name = if name = key then some value else d.get? name := by
  induction d with
  | nil => exact get?_cons key name value []
  | cons head rest ih =>
    obtain ⟨k, v⟩ := head
    rw [insert]
    by_cases hk : k = key
    · subst hk
      by_cases h : name = k <;> simp [get?_cons, h]
    · rw [if_neg hk, get?_cons, get?_cons, ih]
      by_cases h : name = k
      · subst h
        simp [hk]
      · simp [h]

theorem insert_insert (d : Dict α) (key : Text) (value other : α) :
    (d.insert key value).insert key other = d.insert key other := by
  induction d with
  | nil => simp [insert]
  | cons head rest ih =>
    obtain ⟨k, v⟩ := head
    by_cases h : k = key
    · simp [insert, h]
    · simp [insert, h, ih]

theorem get?_eq_none_iff {d : Dict α} {name : Text} : d.get? name = none ↔ name ∉ d.keys := by
  simp only [get?, keys, List.lookup_eq_none_iff, List.mem_map, bne_iff_ne, ne_eq]
  constructor
  · rintro h ⟨pair, hpair, rfl⟩
    exact h pair hpair rfl
  · rintro h pair hpair rfl
    exact h ⟨pair, hpair, rfl⟩

-- What stands in front has no say about a name that it does not hold.
theorem get?_append_of_notMem {d : Dict α} {name : Text} (h : name ∉ d.keys) (behind : Dict α) :
    Dict.get? (d ++ behind) name = behind.get? name := by
  rw [get?, List.lookup_append, ← get?, get?_eq_none_iff.mpr h]
  rfl

theorem insert_append_of_notMem {d : Dict α} {name : Text} (h : name ∉ d.keys) (behind : Dict α)
    (value : α) : Dict.insert (d ++ behind) name value = d ++ behind.insert name value := by
  induction d with
  | nil => rfl
  | cons head rest ih =>
    obtain ⟨k, v⟩ := head
    obtain ⟨hk, hrest⟩ : name ≠ k ∧ name ∉ keys rest := by simpa [keys] using h
    rw [List.cons_append, insert, if_neg hk.symm, ih hrest, List.cons_append]

theorem keys_map_snd {β : Type} (d : Dict α) (f : Text × α → β) :
    Dict.keys (d.map fun pair => (pair.1, f pair)) = d.keys := by
  simp [keys, Function.comp_def]

-- The pairs after one of them took another value.
theorem insert_of_mem {d : Dict α} (distinct : d.Distinct) {name : Text} (h : name ∈ d.keys)
    (value : α) :
    d.insert name value = d.map fun pair => (pair.1, if pair.1 = name then value else pair.2) := by
  induction d with
  | nil => cases h
  | cons head rest ih =>
    obtain ⟨k, v⟩ := head
    obtain ⟨hnew, distinct⟩ := List.nodup_cons.mp distinct
    rw [insert, List.map_cons]
    by_cases hk : k = name
    · subst hk
      have hrest : rest = rest.map fun pair => (pair.1, if pair.1 = k then value else pair.2) := by
        refine (List.map_id' rest).symm.trans (List.map_congr_left fun pair hpair => ?_)
        rw [if_neg]
        rintro hname
        exact hnew (List.mem_map.mpr ⟨pair, hpair, hname⟩)
      rw [if_pos rfl, if_pos rfl, ← hrest]
    · rw [if_neg hk, if_neg hk, ih distinct ((List.mem_cons.mp h).resolve_left (Ne.symm hk))]

theorem Distinct.notMem_keys {d behind : Dict α} {name : Text} {value : α}
    (distinct : Distinct (d ++ (name, value) :: behind)) : name ∉ d.keys := by
  rw [Distinct, keys, List.map_append, List.map_cons] at distinct
  exact fun h => (List.nodup_append.mp distinct).2.2 _ h _ List.mem_cons_self rfl

theorem ofList_append_singleton (pairs : List (Text × α)) (pair : Text × α) :
    ofList (pairs ++ [pair]) = (ofList pairs).insert pair.1 pair.2 := by
  simp [ofList, insertAll, List.foldl_append]

-- Pairs of distinct names are a dictionary as they stand.
theorem ofList_of_distinct {pairs : List (Text × α)} (distinct : Distinct pairs) :
    ofList pairs = pairs := by
  induction pairs using List.reverseRecOn with
  | nil => rfl
  | append_singleton pairs pair ih =>
    rw [Distinct, keys, List.map_append, List.map_singleton] at distinct
    obtain ⟨hfront, -, hother⟩ := List.nodup_append.mp distinct
    have hnew : pair.1 ∉ keys pairs := fun h => hother _ h _ (List.mem_singleton.mpr rfl) rfl
    have hinsert := insert_append_of_notMem hnew [] pair.2
    rw [List.append_nil] at hinsert
    rw [ofList_append_singleton, ih hfront, hinsert]
    rfl

-- Names stand where they stood first.
theorem keys_ofList (pairs : List (Text × α)) :
    (ofList pairs).keys = (pairs.map Prod.fst).eraseDups := by
  induction pairs using List.reverseRecOn with
  | nil => rfl
  | append_singleton pairs pair ih =>
    rw [ofList_append_singleton, keys_insert, ih, List.map_append, List.eraseDups_append,
      List.map_singleton]
    by_cases h : pair.1 ∈ pairs.map Prod.fst <;> simp [List.removeAll, h]
    rfl

-- Of the values of one name the last one is kept.
theorem get?_ofList (pairs : List (Text × α)) (name : Text) :
    (ofList pairs).get? name =
      (pairs.filterMap fun pair => if pair.1 = name then some pair.2 else none).getLast? := by
  induction pairs using List.reverseRecOn with
  | nil => rfl
  | append_singleton pairs pair ih =>
    rw [ofList_append_singleton, get?_insert, ih, List.filterMap_append]
    by_cases h : pair.1 = name
    · simp [h]
    · simp [h, Ne.symm h]

theorem get?_ofList_of_last {name : Text} {after : List (Text × α)}
    (h : ∀ later ∈ after, later.1 ≠ name) (before : List (Text × α)) (value : α) :
    (ofList (before ++ (name, value) :: after)).get? name = some value := by
  have hafter : (after.filterMap fun pair => if pair.1 = name then some pair.2 else none) = [] :=
    List.filterMap_eq_nil_iff.mpr fun pair hpair => if_neg (h pair hpair)
  rw [get?_ofList, List.filterMap_append, List.filterMap_cons, hafter]
  simp

-- Distinct names in the same order with the same values make up the same dictionary.
theorem ext_of_get? {d e : Dict α} (distinct : d.Distinct) (hkeys : d.keys = e.keys)
    (hget : ∀ name, d.get? name = e.get? name) : d = e := by
  induction d generalizing e with
  | nil => exact (List.map_eq_nil_iff.mp hkeys.symm).symm
  | cons head d ih =>
    obtain ⟨k, v⟩ := head
    cases e with
    | nil => cases hkeys
    | cons other e =>
      obtain ⟨k', v'⟩ := other
      obtain ⟨rfl, hrest⟩ := List.cons.inj hkeys
      obtain ⟨hnew, distinct⟩ := List.nodup_cons.mp distinct
      have hrest : keys d = keys e := hrest
      have hnew' : k ∉ keys e := hrest ▸ hnew
      have hvalue : v = v' := by simpa [get?_cons] using hget k
      have hbehind (name : Text) : get? d name = get? e name := by
        by_cases h : name = k
        · rw [h, get?_eq_none_iff.mpr hnew, get?_eq_none_iff.mpr hnew']
        · simpa [get?_cons, h] using hget name
      rw [hvalue, ih distinct hrest hbehind]

-- Values that are put under different names, one of which is there already, may be put in either
-- order.
theorem insert_comm {d : Dict α} {key other : Text} (hne : key ≠ other) (h : key ∈ d.keys)
    (value next : α) :
    (d.insert other next).insert key value = (d.insert key value).insert other next := by
  induction d with
  | nil => cases h
  | cons head d ih =>
    obtain ⟨k, v⟩ := head
    by_cases hk : k = key
    · subst hk
      simp [insert, hne]
    · have hd : key ∈ keys d := (List.mem_cons.mp h).resolve_left (Ne.symm hk)
      by_cases ho : k = other
      · subst ho
        simp [insert, hk]
      · simp [insert, hk, ho, ih hd]

theorem insertAll_cons (d : Dict α) (pair : Text × α) (pairs : List (Text × α)) :
    d.insertAll (pair :: pairs) = (d.insert pair.1 pair.2).insertAll pairs :=
  rfl

-- A name that is there and not among the pairs takes its value before or after them.
theorem insertAll_insert_of_notMem {d pairs : Dict α} {key : Text} (h : key ∈ d.keys)
    (hnew : key ∉ pairs.keys) (value : α) :
    (d.insertAll pairs).insert key value = (d.insert key value).insertAll pairs := by
  induction pairs generalizing d with
  | nil => rfl
  | cons pair pairs ih =>
    obtain ⟨k, v⟩ := pair
    obtain ⟨hk, hnew⟩ : key ≠ k ∧ key ∉ keys pairs := by simpa [keys] using hnew
    have hmem : key ∈ (d.insert k v).keys := by
      rw [keys_insert]
      split <;> simp [h]
    rw [insertAll_cons, ih hmem hnew, insert_comm hk h, insertAll_cons]

theorem insertAll_insert {e : Dict α} (distinct : e.Distinct) (d : Dict α) (key : Text)
    (value : α) : d.insertAll (e.insert key value) = (d.insertAll e).insert key value := by
  induction e generalizing d with
  | nil => rfl
  | cons pair e ih =>
    obtain ⟨k, v⟩ := pair
    obtain ⟨hnew, distinct⟩ := List.nodup_cons.mp distinct
    rw [insert]
    by_cases hk : k = key
    · subst hk
      have hmem : k ∈ (d.insert k v).keys := by
        rw [keys_insert]
        split <;> simp_all
      rw [if_pos rfl, insertAll_cons, insertAll_cons, insertAll_insert_of_notMem hmem hnew,
        insert_insert]
    · rw [if_neg hk, insertAll_cons, insertAll_cons, ih distinct]

-- It makes no difference whether pairs are put in one by one or as a dictionary of their own.
theorem insertAll_ofList (d : Dict α) (pairs : List (Text × α)) :
    d.insertAll (ofList pairs) = d.insertAll pairs := by
  induction pairs using List.reverseRecOn with
  | nil => rfl
  | append_singleton pairs pair ih =>
    rw [ofList_append_singleton, insertAll_insert (distinct_ofList pairs), ih]
    simp [insertAll, List.foldl_append]

theorem ofList_append (pairs others : List (Text × α)) :
    ofList (pairs ++ others) = (ofList pairs).insertAll (ofList others) := by
  rw [insertAll_ofList]
  exact List.foldl_append

end CommandCompletion.Dict
