import CommandCompletion.Proofs.Toml.Inline

namespace CommandCompletion.Toml

variable {lists : Bool} {f g : Dict Value → Option (Dict Value)} {key more : List Text}
  {members changed table table' new : Dict Value} {part : Text} {value : Value}

-- A change at the end of a longer key is one at the end of its front.
theorem changeAt_append (lists : Bool) (f : Dict Value → Option (Dict Value))
    (key more : List Text) (members : Dict Value) :
    changeAt lists f (key ++ more) members = changeAt lists (changeAt lists f more) key members := by
  induction key generalizing members with
  | nil => rfl
  | cons part key ih => simp only [List.cons_append, changeAt, ih]

-- Two changes at the end of a key, one after the other.
theorem changeAt_bind (lists : Bool) (f g : Dict Value → Option (Dict Value)) (key : List Text)
    (members : Dict Value) :
    (changeAt lists f key members).bind (changeAt lists g key) =
      changeAt lists (fun t => (f t).bind g) key members := by
  induction key generalizing members with
  | nil => rfl
  | cons part key ih =>
    have hstep (inner : Dict Value) (wrap : Dict Value → Value)
        (hwrap : ∀ t, changeAt lists g (part :: key) (members.insert part (wrap t)) =
          (changeAt lists g key t).map fun t => members.insert part (wrap t)) :
        ((changeAt lists f key inner).map fun t => members.insert part (wrap t)).bind
            (changeAt lists g (part :: key)) =
          (changeAt lists (fun t => (f t).bind g) key inner).map
            fun t => members.insert part (wrap t) := by
      rw [← ih, Option.bind_map]
      cases changeAt lists f key inner with
      | none => rfl
      | some t => exact hwrap t
    rw [changeAt.eq_2 lists f, changeAt.eq_2 lists fun t => (f t).bind g]
    split
    · next inner _ =>
      exact hstep inner .table fun t => by
        simp [changeAt, Dict.get?_insert, Dict.insert_insert]
    · next items _ =>
      split
      · next hlists =>
        subst hlists
        split
        · next inner _ =>
          exact hstep inner (fun t => .list (items.dropLast ++ [.table t])) fun t => by
            simp [changeAt, Dict.get?_insert, Dict.insert_insert]
        · rfl
      · rfl
    · rfl

-- What one change makes of every table that it does not refuse, another one may do as well.
theorem changeAt_mono (h : ∀ t t', f t = some t' → g t = some t')
    (hchange : changeAt lists f key members = some changed) :
    changeAt lists g key members = some changed := by
  induction key generalizing members changed with
  | nil => exact h _ _ hchange
  | cons part key ih =>
    rw [changeAt] at hchange ⊢
    split at hchange
    · next inner hinner =>
      obtain ⟨t, ht, rfl⟩ := Option.map_eq_some_iff.mp hchange
      simp only [ih ht, Option.map_some]
    · next items hitems =>
      split at hchange
      · next hlists =>
        split at hchange
        · next inner hlast =>
          obtain ⟨t, ht, rfl⟩ := Option.map_eq_some_iff.mp hchange
          rw [if_pos hlists, ih ht, Option.map_some]
        · cases hchange
      · cases hchange
    · cases hchange

-- Where a change can be made, the place can be reached.
theorem exists_changeAt_some (h : changeAt lists f key members = some changed) :
    ∃ reached, changeAt lists some key members = some reached ∧
      changeAt lists f key reached = some changed := by
  have hbind := changeAt_bind lists some f key members
  rw [show (fun t => (some t).bind f) = f from rfl, h] at hbind
  exact Option.bind_eq_some_iff.mp hbind

-- Where a change was made, the place is there.
theorem changeAt_some_of_changeAt (h : changeAt lists f key members = some changed) :
    changeAt lists some key changed = some changed := by
  have hbind := changeAt_bind lists f some key members
  rwa [show (fun t => (f t).bind some) = f from funext fun t => Option.bind_fun_some (f t), h,
    Option.bind_some] at hbind

-- New members for a table, one after the other.
def grow (new : Dict Value) (table : Dict Value) : Option (Dict Value) :=
  new.foldlM (fun t member => addMember member.1 member.2 t) table

theorem grow_cons (name : Text) (value : Value) (new table : Dict Value) :
    grow ((name, value) :: new) table = (addMember name value table).bind (grow new) :=
  List.foldlM_cons

theorem changeAt_grow_cons (lists : Bool) (name : Text) (value : Value) (new : Dict Value)
    (key : List Text) (members : Dict Value) :
    changeAt lists (grow ((name, value) :: new)) key members =
      (changeAt lists (addMember name value) key members).bind (changeAt lists (grow new) key) := by
  rw [changeAt_bind, funext (grow_cons name value new)]

theorem changeAt_grow_append (lists : Bool) (new others : Dict Value) (key : List Text)
    (members : Dict Value) :
    changeAt lists (grow (new ++ others)) key members =
      (changeAt lists (grow new) key members).bind (changeAt lists (grow others) key) := by
  have happend (table : Dict Value) :
      grow (new ++ others) table = (grow new table).bind (grow others) := List.foldlM_append
  rw [changeAt_bind, funext happend]

theorem grow_eq_some_of_distinct (distinct : Dict.Distinct (table ++ new)) :
    grow new table = some (table ++ new) := by
  induction new generalizing table with
  | nil =>
    rw [List.append_nil]
    rfl
  | cons member new ih =>
    obtain ⟨name, value⟩ := member
    have hfirst := addMember_of_notMem distinct.notMem_keys value
    rw [List.append_cons] at distinct
    rw [grow_cons, hfirst, Option.bind_some, ih distinct, List.append_assoc, List.singleton_append]

theorem addMember_eq_some_iff {name : Text} :
    addMember name value table = some table' ↔
      name ∉ table.keys ∧ table' = table ++ [(name, value)] := by
  by_cases h : name ∈ table.keys
  · have hcontains : table.contains name = true := by
      rw [Dict.contains, Option.isSome_iff_ne_none]
      exact fun hnone => Dict.get?_eq_none_iff.mp hnone h
    simp [addMember, hcontains, h]
  · rw [addMember_of_notMem h]
    simp [h, eq_comm]

-- A table that is new grows in its place as it would by itself.
theorem changeAt_grow_of_addMember (hvalue : grow new [] = some new)
    (h : addMember part (.table new) table = some table') :
    changeAt true (grow new) [part] table = some table' := by
  obtain ⟨hpart, rfl⟩ := addMember_eq_some_iff.mp h
  have hinsert := Dict.insert_append_of_notMem hpart [] (.table new)
  rw [List.append_nil] at hinsert
  simp only [changeAt, Dict.get?_eq_none_iff.mpr hpart, Option.getD_none, hvalue, Option.map_some,
    hinsert]
  rfl

-- Tables that are put at the end of a list, one after the other. The list is made if it is missing.
def growItems (part : Text) (items : List (Dict Value)) (table : Dict Value) :
    Option (Dict Value) :=
  items.foldlM (fun t item => (addItem part t).bind (changeAt true (grow item) [part])) table

theorem growItems_cons (part : Text) (item : Dict Value) (items : List (Dict Value))
    (table : Dict Value) :
    growItems part (item :: items) table =
      ((addItem part table).bind (changeAt true (grow item) [part])).bind (growItems part items) :=
  List.foldlM_cons

theorem changeAt_growItems_cons (part : Text) (item : Dict Value) (items : List (Dict Value))
    (key : List Text) (members : Dict Value) :
    changeAt true (growItems part (item :: items)) key members =
      ((changeAt true (addItem part) key members).bind
        (changeAt true (grow item) (key ++ [part]))).bind (changeAt true (growItems part items) key) := by
  rw [funext (changeAt_append true (grow item) key [part]), changeAt_bind, changeAt_bind,
    funext (growItems_cons part item items)]

-- The last table of a list is there once it has been added.
theorem changeAt_some_of_addItem (h : changeAt true (addItem part) key members = some changed) :
    changeAt true some (key ++ [part]) changed = some changed := by
  have hitem (table : Dict Value) :
      (addItem part table).bind (changeAt true some [part]) = addItem part table := by
    unfold addItem
    split <;> simp [changeAt, Dict.get?_insert, Dict.insert_insert]
  have hbind := changeAt_bind true (addItem part) (changeAt true some [part]) key members
  rwa [funext hitem, h, Option.bind_some, ← changeAt_append] at hbind

-- A list under a name. Without items there is none.
def listMember (part : Text) (items : List Value) : Dict Value :=
  if items = [] then [] else [(part, .list items)]

theorem growItem_listMember {item : Dict Value} (hpart : part ∉ table.keys)
    (hitem : grow item [] = some item) (items : List Value) :
    (addItem part (table ++ listMember part items)).bind (changeAt true (grow item) [part]) =
      some (table ++ listMember part (items ++ [.table item])) := by
  have hinsert (behind : Dict Value) (v : Value) :
      Dict.insert (table ++ behind) part v = table ++ behind.insert part v :=
    Dict.insert_append_of_notMem hpart behind v
  have hget (behind : Dict Value) : Dict.get? (table ++ behind) part = behind.get? part :=
    Dict.get?_append_of_notMem hpart behind
  have hadd : addItem part (table ++ listMember part items) =
      some (table ++ [(part, .list (items ++ [.table []]))]) := by
    rw [addItem, hget]
    cases items with
    | nil => exact congrArg some (hinsert [] _)
    | cons first items =>
      have hfound : Dict.get? (listMember part (first :: items)) part =
          some (.list (first :: items)) := by
        simp [listMember, Dict.get?_cons]
      rw [hfound]
      simp [hinsert, listMember, Dict.insert]
  have hfound : Dict.get? (table ++ [(part, Value.list (items ++ [.table []]))]) part =
      some (.list (items ++ [.table []])) := by
    rw [hget]
    simp [Dict.get?_cons]
  rw [hadd, Option.bind_some]
  simp [changeAt, hfound, hitem, hinsert, listMember, Dict.insert]

theorem growItems_listMember {items : List (Dict Value)} (hpart : part ∉ table.keys)
    (hitems : ∀ item ∈ items, grow item [] = some item) (done : List Value) :
    growItems part items (table ++ listMember part done) =
      some (table ++ listMember part (done ++ items.map .table)) := by
  induction items generalizing done with
  | nil =>
    rw [List.map_nil, List.append_nil]
    rfl
  | cons item items ih =>
    obtain ⟨hitem, hitems⟩ := List.forall_mem_cons.mp hitems
    rw [growItems_cons, growItem_listMember hpart hitem, Option.bind_some, ih hitems]
    simp

-- A list of tables that is new grows in its place.
theorem growItems_of_addMember {items : List (Dict Value)} (hne : items ≠ [])
    (hitems : ∀ item ∈ items, grow item [] = some item)
    (h : addMember part (.list (items.map .table)) table = some table') :
    growItems part items table = some table' := by
  obtain ⟨hpart, rfl⟩ := addMember_eq_some_iff.mp h
  have hgrown := growItems_listMember hpart hitems []
  simpa [listMember, hne] using hgrown

end CommandCompletion.Toml
