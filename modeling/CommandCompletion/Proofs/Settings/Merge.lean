import CommandCompletion.Proofs.Data.Dict
import CommandCompletion.Proofs.Toml.Cut
import CommandCompletion.Settings.Merge

namespace CommandCompletion.Settings

open Toml (Sections tables keys_tables)

variable {base laid : Dict Value} {name : Text} {value : Value}

theorem mergeValue_of_ne_table (h : ∀ members, value ≠ .table members) (old : Option Value) :
    mergeValue old value = value := by
  cases value with
  | table members => exact absurd rfl (h members)
  | _ => rw [mergeValue]; simp

theorem distinct_merge (hbase : base.Distinct) (laid : Dict Value) : (merge base laid).Distinct := by
  induction laid generalizing base with
  | nil => rwa [merge]
  | cons member laid ih =>
    rw [merge]
    exact ih (Dict.distinct_insert hbase _ _)

theorem get?_merge (base : Dict Value) (hlaid : laid.Distinct) (name : Text) :
    (merge base laid).get? name =
      match laid.get? name with
      | some value => some (mergeValue (base.get? name) value)
      | none => base.get? name := by
  induction laid generalizing base with
  | nil => rw [merge]; rfl
  | cons member laid ih =>
    obtain ⟨first, value⟩ := member
    obtain ⟨hnew, hlaid⟩ := List.nodup_cons.mp hlaid
    rw [merge, ih _ hlaid, Dict.get?_cons]
    by_cases h : name = first
    · subst h
      have hnone : Dict.get? laid name = none := Dict.get?_eq_none_iff.mpr hnew
      simp [hnone, Dict.get?_insert]
    · simp [h, Dict.get?_insert]

theorem mem_keys_merge (hlaid : laid.Distinct) :
    name ∈ (merge base laid).keys ↔ name ∈ base.keys ∨ name ∈ laid.keys := by
  rw [← not_iff_not, not_or, ← Dict.get?_eq_none_iff, ← Dict.get?_eq_none_iff,
    ← Dict.get?_eq_none_iff, get?_merge base hlaid]
  cases laid.get? name <;> simp

theorem mergeValue_of_isSimple (simple : value.isSimple) (old : Option Value) :
    mergeValue old value = value := by
  cases value <;> first | rfl | cases simple

-- Settings that have no names of their own change values and nothing else. By induction on them:
-- each is put where its name stands.
theorem merge_eq_map (hbase : base.Distinct) (hlaid : laid.Distinct)
    (h : ∀ name ∈ laid.keys, name ∈ base.keys) :
    merge base laid = base.map fun pair =>
      (pair.1, (laid.get? pair.1).elim pair.2 (mergeValue (some pair.2))) := by
  induction laid generalizing base with
  | nil =>
    rw [merge]
    exact (List.map_id' base).symm
  | cons head laid ih =>
    obtain ⟨name, value⟩ := head
    obtain ⟨hnew, hlaid⟩ := List.nodup_cons.mp hlaid
    have hname : name ∈ base.keys := h name List.mem_cons_self
    have hrest (other : Text) (hother : other ∈ Dict.keys laid) : other ∈ base.keys :=
      h other (List.mem_cons_of_mem _ hother)
    have hkeys : Dict.keys (base.map fun pair =>
        (pair.1, if pair.1 = name then mergeValue (base.get? name) value else pair.2)) =
        base.keys :=
      Dict.keys_map_snd base _
    rw [merge, Dict.insert_of_mem hbase hname, ih ?_ hlaid ?_, List.map_map]
    · refine List.map_congr_left fun pair hpair => ?_
      rw [Function.comp_apply, Dict.get?_cons]
      by_cases he : pair.1 = name
      · subst he
        have hnone : Dict.get? laid pair.1 = none := Dict.get?_eq_none_iff.mpr hnew
        simp [hnone, Dict.get?_of_mem hbase hpair]
      · simp [he]
    · rwa [Dict.Distinct, hkeys]
    · rwa [hkeys]

theorem get?_tables (parts : Sections) (part : Text) :
    Dict.get? (tables parts) part = (Dict.get? parts part).map .table := by
  induction parts with
  | nil => rfl
  | cons head parts ih =>
    obtain ⟨first, members⟩ := head
    rw [show tables ((first, members) :: parts) = (first, .table members) :: tables parts from rfl,
      Dict.get?_cons, Dict.get?_cons, ih]
    split <;> rfl

-- What sections hold under a name.
def held (parts : Sections) (part name : Text) : Option Value :=
  Dict.get? ((Dict.get? parts part).getD []) name

-- Sections that are there in others, with names that are there.
def Within (parts others : Sections) : Prop :=
  ∀ part ∈ parts, ∃ members, (part.1, members) ∈ others ∧
    ∀ name ∈ Dict.keys part.2, name ∈ Dict.keys members

-- Sections that are laid over others and have no names of their own replace what they hold.
theorem merge_tables {base laid : Sections} (hbase : (base.map Prod.fst).Nodup)
    (hmembers : ∀ part ∈ base, part.2.Distinct) (hlaid : (laid.map Prod.fst).Nodup)
    (hothers : ∀ part ∈ laid, part.2.Distinct ∧ ∀ member ∈ part.2, member.2.isSimple)
    (within : Within laid base) :
    merge (tables base) (tables laid) = tables (base.map fun part =>
      (part.1, part.2.map fun member =>
        (member.1, (held laid part.1 member.1).getD member.2))) := by
  have hnames : ∀ name ∈ Dict.keys (tables laid), name ∈ Dict.keys (tables base) := by
    rw [keys_tables, keys_tables]
    rintro name hname
    obtain ⟨part, hpart, rfl⟩ := List.mem_map.mp hname
    obtain ⟨members, hmem, -⟩ := within part hpart
    exact List.mem_map.mpr ⟨_, hmem, rfl⟩
  rw [merge_eq_map (by rwa [Dict.Distinct, keys_tables]) (by rwa [Dict.Distinct, keys_tables])
    hnames]
  unfold tables
  rw [List.map_map, List.map_map]
  refine List.map_congr_left fun part hpart => ?_
  obtain ⟨part, members⟩ := part
  simp only [Function.comp_apply, held]
  rw [← tables, get?_tables]
  cases hfound : Dict.get? laid part with
  | none => simp [Dict.get?]
  | some others =>
    have hmem := Dict.mem_of_get? hfound
    obtain ⟨hdistinct, hsimple⟩ := hothers _ hmem
    obtain ⟨old, hold, hsub⟩ := within _ hmem
    have hsame : old = members :=
      Option.some.inj ((Dict.get?_of_mem hbase hold).symm.trans (Dict.get?_of_mem hbase hpart))
    subst hsame
    have hmerge := merge_eq_map (hmembers _ hpart) hdistinct hsub
    simp only [Option.map_some, Option.elim_some, Option.getD_some, mergeValue, hmerge]
    congr 2
    refine List.map_congr_left fun member hmember => ?_
    cases hvalue : Dict.get? others member.1 with
    | none => rfl
    | some value =>
      have simple : value.isSimple := hsimple _ (Dict.mem_of_get? hvalue)
      simp [mergeValue_of_isSimple simple]

end CommandCompletion.Settings
