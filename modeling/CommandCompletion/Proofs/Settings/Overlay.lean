import CommandCompletion.Proofs.Settings.RoundTrip

namespace CommandCompletion

-- No two members of a table share a name, nor do those of the tables that stand in it.
inductive Value.IsOrderly : Value → Prop
  | table {members : List (Text × Value)} (distinct : Dict.Distinct members)
      (below : ∀ member ∈ members, IsOrderly member.2) : IsOrderly (.table members)
  | single {value : Value} (h : ∀ members, value ≠ .table members) : IsOrderly value

namespace Value

variable {value : Value} {members : List (Text × Value)} {name : Text}

theorem isOrderly_table_iff : (table members).IsOrderly ↔
    Dict.Distinct members ∧ ∀ member ∈ members, member.2.IsOrderly := by
  constructor
  · intro h
    cases h with
    | table distinct below => exact ⟨distinct, below⟩
    | single h => exact absurd rfl (h members)
  · rintro ⟨distinct, below⟩
    exact .table distinct below

theorem IsOrderly.get? (h : (Value.table members).IsOrderly)
    (hget : Dict.get? members name = some value) : value.IsOrderly :=
  (isOrderly_table_iff.mp h).2 _ (Dict.mem_of_get? hget)

theorem IsStorable.isOrderly (h : value.IsStorable) : value.IsOrderly := by
  induction h with
  | bool | int | text | list => exact .single nofun
  | table distinct _ ih => exact .table distinct ih

-- What stands at the end of a path of members.
def find? (v : Value) : List Text → Option Value
  | [] => some v
  | name :: path => (v.get? name).bind (·.find? path)

theorem find?_table_cons (members : List (Text × Value)) (name : Text) (path : List Text) :
    (table members).find? (name :: path) = (Dict.get? members name).bind (·.find? path) :=
  rfl

-- Only tables have anything below them.
theorem exists_table_of_find? {path : List Text} {found : Value}
    (h : value.find? (name :: path) = some found) : ∃ members, value = table members := by
  cases value with
  | table members => exact ⟨members, rfl⟩
  | _ => cases h

end Value

namespace Settings

open Value (IsOrderly)

variable {base laid : Dict Value} {old : Option Value} {value found : Value} {path : List Text}

theorem mergeValue_none (value : Value) : mergeValue none value = value := by
  cases value <;> rfl

-- Names that are new stand behind those that are there.
theorem keys_merge (base : Dict Value) (hlaid : laid.Distinct) :
    (merge base laid).keys = base.keys ++ laid.keys.filter (· ∉ base.keys) := by
  induction laid generalizing base with
  | nil =>
    rw [merge]
    exact (List.append_nil _).symm
  | cons head laid ih =>
    obtain ⟨name, value⟩ := head
    obtain ⟨hnew, hlaid⟩ := List.nodup_cons.mp hlaid
    have hkeys : Dict.keys ((name, value) :: laid) = name :: Dict.keys laid := rfl
    rw [merge, ih _ hlaid, Dict.keys_insert, hkeys]
    by_cases h : name ∈ base.keys
    · rw [if_pos h, List.filter_cons_of_neg (by simpa using h)]
    · have hothers : (Dict.keys laid).filter (· ∉ base.keys ++ [name]) =
          (Dict.keys laid).filter (· ∉ base.keys) := by
        refine List.filter_congr fun other hother => ?_
        have hne : other ≠ name := fun he => hnew (he ▸ hother)
        simp [hne]
      rw [if_neg h, List.filter_cons_of_pos (by simpa using h), hothers, List.append_assoc]
      rfl

theorem merge_nil (hlaid : laid.Distinct) : merge [] laid = laid := by
  refine Dict.ext_of_get? (distinct_merge Dict.distinct_nil laid) ?_ fun name => ?_
  · rw [keys_merge [] hlaid]
    exact List.filter_eq_self.mpr fun name _ => by simp [Dict.keys]
  · rw [get?_merge [] hlaid]
    cases laid.get? name <;> simp [Dict.get?, mergeValue_none]

-- The members of a table; everything else has none.
def membersOf : Option Value → Dict Value
  | some (.table members) => members
  | _ => []

theorem mergeValue_table (hlaid : laid.Distinct) (old : Option Value) :
    mergeValue old (.table laid) = .table (merge (membersOf old) laid) := by
  unfold mergeValue
  split
  · rfl
  · next h =>
    have hnone : membersOf old = [] := by
      unfold membersOf
      split
      · exact absurd rfl (h _)
      · rfl
    rw [hnone, merge_nil hlaid]

theorem distinct_membersOf (hold : ∀ value ∈ old, value.IsOrderly) : (membersOf old).Distinct := by
  unfold membersOf
  split
  · exact (Value.isOrderly_table_iff.mp (hold _ rfl)).1
  · exact Dict.distinct_nil

theorem isOrderly_of_membersOf (hold : ∀ value ∈ old, value.IsOrderly) {name : Text} :
    ∀ value ∈ (membersOf old).get? name, value.IsOrderly := by
  unfold membersOf
  split
  · exact fun value hvalue => (hold _ rfl).get? hvalue
  · exact nofun

-- Settings that change no value once they are laid over others do not change them again.
theorem merge_merge_right (hbase : base.Distinct) (hlaid : laid.Distinct)
    (h : ∀ name value, laid.get? name = some value →
      mergeValue (some (mergeValue (base.get? name) value)) value =
        mergeValue (base.get? name) value) :
    merge (merge base laid) laid = merge base laid := by
  refine Dict.ext_of_get? (distinct_merge (distinct_merge hbase laid) laid) ?_ fun name => ?_
  · rw [keys_merge _ hlaid, List.append_right_eq_self, List.filter_eq_nil_iff]
    intro name hname
    simp [mem_keys_merge hlaid, hname]
  · rw [get?_merge _ hlaid, get?_merge base hlaid]
    cases hvalue : laid.get? name with
    | none => rfl
    | some value => exact congrArg some (h name value hvalue)

-- What comes of laying settings over others has all that it was laid over.
theorem merge_merge_left (hbase : base.Distinct) (hlaid : laid.Distinct)
    (hself : ∀ name value, base.get? name = some value → mergeValue (some value) value = value)
    (h : ∀ name value, laid.get? name = some value →
      mergeValue (base.get? name) (mergeValue (base.get? name) value) =
        mergeValue (base.get? name) value) :
    merge base (merge base laid) = merge base laid := by
  have hmerged := distinct_merge hbase laid
  refine Dict.ext_of_get? (distinct_merge hbase _) ?_ fun name => ?_
  · have hnew : ∀ name ∈ laid.keys.filter (· ∉ base.keys), decide (name ∉ base.keys) = true :=
      fun name hname => (List.mem_filter.mp hname).2
    have hold : base.keys.filter (· ∉ base.keys) = [] :=
      List.filter_eq_nil_iff.mpr fun name hname => by simp [hname]
    rw [keys_merge _ hmerged, keys_merge _ hlaid, List.filter_append, hold,
      List.filter_eq_self.mpr hnew, List.nil_append]
  · rw [get?_merge _ hmerged, get?_merge base hlaid]
    cases hvalue : laid.get? name with
    | some value => exact congrArg some (h name value hvalue)
    | none =>
      cases hkept : base.get? name with
      | none => rfl
      | some value => exact congrArg some (hself name value hkept)

theorem mergeValue_mergeValue_right (h : value.IsOrderly) (hold : ∀ w ∈ old, w.IsOrderly) :
    mergeValue (some (mergeValue old value)) value = mergeValue old value := by
  induction h generalizing old with
  | single h => rw [mergeValue_of_ne_table h, mergeValue_of_ne_table h]
  | table distinct _ ih =>
    rw [mergeValue_table distinct, mergeValue_table distinct, membersOf]
    refine congrArg Value.table (merge_merge_right (distinct_membersOf hold) distinct ?_)
    exact fun name value hget => ih _ (Dict.mem_of_get? hget) (isOrderly_of_membersOf hold)

-- A table that is laid over itself stays as it is.
theorem mergeValue_self (h : value.IsOrderly) : mergeValue (some value) value = value := by
  have again : mergeValue (some (mergeValue none value)) value = mergeValue none value :=
    mergeValue_mergeValue_right h nofun
  rwa [mergeValue_none] at again

theorem mergeValue_mergeValue_left (h : value.IsOrderly) (hold : ∀ w ∈ old, w.IsOrderly) :
    mergeValue old (mergeValue old value) = mergeValue old value := by
  induction h generalizing old with
  | single h => rw [mergeValue_of_ne_table h, mergeValue_of_ne_table h]
  | table distinct _ ih =>
    rw [mergeValue_table distinct, mergeValue_table (distinct_merge (distinct_membersOf hold) _)]
    refine congrArg Value.table (merge_merge_left (distinct_membersOf hold) distinct ?_ ?_)
    · exact fun name value hget => mergeValue_self (isOrderly_of_membersOf hold value hget)
    · exact fun name value hget => ih _ (Dict.mem_of_get? hget) (isOrderly_of_membersOf hold)

-- What is laid over other settings is found where it was laid.
theorem find?_mergeValue (h : value.IsOrderly) (hfound : value.find? path = some found)
    (single : ∀ members, found ≠ .table members) (old : Option Value) :
    (mergeValue old value).find? path = some found := by
  induction path generalizing value old with
  | nil =>
    obtain rfl := Option.some.inj hfound
    rw [mergeValue_of_ne_table single]
    rfl
  | cons name path ih =>
    obtain ⟨laid, rfl⟩ := Value.exists_table_of_find? hfound
    rw [Value.find?_table_cons] at hfound
    obtain ⟨next, hnext, hfound⟩ := Option.bind_eq_some_iff.mp hfound
    have hlaid := (Value.isOrderly_table_iff.mp h).1
    rw [mergeValue_table hlaid, Value.find?_table_cons, get?_merge _ hlaid, hnext]
    exact ih (h.get? hnext) hfound _

-- What is not covered is found where it was: on the way to it other settings have tables, if they
-- have anything, and at its place they have nothing.
theorem find?_mergeValue_of_old {old : Value} (h : value.IsOrderly)
    (hfound : old.find? path = some found)
    (way : ∀ front other, front <+: path → value.find? front = some other →
      ∃ members, other = .table members)
    (place : ∀ members, value.find? path ≠ some (.table members)) :
    (mergeValue (some old) value).find? path = some found := by
  induction path generalizing value old with
  | nil =>
    obtain ⟨laid, rfl⟩ := way [] value List.nil_prefix rfl
    exact absurd rfl (place laid)
  | cons name path ih =>
    obtain ⟨base, rfl⟩ := Value.exists_table_of_find? hfound
    obtain ⟨laid, rfl⟩ := way [] value List.nil_prefix rfl
    have hlaid := (Value.isOrderly_table_iff.mp h).1
    rw [Value.find?_table_cons] at hfound
    obtain ⟨kept, hkept, hfound⟩ := Option.bind_eq_some_iff.mp hfound
    rw [mergeValue_table hlaid, membersOf, Value.find?_table_cons, get?_merge _ hlaid, hkept]
    cases hnext : Dict.get? laid name with
    | none => exact hfound
    | some next =>
      have hstep (front : List Text) :
          (Value.table laid).find? (name :: front) = next.find? front := by
        rw [Value.find?_table_cons, hnext, Option.bind_some]
      refine ih (h.get? hnext) hfound (fun front other hfront hother => ?_) fun members => ?_
      · exact way (name :: front) other (List.cons_prefix_cons.mpr ⟨rfl, hfront⟩)
          (hstep front ▸ hother)
      · exact hstep path ▸ place members

-- The laws of laying settings over others. To do it twice is to do it once, and what comes of it,
-- laid over the same settings, is what it was. All that is laid and no table is found in its place;
-- what was there before is kept, unless something that is no table is laid on the way to it or in
-- its place, or a table in its place.
theorem merge_laws (hbase : (Value.table base).IsOrderly) (hlaid : (Value.table laid).IsOrderly) :
    merge (merge base laid) laid = merge base laid ∧
      merge base (merge base laid) = merge base laid ∧
      (∀ path value, (Value.table laid).find? path = some value →
        (∀ members, value ≠ .table members) →
          (Value.table (merge base laid)).find? path = some value) ∧
      ∀ path value, (Value.table base).find? path = some value →
        (∀ front other, front <+: path → (Value.table laid).find? front = some other →
          ∃ members, other = .table members) →
        (∀ members, (Value.table laid).find? path ≠ some (.table members)) →
          (Value.table (merge base laid)).find? path = some value := by
  have hold : ∀ value ∈ some (Value.table base), value.IsOrderly := by
    rintro _ ⟨⟩
    exact hbase
  have merged : mergeValue (some (.table base)) (.table laid) = .table (merge base laid) := by
    rw [mergeValue]
  refine ⟨?_, ?_, fun path value hfound single => ?_, fun path value hfound way place => ?_⟩
  · have again := mergeValue_mergeValue_right hlaid hold
    rw [merged, mergeValue] at again
    exact Value.table.inj again
  · have again := mergeValue_mergeValue_left hlaid hold
    rw [merged, mergeValue] at again
    exact Value.table.inj again
  · rw [← merged]
    exact find?_mergeValue hlaid hfound single _
  · rw [← merged]
    exact find?_mergeValue_of_old hlaid hfound way place

-- Settings in which tables and single values take each other's place.
def mixedBase : Dict Value :=
  [("data", .table [("path", .text "a"), ("kept", .int 1)]), ("mode", .text "x"),
    ("outer", .table [("inner", .table [("n", .int 1)])])]

def mixedOverlay : Dict Value :=
  [("mode", .table [("a", .bool true)]), ("new", .int 2), ("data", .table [("path", .table [])]),
    ("outer", .table [("inner", .text "flat")])]

theorem merge_laws_sample :
    let merged := merge mixedBase mixedOverlay
    merge merged mixedOverlay = merged ∧ merge mixedBase merged = merged ∧
      (Value.table merged).find? ["outer", "inner"] = some (.text "flat") ∧
      (Value.table merged).find? ["data", "kept"] = some (.int 1) := by
  have orderly : (Value.table mixedBase).IsOrderly ∧ (Value.table mixedOverlay).IsOrderly := by
    constructor <;> apply Value.IsStorable.isOrderly <;> simp [mixedBase, mixedOverlay] <;> decide
  have missing : (Value.table mixedOverlay).find? ["data", "kept"] = none := by decide
  obtain ⟨again, absorbed, laid, kept⟩ := merge_laws orderly.1 orderly.2
  refine ⟨again, absorbed, laid _ _ (by decide) ?_, kept _ _ (by decide) ?_ ?_⟩
  · rintro members ⟨⟩
  · intro front other hfront hother
    have hinits := List.mem_inits _ _ |>.mpr hfront
    simp only [List.inits, List.map_cons, List.map_nil, List.mem_cons, List.not_mem_nil,
      or_false] at hinits
    rcases hinits with rfl | rfl | rfl <;> cases hother
    · exact ⟨_, rfl⟩
    · exact ⟨_, rfl⟩
  · intro members hfound
    cases missing.symm.trans hfound

end Settings

end CommandCompletion
