import CommandCompletion.Proofs.Settings.Merge
import CommandCompletion.Settings.Config

namespace CommandCompletion.Settings

open Toml (Sections tables entries cut)

-- A setting is addressed by its section and its name.
abbrev Setting := Text × Text

instance : LawfulBEq Setting := Prod.instLawfulBEq

-- The sections of the built-in settings.
def builtIn : Sections :=
  defaults.filterMap fun (part, value) =>
    match value with
    | .table members => some (part, members)
    | _ => none

def settings : List Setting :=
  (entries builtIn).map Prod.fst

def builtInValue (setting : Setting) : Value :=
  ((entries builtIn).lookup setting).getD .null

-- The built-in settings with other values.
def filledSections (value : Setting → Value) : Sections :=
  builtIn.map fun part => (part.1, part.2.map fun member => (member.1, value (part.1, member.1)))

def filled (value : Setting → Value) : Dict Value :=
  tables (filledSections value)

theorem tables_builtIn : tables builtIn = defaults :=
  rfl

theorem nodup_builtIn : (builtIn.map Prod.fst).Nodup := by
  decide

theorem distinct_of_mem_builtIn : ∀ part ∈ builtIn, part.2.Distinct := by
  unfold Dict.Distinct Dict.keys
  decide

theorem lookup_entries_one (members : Dict Value) (first part name : Text) :
    (members.map fun member => ((first, member.1), member.2)).lookup (part, name) =
      if part = first then Dict.get? members name else none := by
  induction members with
  | nil => simp [Dict.get?]
  | cons member members ih =>
    obtain ⟨key, value⟩ := member
    rw [List.map_cons, List.lookup_cons, ih, Dict.get?_cons]
    by_cases h : (part, name) = (first, key)
    · cases h
      simp
    · rw [beq_false_of_ne h]
      by_cases hpart : part = first
      · subst hpart
        have hname : name ≠ key := fun he => h (he ▸ rfl)
        simp [hname]
      · simp [hpart]

theorem held_eq_lookup {parts : Sections} (distinct : (parts.map Prod.fst).Nodup)
    (part name : Text) : held parts part name = (entries parts).lookup (part, name) := by
  induction parts with
  | nil => rfl
  | cons head parts ih =>
    obtain ⟨first, members⟩ := head
    obtain ⟨hnew, distinct⟩ := List.nodup_cons.mp distinct
    rw [held, Dict.get?_cons, Toml.entries_cons, List.lookup_append, lookup_entries_one,
      ← ih distinct, held]
    split
    · next he =>
      subst he
      have hnone : Dict.get? parts part = none := Dict.get?_eq_none_iff.mpr hnew
      have hheld : Dict.get? ((Dict.get? parts part).getD []) name = none := by
        rw [hnone]
        rfl
      rw [hheld, Option.or_none]
      rfl
    · rfl

-- The built-in value of a key is that of the setting it addresses.
theorem default?_eq (key : Text) : default? key = (entries builtIn).lookup (splitKey key) := by
  generalize hkey : splitKey key = setting
  obtain ⟨part, name⟩ := setting
  have hnames : ∀ other ∈ builtIn, ("" : Text) ∉ Dict.keys other.2 := by
    unfold Dict.keys
    decide
  have hnamed : held builtIn part "" = none := by
    unfold held
    cases hfound : Dict.get? builtIn part with
    | none => rfl
    | some members => exact Dict.get?_eq_none_iff.mpr (hnames _ (Dict.mem_of_get? hfound))
  rw [default?, hkey, ← held_eq_lookup nodup_builtIn, ← tables_builtIn]
  dsimp only
  split
  · next hname => rw [hname, hnamed]
  · rw [get?_tables, held]
    cases Dict.get? builtIn part <;> rfl

theorem entries_filledSections (value : Setting → Value) :
    entries (filledSections value) = settings.map fun setting => (setting, value setting) := by
  simp [entries, filledSections, settings, List.flatMap_map, List.map_flatMap, Function.comp_def]

theorem keys_filledSections (value : Setting → Value) :
    (filledSections value).map Prod.fst = builtIn.map Prod.fst := by
  simp [filledSections, Function.comp_def]

-- Every setting of the file up to the first text with a half in it.
def survivors (value : Setting → Value) : List Setting :=
  settings.takeWhile fun setting => (value setting).isWhole

theorem entries_cut_filledSections (value : Setting → Value) :
    entries (cut (filledSections value)) =
      (survivors value).map fun setting => (setting, value setting) := by
  rw [Toml.entries_cut, entries_filledSections, List.takeWhile_map]
  rfl

theorem lookup_map_self (list : List Setting) (value : Setting → Value) (setting : Setting) :
    (list.map fun setting => (setting, value setting)).lookup setting =
      if setting ∈ list then some (value setting) else none := by
  induction list with
  | nil => rfl
  | cons head list ih =>
    rw [List.map_cons, List.lookup_cons, ih]
    by_cases h : setting = head
    · simp [h]
    · simp [h, beq_false_of_ne h]

-- What is left of settings that were printed and read back.
def kept (value : Setting → Value) (setting : Setting) : Value :=
  if setting ∈ survivors value then value setting else builtInValue setting

theorem exists_mem_of_mem_filledSections {value : Setting → Value} {part : Text × Dict Value}
    (h : part ∈ filledSections value) : ∃ old, (part.1, old) ∈ builtIn ∧
      part.2 = old.map fun member => (member.1, value (part.1, member.1)) := by
  obtain ⟨⟨name, old⟩, hold, rfl⟩ := List.mem_map.mp h
  exact ⟨old, hold, rfl⟩

theorem mem_settings_of_mem {part : Text} {members : Dict Value} {member : Text × Value}
    (hpart : (part, members) ∈ builtIn) (hmember : member ∈ members) :
    (part, member.1) ∈ settings := by
  refine List.mem_map.mpr ⟨((part, member.1), member.2), ?_, rfl⟩
  exact List.mem_flatMap.mpr ⟨(part, members), hpart, List.mem_map_of_mem hmember⟩

theorem builtInValue_of_mem {part : Text} {members : Dict Value} {member : Text × Value}
    (hpart : (part, members) ∈ builtIn) (hmember : member ∈ members) :
    builtInValue (part, member.1) = member.2 := by
  have hmembers : Dict.get? builtIn part = some members := Dict.get?_of_mem nodup_builtIn hpart
  have hvalue : Dict.get? members member.1 = some member.2 :=
    Dict.get?_of_mem (distinct_of_mem_builtIn _ hpart) hmember
  rw [builtInValue, ← held_eq_lookup nodup_builtIn, held, hmembers, Option.getD_some, hvalue]
  rfl

variable {value : Setting → Value}

theorem simpleSections_filledSections (simple : ∀ setting ∈ settings, (value setting).isSimple) :
    Toml.SimpleSections (filledSections value) := by
  have hnames : ∀ part ∈ builtIn, part.1.hasHalf = false ∧
      ∀ member ∈ part.2, member.1.hasHalf = false := by decide
  intro part hpart
  obtain ⟨old, hold, hmap⟩ := exists_mem_of_mem_filledSections hpart
  obtain ⟨hpartName, hmemberNames⟩ := hnames _ hold
  refine ⟨hpartName, fun member hmember => ?_, ?_⟩
  · rw [hmap] at hmember
    obtain ⟨first, hfirst, rfl⟩ := List.mem_map.mp hmember
    exact ⟨hmemberNames first hfirst, simple _ (mem_settings_of_mem hold hfirst)⟩
  · rw [hmap, Dict.Distinct, Dict.keys_map_snd]
    exact distinct_of_mem_builtIn _ hold

theorem within_cut (value : Setting → Value) : Within (cut (filledSections value)) builtIn := by
  intro part hpart
  obtain ⟨members, hmembers, hsub⟩ := Toml.exists_mem_of_mem_cut hpart
  obtain ⟨old, hold, hmap⟩ := exists_mem_of_mem_filledSections hmembers
  refine ⟨old, hold, fun name hname => ?_⟩
  have hkeys : name ∈ Dict.keys members := (hsub.map Prod.fst).mem hname
  have hmap : members = old.map fun member => (member.1, value (part.1, member.1)) := hmap
  rwa [hmap, Dict.keys_map_snd] at hkeys

-- Printed settings that are read back and laid over the built-in ones give all settings again.
theorem merge_cut (simple : ∀ setting ∈ settings, (value setting).isSimple) :
    merge defaults (tables (cut (filledSections value))) = filled (kept value) := by
  have hover : ((cut (filledSections value)).map Prod.fst).Nodup :=
    (keys_filledSections value ▸ nodup_builtIn).sublist (Toml.keys_cut_sublist _)
  have hothers : ∀ part ∈ cut (filledSections value), part.2.Distinct ∧
      ∀ member ∈ part.2, member.2.isSimple := by
    intro part hpart
    obtain ⟨members, hmembers, hsub⟩ := Toml.exists_mem_of_mem_cut hpart
    obtain ⟨-, hsimple, hdistinct⟩ := simpleSections_filledSections simple _ hmembers
    exact ⟨hdistinct.sublist (hsub.map _), fun member hmember =>
      (hsimple member (hsub.mem hmember)).2⟩
  rw [← tables_builtIn, merge_tables nodup_builtIn distinct_of_mem_builtIn hover hothers
    (within_cut value), filled]
  congr 1
  refine (List.map_congr_left fun part hpart => ?_ : _ = builtIn.map _)
  congr 1
  refine List.map_congr_left fun member hmember => ?_
  rw [held_eq_lookup hover, entries_cut_filledSections, lookup_map_self, kept,
    builtInValue_of_mem hpart hmember]
  split <;> rfl

theorem filled_congr {other : Setting → Value}
    (h : ∀ setting ∈ settings, value setting = other setting) :
    filled value = filled other := by
  unfold filled filledSections
  congr 1
  refine List.map_congr_left fun part hpart => ?_
  congr 1
  refine List.map_congr_left fun member hmember => ?_
  rw [h _ (mem_settings_of_mem hpart hmember)]

theorem filled_builtInValue : filled builtInValue = defaults :=
  rfl

theorem distinct_filled (value : Setting → Value) : (filled value).Distinct := by
  rw [Dict.Distinct, filled, Toml.keys_tables, keys_filledSections]
  exact nodup_builtIn

theorem get?_filled {part : Text} {members : Dict Value} (hpart : (part, members) ∈ builtIn) :
    (filled value).get? part =
      some (.table (members.map fun member => (member.1, value (part, member.1)))) :=
  Dict.get?_of_mem (distinct_filled value)
    (List.mem_map.mpr ⟨_, List.mem_map.mpr ⟨_, hpart, rfl⟩, rfl⟩)

-- Putting one setting into its section leaves all others as they are.
theorem updateSections_filled {setting : Setting} (h : setting ∈ settings) (new : Value) :
    updateSections (filled value) [(setting.1, .table [(setting.2, new)])] =
      .ok (filled (Function.update value setting new)) := by
  obtain ⟨entry, hentry, rfl⟩ := List.mem_map.mp h
  obtain ⟨⟨part, members⟩, hpart, hmembers⟩ := List.mem_flatMap.mp hentry
  obtain ⟨member, hmember, rfl⟩ := List.mem_map.mp hmembers
  let old := members.map fun member => (member.1, value (part, member.1))
  have hold : Dict.Distinct old := by
    rw [Dict.Distinct, Dict.keys_map_snd]
    exact distinct_of_mem_builtIn _ hpart
  have hname : member.1 ∈ Dict.keys old := by
    rw [Dict.keys_map_snd]
    exact List.mem_map_of_mem hmember
  have hinner : Dict.insertAll old [(member.1, new)] =
      members.map fun other =>
        (other.1, Function.update value (part, member.1) new (part, other.1)) := by
    rw [show Dict.insertAll old [(member.1, new)] = Dict.insert old member.1 new from rfl,
      Dict.insert_of_mem hold hname, List.map_map]
    refine List.map_congr_left fun other _ => ?_
    by_cases he : other.1 = member.1 <;> simp [he]
  have hpartName : part ∈ Dict.keys (filled value) := by
    rw [filled, Toml.keys_tables, keys_filledSections]
    exact List.mem_map_of_mem hpart
  rw [updateSections, updateSection, get?_filled hpart]
  simp only [Option.getD_some, updateSections]
  rw [hinner, Dict.insert_of_mem (distinct_filled value) hpartName]
  simp only [filled, tables, filledSections, List.map_map]
  congr 1
  refine List.map_congr_left fun other hother => ?_
  obtain ⟨first, others⟩ := other
  simp only [Function.comp_apply]
  by_cases he : first = part
  · subst he
    have hsame : others = members := Option.some.inj
      ((Dict.get?_of_mem nodup_builtIn hother).symm.trans (Dict.get?_of_mem nodup_builtIn hpart))
    simp [hsame]
  · simp [he]

theorem survivors_of_whole (whole : ∀ setting ∈ settings, (value setting).isWhole) :
    survivors value = settings :=
  List.takeWhile_eq_self_iff.mpr whole

theorem kept_of_whole (whole : ∀ setting ∈ settings, (value setting).isWhole) {setting : Setting}
    (h : setting ∈ settings) : kept value setting = value setting := by
  rw [kept, survivors_of_whole whole, if_pos h]

-- The settings that stand in the file before another one.
def before (setting : Setting) : List Setting :=
  settings.takeWhile (· ≠ setting)

theorem takeWhile_congr {list : List Setting} {p q : Setting → Bool}
    (h : ∀ setting ∈ list, p setting = q setting) : list.takeWhile p = list.takeWhile q := by
  induction list with
  | nil => rfl
  | cons head list ih =>
    obtain ⟨hhead, hlist⟩ := List.forall_mem_cons.mp h
    rw [List.takeWhile_cons, List.takeWhile_cons, hhead, ih hlist]

theorem survivors_update {setting : Setting} {new : Value}
    (whole : ∀ setting ∈ settings, (value setting).isWhole) (broken : new.isWhole = false) :
    survivors (Function.update value setting new) = before setting := by
  refine takeWhile_congr fun other hother => ?_
  by_cases he : other = setting
  · simp [he, broken]
  · simp [he, whole other hother]

theorem print_filled (simple : ∀ setting ∈ settings, (value setting).isSimple) :
    (Toml.print (filled value)).fault =
        (if settings.all fun setting => (value setting).isWhole then none else some .halfText) ∧
      Toml.read (Toml.print (filled value)).text = .ok (tables (cut (filledSections value))) := by
  have hnodup : ((filledSections value).map Prod.fst).Nodup :=
    keys_filledSections value ▸ nodup_builtIn
  have hall : (filledSections value).all (Toml.allWhole ·.2) =
      settings.all fun setting => (value setting).isWhole := by
    rw [← Toml.all_entries, entries_filledSections, List.all_map]
    rfl
  have hread := Toml.read_print_cut (simpleSections_filledSections simple) hnodup
  rwa [hall] at hread

end CommandCompletion.Settings
