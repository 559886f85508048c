import CommandCompletion.Proofs.Settings.Holding
import CommandCompletion.Proofs.Toml.Arranged

namespace CommandCompletion.Settings

open Value (IsStorable alike alike_table_iff)

variable {base laid other : Dict Value} {name : Text} {value : Value}

-- Settings that are alike come to settings that are alike when they are laid over the same ones,
-- if the values under each name do.
theorem alike_merge (hbase : IsStorable (.table base)) (hlaid : laid.Distinct)
    (hother : other.Distinct) (halike : alike (.table laid) (.table other))
    (hvalues : ∀ name a b, laid.get? name = some a → other.get? name = some b → alike a b →
      alike (mergeValue (base.get? name) a) (mergeValue (base.get? name) b)) :
    alike (.table (merge base laid)) (.table (merge base other)) := by
  cases hbase with
  | table hdistinct hbase =>
    obtain ⟨hperm, hmembers⟩ := (alike_table_iff hlaid).mp halike
    refine (alike_table_iff (distinct_merge hdistinct laid)).mpr ⟨?_, fun name value hget => ?_⟩
    · refine (List.perm_ext_iff_of_nodup (distinct_merge hdistinct laid)
        (distinct_merge hdistinct other)).mpr fun name => ?_
      rw [mem_keys_merge hlaid, mem_keys_merge hother, hperm.mem_iff]
    · rw [get?_merge base hlaid] at hget
      rw [get?_merge base hother]
      cases hfound : laid.get? name with
      | some a =>
        obtain ⟨b, hb, hab⟩ := hmembers name a hfound
        rw [hfound] at hget
        cases hget
        exact ⟨_, by rw [hb], hvalues name a b hfound hb hab⟩
      | none =>
        rw [hfound] at hget
        have hnone : other.get? name = none := by
          rw [Dict.get?_eq_none_iff, ← hperm.mem_iff, ← Dict.get?_eq_none_iff, hfound]
        rw [hnone]
        exact ⟨value, hget, (hbase _ (Dict.mem_of_get? hget)).alike_self⟩

theorem alike_mergeValue {a b : Value} (storable : b.IsStorable) (halike : alike a b)
    {old : Option Value} (hold : ∀ value ∈ old, value.IsStorable) :
    alike (mergeValue old a) (mergeValue old b) := by
  induction storable generalizing a old with
  | bool | int | text | list =>
    rw [mergeValue_of_ne_table (Value.ne_table_of_alike halike (by nofun)),
      mergeValue_of_ne_table (by nofun)]
    exact halike
  | @table other hother _ ih =>
    obtain ⟨laid, rfl⟩ := Value.exists_table_of_alike halike
    unfold mergeValue
    split
    · next base =>
      refine alike_merge (hold _ rfl) (Value.distinct_of_alike halike hother) hother halike
        fun name a b _ hget hab => ih _ (Dict.mem_of_get? hget) hab fun value hvalue => ?_
      exact (Value.isStorable_table_iff.mp (hold _ rfl)).2 _ (Dict.mem_of_get? hvalue)
    · exact halike

variable {s s' : Store} {config : Dict Value}

-- A save that comes to its end leaves the settings file with all that was printed.
theorem exists_holds_of_save (saved : save s config = (.ok (), s')) :
    (Toml.print config).fault = none ∧ ∃ path, Holds s' path (printed config) := by
  obtain ⟨path, s₁, hpath, -⟩ := Outcome.andThen_eq_ok_iff.mp saved
  rw [save_of_configPath hpath] at saved
  split at saved
  · cases saved
  · next s₂ hwrite =>
    obtain ⟨hprinting, rfl⟩ := Prod.mk.inj saved
    obtain ⟨position, hlocate, hentry, -, rfl⟩ := Store.write_eq_ok_iff.mp hwrite
    obtain ⟨dir, -, -, hdir⟩ := configPath_eq_ok_iff.mp hpath
    have hlocate' : s₁.locate (dir.join "config.toml") = .ok position := hdir ▸ hlocate
    obtain ⟨-, hproper⟩ := Store.entry?_above_of_locate_join (by decide) hlocate'
    have stay := foldersStay_put hentry (printed config)
    have hagain : configPath (s₁.put position (.file (printed config))) = (.ok path, _) :=
      configPath_again hpath hlocate rfl stay
    obtain ⟨dir', hexpand, -, hjoin⟩ := configPath_eq_ok_iff.mp hagain
    refine ⟨?_, path, dir', hexpand, hjoin, ?_⟩
    · unfold printing at hprinting
      split at hprinting
      · cases hprinting
      · assumption
    · rw [Store.find, stay.locate hlocate]
      simp [bind, Except.bind, Store.entry?_put, hproper]

theorem isStorable_defaults : (Value.table defaults).IsStorable := by
  simp [defaults]
  decide

theorem loaded_printed (storable : (Value.table config).IsStorable)
    (hfault : (Toml.print config).fault = none) :
    loaded (printed config) = .ok (merge defaults (Toml.arranged config)) := by
  have hread := Toml.read_print storable hfault
  rw [loaded, parse, printed, String.fromUTF8?_toUTF8]
  simp only [String.toList_ofList, hread]
  rfl

-- Settings that were saved are loaded again, laid over the built-in ones, but for the order in which
-- the members of tables stand.
theorem load_of_save (storable : (Value.table config).IsStorable)
    (saved : save s config = (.ok (), s')) :
    ∃ settings, load s' = (.ok settings, s') ∧
      alike (.table settings) (.table (merge defaults config)) := by
  obtain ⟨hfault, path, holds⟩ := exists_holds_of_save saved
  refine ⟨_, holds.load.trans (by rw [loaded_printed storable hfault]), ?_⟩
  have halike := Toml.alike_arranged storable (Toml.isOwn_table config)
  have hmerge : alike (mergeValue (some (.table defaults)) (.table (Toml.arranged config)))
      (mergeValue (some (.table defaults)) (.table config)) :=
    alike_mergeValue storable halike (by rintro _ ⟨⟩; exact isStorable_defaults)
  simpa only [mergeValue] using hmerge

-- An empty name and one with a dot and a quote, lists in a list, an empty table, a table with no
-- members but another table, and a plain member behind tables.
def mixedSettings : Dict Value :=
  [("", .int (-5)),
    ("logging", .table [("level", .text "a \"b\"\n"), ("in\".side", .table [])]),
    ("outer", .table [("inner", .table [("lists", .list [.list [.int 1, .bool true], .list []])])]),
    ("last", .bool false)]

theorem printing_mixedSettings : printing mixedSettings = .ok () := by
  decide +kernel

theorem save_eq_ok_of_holds {path : FilePath} {bytes : ByteArray} (holds : Holds s path bytes)
    (h : printing config = .ok ()) : save s config = (.ok (), (save s config).2) := by
  rw [← h, ← holds.save config]

theorem load_of_save_sample :
    let saved := (save quietStore mixedSettings).2
    save quietStore mixedSettings = (.ok (), saved) ∧
      ∃ settings, load saved = (.ok settings, saved) ∧
        alike (.table settings) (.table (merge defaults mixedSettings)) := by
  have storable : (Value.table mixedSettings).IsStorable := by
    simp [mixedSettings]
    decide
  have holds : Holds quietStore ⟨"", ["config", "config.toml"]⟩
      "[logging]\nlevel = \"ERROR\"\n".toUTF8 :=
    ⟨⟨"", ["config"]⟩, by decide, by decide, by decide⟩
  have hsave := save_eq_ok_of_holds holds printing_mixedSettings
  exact ⟨hsave, load_of_save storable hsave⟩

end CommandCompletion.Settings
