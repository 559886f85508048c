import CommandCompletion.Proofs.Settings.Run

namespace CommandCompletion.Settings

variable {s : Store} {path : FilePath} {bytes : ByteArray} {key raw : Text}

-- The settings file is there and holds these bytes.
def Holds (s : Store) (path : FilePath) (bytes : ByteArray) : Prop :=
  ∃ dir, (FilePath.ofString (folderName s)).expandHome s.home? = some dir ∧
    dir.join "config.toml" = path ∧ s.find path = .ok (.file bytes)

-- The settings that a file's bytes stand for.
def loaded (bytes : ByteArray) : Except Fault (Dict Value) :=
  (parse bytes).map (merge defaults)

theorem Holds.exists_position (holds : Holds s path bytes) :
    ∃ position, s.locate path = .ok position ∧ s.entry? position = some (.file bytes) := by
  obtain ⟨dir, -, -, hfind⟩ := holds
  obtain ⟨position, hlocate, hentry⟩ := bind_eq_ok_iff.mp hfind
  refine ⟨position, hlocate, ?_⟩
  split at hentry
  · cases hentry
  · next entry hsome =>
    cases hentry
    exact hsome

theorem Holds.configPath (holds : Holds s path bytes) : configPath s = (.ok path, s) := by
  obtain ⟨position, hlocate, -⟩ := holds.exists_position
  obtain ⟨dir, hdir, rfl, -⟩ := holds
  exact configPath_eq_ok_iff.mpr ⟨dir, hdir, Store.makeFolders_of_locate_join hlocate, rfl⟩

theorem Holds.load (holds : Holds s path bytes) : load s = (loaded bytes, s) := by
  have hpath := holds.configPath
  obtain ⟨dir, -, -, hfind⟩ := holds
  rw [load_of_configPath hpath, loadFrom, hfind]
  rfl

theorem Holds.save (holds : Holds s path bytes) (config : Dict Value) :
    (save s config).1 = printing config := by
  have hpath := holds.configPath
  obtain ⟨position, hlocate, hentry⟩ := holds.exists_position
  obtain ⟨dir, -, rfl, -⟩ := holds
  obtain ⟨habove, -⟩ := Store.entry?_above_of_locate_join (by decide) hlocate
  have hwrite : s.write (dir.join "config.toml") (printed config) =
      .ok (s.put position (.file (printed config))) :=
    Store.write_eq_ok_iff.mpr ⟨position, hlocate, by simp [hentry], habove, rfl⟩
  rw [save_of_configPath hpath, hwrite]

-- What setting a text comes to: what the file holds with the new value, if it can be printed.
theorem Holds.set (holds : Holds s path bytes) {value : Value} (h : accepted? key raw = some value) :
    (set s key raw).1 = (do
      let config ← updateSections (← loaded bytes)
        [((splitKey key).1, .table [((splitKey key).2, value)])]
      printing config
      return config) := by
  rw [set_eq_update s h, update, holds.load]
  cases loaded bytes with
  | error fault => rfl
  | ok settings =>
    simp only [Outcome.andThen, bind, Except.bind]
    cases updateSections settings [((splitKey key).1, .table [((splitKey key).2, value)])] with
    | error fault => rfl
    | ok config =>
      dsimp only
      rw [← holds.save config]
      rcases Settings.save s config with ⟨_ | _, s'⟩ <;> rfl

end CommandCompletion.Settings
