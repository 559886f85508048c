import CommandCompletion.Proofs.Settings.Address
import CommandCompletion.Proofs.Settings.Saving

namespace CommandCompletion.Settings

open Store (FoldersStay)

variable {s s₀ s₂ : Store} {path : FilePath} {position : Position} {value : Setting → Value}

theorem configPath_eq_ok_iff :
    configPath s = (.ok path, s₀) ↔ ∃ dir,
      (FilePath.ofString (folderName s)).expandHome s.home? = some dir ∧
        s.makeFolders dir = (.ok (), s₀) ∧ dir.join "config.toml" = path := by
  unfold configPath folder Outcome.andThen
  cases hdir : (FilePath.ofString (folderName s)).expandHome s.home? with
  | none => simp
  | some dir =>
    rcases hmade : s.makeFolders dir with ⟨_ | _, s₁⟩ <;> simp [hmade, and_comm]

theorem folderName_congr (h : s₂.environment = s.environment) : folderName s₂ = folderName s := by
  rw [folderName, folderName, Store.lookup?, Store.lookup?, h]

theorem home?_congr (h : s₂.environment = s.environment) : s₂.home? = s.home? := by
  funext user
  rw [Store.home?, Store.home?, Store.lookup?, Store.lookup?, h]

-- Once its folder is there, the settings file is found without making anything.
theorem configPath_again (hpath : configPath s = (.ok path, s₀))
    (hlocate : s₀.locate path = .ok position) (henvironment : s₂.environment = s₀.environment)
    (stay : FoldersStay s₀ s₂) :
    configPath s₂ = (.ok path, s₂) := by
  obtain ⟨dir, hdir, hmade, rfl⟩ := configPath_eq_ok_iff.mp hpath
  have hsame : s₂.environment = s.environment := by
    rw [henvironment, ← Store.makeFolders_environment s dir, hmade]
  refine configPath_eq_ok_iff.mpr ⟨dir, ?_, ?_, rfl⟩
  · rw [folderName_congr hsame, home?_congr hsame, hdir]
  · exact Store.makeFolders_of_locate_join (stay.locate hlocate)

-- The settings file can be written, and what is loaded are the built-in settings with these values.
def Keeps (s : Store) (value : Setting → Value) : Prop :=
  ∃ path s₀ position, configPath s = (.ok path, s₀) ∧ s₀.locate path = .ok position ∧
    s₀.entry? position ≠ some .folder ∧ loadFrom s₀ path = .ok (filled value)

theorem Keeps.congr {other : Setting → Value} (keeps : Keeps s value)
    (h : ∀ setting ∈ settings, value setting = other setting) : Keeps s other := by
  unfold Keeps at keeps ⊢
  rwa [← filled_congr h]

theorem load_of_configPath (hpath : configPath s = (.ok path, s₀)) :
    load s = (loadFrom s₀ path, s₀) := by
  rw [load, hpath]
  rfl

theorem Keeps.load (keeps : Keeps s value) : (load s).1 = .ok (filled value) := by
  obtain ⟨path, s₀, position, hpath, -, -, hload⟩ := keeps
  rw [load_of_configPath hpath, hload]

theorem parse_printed (simple : ∀ setting ∈ settings, (value setting).isSimple) :
    parse (printed (filled value)) = .ok (Toml.tables (Toml.cut (filledSections value))) := by
  rw [parse, printed, String.fromUTF8?_toUTF8]
  simp only [String.toList_ofList, (print_filled simple).2]

theorem foldersStay_put (h : s.entry? position ≠ some .folder) (bytes : ByteArray) :
    FoldersStay s (s.put position (.file bytes)) := by
  intro other hother
  rw [Store.entry?_put]
  split
  · rfl
  · rw [if_neg]
    · exact hother
    · rintro rfl
      exact h hother

-- An update of one setting prints all of them. Whether or not that comes to its end, the settings
-- that are loaded from then on are those that were printed.
theorem update_filled (keeps : Keeps s value) {setting : Setting} (h : setting ∈ settings)
    {new : Value}
    (simple : ∀ other ∈ settings, (Function.update value setting new other).isSimple) :
    ∃ s₂, update s [(setting.1, .table [(setting.2, new)])] =
        ((printing (filled (Function.update value setting new))).map fun _ =>
          filled (Function.update value setting new), s₂) ∧
      Keeps s₂ (kept (Function.update value setting new)) := by
  obtain ⟨path, s₀, position, hpath, hlocate, hentry, hload⟩ := keeps
  generalize hchanged : Function.update value setting new = changed at simple ⊢
  obtain ⟨dir, -, -, hdir⟩ := configPath_eq_ok_iff.mp hpath
  have hlocate' : s₀.locate (dir.join "config.toml") = .ok position := hdir ▸ hlocate
  obtain ⟨habove, hproper⟩ := Store.entry?_above_of_locate_join (by decide) hlocate'
  have hagain : configPath s₀ = (.ok path, s₀) :=
    configPath_again hpath hlocate rfl fun _ => id
  let s₂ := s₀.put position (.file (printed (filled changed)))
  have hwrite : s₀.write path (printed (filled changed)) = .ok s₂ :=
    Store.write_eq_ok_iff.mpr ⟨position, hlocate, hentry, habove, rfl⟩
  have hsave : save s₀ (filled changed) = (printing (filled changed), s₂) := by
    rw [save_of_configPath hagain, hwrite]
  have stay : FoldersStay s₀ s₂ := foldersStay_put hentry _
  have hfile : s₂.entry? position = some (.file (printed (filled changed))) := by
    rw [Store.entry?_put, hproper]
    simp
  refine ⟨s₂, ?_, path, s₂, position, configPath_again hpath hlocate rfl stay, stay.locate hlocate,
    by simp [hfile], ?_⟩
  · rw [update, load_of_configPath hpath, hload]
    simp only [Outcome.andThen, updateSections_filled h, hchanged, hsave]
    cases printing (filled changed) <;> rfl
  · have hfind : s₂.find path = .ok (.file (printed (filled changed))) := by
      rw [Store.find, stay.locate hlocate]
      simp only [bind, Except.bind, hfile]
    rw [loadFrom, hfind]
    simp only [parse_printed simple, Except.map, merge_cut simple]

-- Once the settings were loaded, loading them again changes no files, and neither does finding the
-- history.
theorem Keeps.exists_load (keeps : Keeps s value) : ∃ s₀ history,
    Settings.load s = (.ok (filled value), s₀) ∧ Settings.load s₀ = (.ok (filled value), s₀) ∧
      historyPath s₀ = (.ok history, s₀) := by
  obtain ⟨path, s₀, position, hpath, hlocate, -, hload⟩ := keeps
  have hagain : configPath s₀ = (.ok path, s₀) := configPath_again hpath hlocate rfl fun _ => id
  obtain ⟨dir, hdir, hmade, -⟩ := configPath_eq_ok_iff.mp hagain
  refine ⟨s₀, dir.join "history", ?_, ?_, ?_⟩
  · rw [load_of_configPath hpath, hload]
  · rw [load_of_configPath hagain, hload]
  · rw [historyPath, folder, hdir]
    simp only [hmade, Outcome.andThen]

end CommandCompletion.Settings
