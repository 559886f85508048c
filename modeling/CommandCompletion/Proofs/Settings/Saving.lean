import CommandCompletion.Proofs.Data.Value
import CommandCompletion.Proofs.Files.Store
import CommandCompletion.Settings.Config

namespace CommandCompletion.Settings

open Store (SameFiles)

-- What a save puts into the settings file: everything that is printed before a fault.
def printed (config : Dict Value) : ByteArray :=
  (String.ofList (Toml.print config).text).toUTF8

-- The settings file can be opened for writing, and stands at the position or will stand there.
def Opens (s : Store) (position : Position) : Prop :=
  ∃ path s₁, configPath s = (.ok path, s₁) ∧ s₁.locate path = .ok position ∧
    ∀ bytes, s₁.write path bytes = .ok (s₁.put position (.file bytes))

-- The settings that an update would save, and the files when it comes to that.
def Prepares (s : Store) (updates : List (Text × Value)) (changed : Dict Value) (s₁ : Store) :
    Prop :=
  ∃ config, load s = (.ok config, s₁) ∧ updateSections config updates = .ok changed

theorem Outcome.andThen_eq_error_iff {α β : Type} {first : Outcome α}
    {next : α → Store → Outcome β} {fault : Fault} {s' : Store} :
    first.andThen next = (.error fault, s') ↔
      first = (.error fault, s') ∨ ∃ a s, first = (.ok a, s) ∧ next a s = (.error fault, s') := by
  obtain ⟨_ | a, s⟩ := first <;> simp [andThen]

theorem Outcome.andThen_eq_ok_iff {α β : Type} {first : Outcome α}
    {next : α → Store → Outcome β} {b : β} {s' : Store} :
    first.andThen next = (.ok b, s') ↔ ∃ a s, first = (.ok a, s) ∧ next a s = (.ok b, s') := by
  obtain ⟨_ | a, s⟩ := first <;> simp [andThen]

variable {s s' s₁ : Store} {config : Dict Value} {fault : Fault} {position : Position}
  {updates : List (Text × Value)}

theorem Opens.unique {other : Position} (h : Opens s position) (h' : Opens s other) :
    position = other := by
  obtain ⟨path, s₁, hpath, hlocate, -⟩ := h
  obtain ⟨path', s₁', hpath', hlocate', -⟩ := h'
  cases hpath.symm.trans hpath'
  exact Except.ok.inj (hlocate.symm.trans hlocate')

theorem sameFiles_folder (s : Store) : SameFiles s (folder s).2 := by
  unfold folder
  split
  · exact .refl s
  · next path _ =>
    have same := Store.makeFolders_sameFiles s path
    split <;> next hmade => rw [hmade] at same; exact same

theorem sameFiles_configPath (s : Store) : SameFiles s (configPath s).2 := by
  have same := sameFiles_folder s
  unfold configPath Outcome.andThen
  split <;> next hfolder => rw [hfolder] at same; exact same

theorem load_snd (s : Store) : (load s).2 = (configPath s).2 := by
  unfold load Outcome.andThen
  split <;> next hpath => rw [hpath]

-- The fault of a save whose printing does not come to its end.
def Fault.ofUnprintable : Toml.Unprintable → Fault
  | .longNumber => .longNumber
  | .halfText => .halfText
  | .tooDeep => .tooDeep
  | fault => .unprintable fault

-- What printing settings comes to.
def printing (config : Dict Value) : Except Fault Unit :=
  match (Toml.print config).fault with
  | some fault => .error (.ofUnprintable fault)
  | none => .ok ()

theorem save_of_configPath {path : FilePath} (hpath : configPath s = (.ok path, s₁))
    (config : Dict Value) :
    save s config =
      match s₁.write path (printed config) with
      | .error error => (.error (.unwritable error path), s₁)
      | .ok s₂ => (printing config, s₂) := by
  rw [save, hpath]
  simp only [Outcome.andThen, printed, printing]
  cases s₁.write path (String.ofList (Toml.print config).text).toUTF8 with
  | error error => rfl
  | ok s₂ =>
    cases (Toml.print config).fault with
    | none => rfl
    | some fault => cases fault <;> rfl

-- A save that cannot open the settings file changes no file. Otherwise the file is emptied first:
-- whether or not printing comes to its end, the file holds what was printed.
theorem save_cases (s : Store) (config : Dict Value) :
    ((∀ position, ¬Opens s position) ∧
        ∃ fault s', save s config = (.error fault, s') ∧ SameFiles s s') ∨
      ∃ position s', Opens s position ∧ save s config = (printing config, s') ∧
        ∀ other, s'.bytesAt other =
          if other = position then some (printed config) else s.bytesAt other := by
  have same := sameFiles_configPath s
  rcases hpath : configPath s with ⟨fault | path, s₁⟩
  · refine .inl ⟨?_, fault, s₁, by rw [save, hpath]; rfl, by rwa [hpath] at same⟩
    rintro position ⟨path, s₂, hother, -⟩
    cases hpath.symm.trans hother
  · rw [hpath] at same
    have saved := save_of_configPath hpath config
    rcases hwrite : s₁.write path (printed config) with error | s₂
    · rw [hwrite] at saved
      refine .inl ⟨?_, _, _, saved, same⟩
      rintro position ⟨path', s₂, hother, -, hopen⟩
      cases hpath.symm.trans hother
      cases hwrite.symm.trans (hopen _)
    · rw [hwrite] at saved
      obtain ⟨position, hlocate, hentry, habove, rfl⟩ := Store.write_eq_ok_iff.mp hwrite
      have proper : Store.isGiven position = false := by
        by_contra hgiven
        exact hentry (by simp [hgiven, Store.entry?])
      have opened : Opens s position :=
        ⟨path, s₁, hpath, hlocate, fun bytes =>
          Store.write_eq_ok_iff.mpr ⟨position, hlocate, hentry, habove, rfl⟩⟩
      refine .inr ⟨position, s₁.put position (.file (printed config)), opened, saved,
        fun other => ?_⟩
      rw [Store.bytesAt_put s₁ proper, same other]

-- What a failed save leaves: all files as they were if it could not open the settings file, and
-- otherwise all but that one.
theorem bytesAt_of_failed_save (failed : save s config = (.error fault, s')) :
    (SameFiles s s' ∧ ∀ position, ¬Opens s position) ∨
      ∃ position, Opens s position ∧ ∀ other, s'.bytesAt other =
        if other = position then some (printed config) else s.bytesAt other := by
  rcases save_cases s config with
    ⟨closed, fault', s₁, saved, same⟩ | ⟨position, s₁, opens, saved, hbytes⟩
  · cases failed.symm.trans saved
    exact .inl ⟨same, closed⟩
  · cases congrArg Prod.snd (failed.symm.trans saved)
    exact .inr ⟨position, opens, hbytes⟩

theorem sameFiles_iff_of_failed_save (failed : save s config = (.error fault, s')) :
    SameFiles s s' ↔ ∀ position, Opens s position → s.bytesAt position = some (printed config) := by
  rcases bytesAt_of_failed_save failed with ⟨same, closed⟩ | ⟨position, opens, hbytes⟩
  · exact iff_of_true same fun position opens => absurd opens (closed position)
  · constructor
    · intro same other opens'
      cases opens.unique opens'
      rw [← same position, hbytes, if_pos rfl]
    · intro held other
      rw [hbytes]
      split
      · next he => rw [he, held position opens]
      · rfl

theorem update_eq_ok_iff {changed : Dict Value} :
    update s updates = (.ok changed, s') ↔
      ∃ s₁, Prepares s updates changed s₁ ∧ save s₁ changed = (.ok (), s') := by
  unfold update Prepares
  rw [Outcome.andThen_eq_ok_iff]
  constructor
  · rintro ⟨config, s₁, hload, h⟩
    split at h
    · cases h
    · next hupdate =>
      obtain ⟨_, _, hsave, h⟩ := Outcome.andThen_eq_ok_iff.mp h
      cases h
      exact ⟨s₁, ⟨config, hload, hupdate⟩, hsave⟩
  · rintro ⟨s₁, ⟨config, hload, hupdate⟩, hsave⟩
    refine ⟨config, s₁, hload, ?_⟩
    simp only [hupdate, hsave, Outcome.andThen]

-- An update fails before it comes to saving, or its save fails.
theorem failed_update_cases (failed : update s updates = (.error fault, s')) :
    (SameFiles s s' ∧ ∀ changed s₁, ¬Prepares s updates changed s₁) ∨
      ∃ changed s₁, Prepares s updates changed s₁ ∧ SameFiles s s₁ ∧
        save s₁ changed = (.error fault, s') := by
  have same := sameFiles_configPath s
  rw [← load_snd] at same
  rcases Outcome.andThen_eq_error_iff.mp failed with hload | ⟨config, s₁, hload, failed⟩
  · rw [hload] at same
    refine .inl ⟨same, ?_⟩
    rintro changed s₁ ⟨config, hother, -⟩
    cases hload.symm.trans hother
  · rw [hload] at same
    cases hsections : updateSections config updates with
    | error found =>
      rw [hsections] at failed
      cases failed
      refine .inl ⟨same, ?_⟩
      rintro changed s₂ ⟨other, hother, hchanged⟩
      cases hload.symm.trans hother
      cases hsections.symm.trans hchanged
    | ok changed =>
      rw [hsections] at failed
      rcases Outcome.andThen_eq_error_iff.mp failed with hsave | ⟨_, _, _, himpossible⟩
      · exact .inr ⟨changed, s₁, ⟨config, hload, hsections⟩, same, hsave⟩
      · cases himpossible

theorem Prepares.unique {changed other : Dict Value} {s₂ : Store}
    (h : Prepares s updates changed s₁) (h' : Prepares s updates other s₂) :
    changed = other ∧ s₁ = s₂ := by
  obtain ⟨config, hload, hchanged⟩ := h
  obtain ⟨config', hload', hchanged'⟩ := h'
  cases hload.symm.trans hload'
  exact ⟨Except.ok.inj (hchanged.symm.trans hchanged'), rfl⟩

-- A failed save or update leaves the files as they were if and only if it did not get to open the
-- settings file, or that file happened to hold just what was printed before the fault.
theorem failure_keeps_files_iff (s s' : Store) (fault : Fault) :
    (∀ config, save s config = (.error fault, s') →
      (SameFiles s s' ↔
        ∀ position, Opens s position → s.bytesAt position = some (printed config))) ∧
    (∀ updates, update s updates = (.error fault, s') →
      (SameFiles s s' ↔ ∀ changed s₁, Prepares s updates changed s₁ →
        ∀ position, Opens s₁ position → s.bytesAt position = some (printed changed))) := by
  refine ⟨fun config failed => sameFiles_iff_of_failed_save failed, fun updates failed => ?_⟩
  rcases failed_update_cases failed with ⟨same, none⟩ | ⟨changed, s₁, prepares, before, hsave⟩
  · exact iff_of_true same fun changed s₁ prepares => absurd prepares (none changed s₁)
  · have saving := sameFiles_iff_of_failed_save hsave
    have same : SameFiles s s' ↔ SameFiles s₁ s' :=
      ⟨fun h position => (h position).trans (before position).symm, before.trans⟩
    rw [same, saving]
    constructor
    · intro held changed' s₂ prepares' position opens
      obtain ⟨rfl, rfl⟩ := prepares.unique prepares'
      rw [← before position, held position opens]
    · intro held position opens
      rw [before position, held changed s₁ prepares position opens]

-- A folder with settings in which the level of the log was set.
def quietStore : Store where
  entries :=
    [(["config"], .folder),
      (["config", "config.toml"], .file "[logging]\nlevel = \"ERROR\"\n".toUTF8)]
  environment := [("MCCOMPLETE_CONFIG_DIR", "config")]

theorem opens_quietStore : Opens quietStore ["config", "config.toml"] := by
  refine ⟨⟨"", ["config", "config.toml"]⟩, quietStore, ?_, ?_, fun bytes => ?_⟩
  · decide
  · decide
  · rfl

-- Settings that cannot be printed take those with them that were saved before.
theorem exists_failed_save_losing_settings :
    ∃ (s s' : Store) (config : Dict Value) (position : Position),
      save s config = (.error (.unprintable .null), s') ∧
        s.bytesAt position = some "[logging]\nlevel = \"ERROR\"\n".toUTF8 ∧
        s'.bytesAt position = some "".toUTF8 := by
  refine ⟨quietStore, (save quietStore [("prompt", .null)]).2, [("prompt", .null)],
    ["config", "config.toml"], ?_, ?_, ?_⟩ <;> decide

-- A null in a section behind one that is printed already, and a null that an update sets.
theorem failure_keeps_files_iff_sample :
    let config : Dict Value :=
      [("logging", .table [("level", .text "ERROR")]), ("repl", .table [("prompt", .null)])]
    let updates : List (Text × Value) := [("repl", .table [("prompt", .null)])]
    let saved := (save quietStore config).2
    let updated := (update quietStore updates).2
    save quietStore config = (.error (.unprintable .null), saved) ∧
      ¬SameFiles quietStore saved ∧
      update quietStore updates = (.error (.unprintable .null), updated) ∧
      ¬SameFiles quietStore updated := by
  intro config updates saved updated
  have failedSave : save quietStore config = (.error (.unprintable .null), saved) := by
    decide +kernel
  have failedUpdate : update quietStore updates = (.error (.unprintable .null), updated) := by
    decide +kernel
  refine ⟨failedSave, fun same => ?_, failedUpdate, fun same => ?_⟩
  · have held := ((failure_keeps_files_iff quietStore saved _).1 config failedSave).mp same _
      opens_quietStore
    revert held
    decide +kernel
  · have prepares : Prepares quietStore updates
        [("data", .table [("commands_path", .text ""), ("registries_path", .text "")]),
          ("logging", .table [("level", .text "ERROR")]),
          ("repl", .table [("prompt", .null), ("history", .bool true)])] quietStore :=
      ⟨[("data", .table [("commands_path", .text ""), ("registries_path", .text "")]),
          ("logging", .table [("level", .text "ERROR")]),
          ("repl", .table [("prompt", .text "> "), ("history", .bool true)])],
        by decide +kernel, by decide +kernel⟩
    have held := ((failure_keeps_files_iff quietStore updated _).2 updates failedUpdate).mp same
      _ _ prepares _ opens_quietStore
    revert held
    decide +kernel

end CommandCompletion.Settings
