import CommandCompletion.Proofs.Settings.Keeping

namespace CommandCompletion.Settings

variable {s : Store} {key raw : Text} {value : Value} {setting : Setting}
  {calls : List (Text × Text)}

-- The value that a text stands for under a key, unless it is refused.
def accepted? (key raw : Text) : Option Value :=
  (default? key).bind fun default => (coerce raw default key).toOption

-- What a call does to a setting. An accepted value replaces that of its own setting. If it cannot
-- be printed, it takes with it all settings from its place on.
def effect (setting : Setting) (call : Text × Text) : Option Value :=
  match accepted? call.1 call.2 with
  | none => none
  | some value =>
    if value.isWhole then if splitKey call.1 = setting then some value else none
    else if setting ∈ before (splitKey call.1) then none else some (builtInValue setting)

-- What the last call that did something to a setting has left there.
def valueAfter (calls : List (Text × Text)) (setting : Setting) : Value :=
  ((calls.filterMap (effect setting)).getLast?).getD (builtInValue setting)

def setAll (s : Store) (calls : List (Text × Text)) : Store :=
  calls.foldl (fun s call => (set s call.1 call.2).2) s

-- The settings file can be written, and is not there yet.
def Fresh (s : Store) : Prop :=
  ∃ path s₀ position, configPath s = (.ok path, s₀) ∧ s₀.locate path = .ok position ∧
    s₀.entry? position = none

theorem valueAfter_append (calls : List (Text × Text)) (call : Text × Text) (setting : Setting) :
    valueAfter (calls ++ [call]) setting =
      (effect setting call).getD (valueAfter calls setting) := by
  rw [valueAfter, List.filterMap_append]
  cases h : effect setting call with
  | none => simp [h, valueAfter]
  | some value => simp [h]

theorem setAll_append (s : Store) (calls : List (Text × Text)) (call : Text × Text) :
    setAll s (calls ++ [call]) = (set (setAll s calls) call.1 call.2).2 := by
  simp [setAll]

theorem Fresh.keeps (fresh : Fresh s) : Keeps s builtInValue := by
  obtain ⟨path, s₀, position, hpath, hlocate, hnone⟩ := fresh
  refine ⟨path, s₀, position, hpath, hlocate, by simp [hnone], ?_⟩
  have hfind : s₀.find path = .error .notFound := by
    rw [Store.find, hlocate]
    simp only [bind, Except.bind, hnone]
  rw [loadFrom, hfind, filled_builtInValue]

theorem isSimple_builtInValue : ∀ setting ∈ settings, (builtInValue setting).isSimple := by
  decide

theorem isWhole_builtInValue : ∀ setting ∈ settings, (builtInValue setting).isWhole := by
  decide

theorem default?_eq_some {default : Value} (h : default? key = some default) :
    splitKey key ∈ settings ∧ builtInValue (splitKey key) = default ∧ default.isSimple := by
  rw [default?_eq] at h
  obtain ⟨front, behind, hentries, -⟩ := List.lookup_eq_some_iff.mp h
  have hsetting : splitKey key ∈ settings := by
    refine List.mem_map.mpr ⟨(splitKey key, default), ?_, rfl⟩
    rw [hentries]
    exact List.mem_append_right _ List.mem_cons_self
  have hvalue : builtInValue (splitKey key) = default := by
    rw [builtInValue, h]
    rfl
  exact ⟨hsetting, hvalue, hvalue ▸ isSimple_builtInValue _ hsetting⟩

-- A text is read as a value of the kind that is asked for.
theorem coerce_eq_ok {default : Value} (h : coerce raw default key = .ok value)
    (simple : default.isSimple) : value.isSimple ∧ value.kindName = default.kindName := by
  cases default with
  | text s =>
    cases h
    exact ⟨rfl, rfl⟩
  | bool b =>
    rw [coerce] at h
    split at h
    · cases h
      exact ⟨rfl, rfl⟩
    · split at h
      · cases h
        exact ⟨rfl, rfl⟩
      · cases h
  | _ => cases simple

theorem accepted?_eq_some_iff : accepted? key raw = some value ↔
    ∃ default, default? key = some default ∧ coerce raw default key = .ok value := by
  rw [accepted?, Option.bind_eq_some_iff]
  refine exists_congr fun default => and_congr_right fun _ => ?_
  cases coerce raw default key <;> simp [Except.toOption]

theorem accepted_sound (h : accepted? key raw = some value) :
    splitKey key ∈ settings ∧ value.isSimple ∧
      value.kindName = (builtInValue (splitKey key)).kindName := by
  obtain ⟨default, hdefault, hvalue⟩ := accepted?_eq_some_iff.mp h
  obtain ⟨hsetting, hbuiltIn, simple⟩ := default?_eq_some hdefault
  rw [hbuiltIn]
  exact ⟨hsetting, coerce_eq_ok hvalue simple⟩

theorem effect_sound (hsetting : setting ∈ settings) {call : Text × Text}
    (h : effect setting call = some value) :
    value.isSimple ∧ value.isWhole ∧ value.kindName = (builtInValue setting).kindName := by
  unfold effect at h
  split at h
  · cases h
  · next new haccepted =>
    obtain ⟨-, simple, kind⟩ := accepted_sound haccepted
    split at h
    · next whole =>
      split at h
      · next hkey =>
        cases h
        exact ⟨simple, whole, hkey ▸ kind⟩
      · cases h
    · split at h
      · cases h
      · cases h
        exact ⟨isSimple_builtInValue _ hsetting, isWhole_builtInValue _ hsetting, rfl⟩

theorem valueAfter_sound (calls : List (Text × Text)) (hsetting : setting ∈ settings) :
    (valueAfter calls setting).isSimple ∧ (valueAfter calls setting).isWhole ∧
      (valueAfter calls setting).kindName = (builtInValue setting).kindName := by
  induction calls using List.reverseRecOn with
  | nil => exact ⟨isSimple_builtInValue _ hsetting, isWhole_builtInValue _ hsetting, rfl⟩
  | append_singleton calls call ih =>
    rw [valueAfter_append]
    cases h : effect setting call with
    | none => exact ih
    | some value => exact effect_sound hsetting h

theorem valueAfter_printable (calls : List (Text × Text)) : ∀ setting ∈ settings,
    (valueAfter calls setting).isSimple ∧ (valueAfter calls setting).isWhole := by
  intro setting hsetting
  obtain ⟨simple, whole, -⟩ := valueAfter_sound calls hsetting
  exact ⟨simple, whole⟩

variable {values : Setting → Value}

-- A refused call touches nothing.
theorem set_of_refused (s : Store) (h : accepted? key raw = none) :
    (default? key = none ∧ set s key raw = (.error (.unknownSetting key), s)) ∨
      ∃ default fault, default? key = some default ∧ coerce raw default key = .error fault ∧
        set s key raw = (.error (.coercion fault), s) := by
  rw [set]
  cases hdefault : default? key with
  | none => exact .inl ⟨rfl, rfl⟩
  | some default =>
    cases hcoerce : coerce raw default key with
    | error fault => exact .inr ⟨default, fault, rfl, hcoerce, by simp [hcoerce]⟩
    | ok value =>
      cases h.symm.trans (accepted?_eq_some_iff.mpr ⟨default, hdefault, hcoerce⟩)

theorem set_eq_update (s : Store) (h : accepted? key raw = some value) :
    set s key raw = update s [((splitKey key).1, .table [((splitKey key).2, value)])] := by
  obtain ⟨default, hdefault, hcoerce⟩ := accepted?_eq_some_iff.mp h
  rw [set, hdefault]
  simp only [hcoerce]

-- What was set is the value that the text stands for.
theorem get?_of_set {s s' : Store} {config : Dict Value}
    (h : set s key raw = (.ok config, s')) : ∃ value, accepted? key raw = some value ∧
      (config.get? (splitKey key).1).bind (·.get? (splitKey key).2) = some value := by
  cases haccepted : accepted? key raw with
  | none =>
    rcases set_of_refused s haccepted with ⟨-, hset⟩ | ⟨_, _, -, -, hset⟩ <;>
      cases hset.symm.trans h
  | some value =>
    refine ⟨value, rfl, ?_⟩
    rw [set_eq_update s haccepted] at h
    obtain ⟨s₁, ⟨old, -, hupdate⟩, -⟩ := update_eq_ok_iff.mp h
    simp only [updateSections, updateSection] at hupdate
    split at hupdate
    · cases hupdate
    · next hsection =>
      cases hupdate
      split at hsection
      · cases hsection
        rw [Dict.get?_insert, if_pos rfl, Option.bind_some, Value.get?]
        exact (Dict.get?_insert _ _ _ _).trans (if_pos rfl)
      · cases hsection

theorem isWhole_update (whole : ∀ setting ∈ settings, (values setting).isWhole)
    (hvalue : value.isWhole) (changed : Setting) :
    ∀ setting ∈ settings, (Function.update values changed value setting).isWhole := by
  intro setting hsetting
  by_cases he : setting = changed
  · simp [he, hvalue]
  · simp [he, whole setting hsetting]

-- What is left of settings after one of them was set.
theorem kept_update (whole : ∀ setting ∈ settings, (values setting).isWhole)
    (h : accepted? key raw = some value) (hsetting : setting ∈ settings) :
    kept (Function.update values (splitKey key) value) setting =
      (effect setting (key, raw)).getD (values setting) := by
  have heffect : effect setting (key, raw) =
      if value.isWhole then if splitKey key = setting then some value else none
      else if setting ∈ before (splitKey key) then none else some (builtInValue setting) := by
    rw [effect, h]
  rw [heffect]
  by_cases hvalue : value.isWhole
  · rw [kept_of_whole (isWhole_update whole hvalue _) hsetting, if_pos hvalue]
    by_cases he : setting = splitKey key
    · simp [he]
    · simp [he, Ne.symm he]
  · rw [kept, survivors_update whole (by simpa using hvalue), if_neg hvalue]
    by_cases hbefore : setting ∈ before (splitKey key)
    · have hne : setting ≠ splitKey key := by
        simpa using List.mem_takeWhile_imp hbefore
      simp [hbefore, hne]
    · simp [hbefore]

theorem printing_filled (simple : ∀ setting ∈ settings, (values setting).isSimple) :
    printing (filled values) =
      if settings.all fun setting => (values setting).isWhole then .ok ()
      else .error .halfText := by
  rw [printing, (print_filled simple).1]
  cases settings.all fun setting => (values setting).isWhole <;> rfl

-- An accepted call leaves settings that can be loaded again. It fails only on a value that cannot
-- be printed.
theorem set_of_accepted (keeps : Keeps s values)
    (sound : ∀ setting ∈ settings, (values setting).isSimple ∧ (values setting).isWhole)
    (h : accepted? key raw = some value) :
    (set s key raw).1 = (if value.isWhole then
        .ok (filled fun setting => (effect setting (key, raw)).getD (values setting))
      else .error .halfText) ∧
      Keeps (set s key raw).2 fun setting => (effect setting (key, raw)).getD (values setting) := by
  obtain ⟨hkey, hsimple, -⟩ := accepted_sound h
  have simple : ∀ other ∈ settings,
      (Function.update values (splitKey key) value other).isSimple := by
    intro other hother
    by_cases he : other = splitKey key
    · simp [he, hsimple]
    · simp [he, (sound other hother).1]
  have whole : ∀ other ∈ settings, (values other).isWhole :=
    fun other hother => (sound other hother).2
  obtain ⟨s₂, hupdate, hkeeps⟩ := update_filled keeps hkey simple
  rw [set_eq_update s h, hupdate, printing_filled simple]
  refine ⟨?_, hkeeps.congr fun setting hsetting => kept_update whole h hsetting⟩
  by_cases hvalue : value.isWhole
  · have hall := isWhole_update whole hvalue (splitKey key)
    have hsame := filled_congr fun setting hsetting =>
      (kept_of_whole hall hsetting).symm.trans (kept_update whole h hsetting)
    rw [if_pos hvalue, if_pos (List.all_eq_true.mpr hall), hsame]
    rfl
  · have hbroken : ¬settings.all fun setting =>
        (Function.update values (splitKey key) value setting).isWhole := by
      intro hall
      have hchanged := List.all_eq_true.mp hall _ hkey
      rw [Function.update_self] at hchanged
      exact hvalue hchanged
    rw [if_neg hvalue, if_neg hbroken]
    rfl

-- By induction on the calls, the last one taken off: it is refused and touches nothing, or leaves
-- what it did to each setting.
theorem keeps_setAll (fresh : Fresh s) (calls : List (Text × Text)) :
    Keeps (setAll s calls) (valueAfter calls) := by
  induction calls using List.reverseRecOn with
  | nil => exact fresh.keeps
  | append_singleton calls call ih =>
    obtain ⟨key, raw⟩ := call
    rw [setAll_append]
    cases h : accepted? key raw with
    | none =>
      have hsame : (set (setAll s calls) key raw).2 = setAll s calls := by
        rcases set_of_refused (setAll s calls) h with ⟨-, hset⟩ | ⟨_, _, -, -, hset⟩ <;> rw [hset]
      rw [hsame]
      refine ih.congr fun setting _ => ?_
      rw [valueAfter_append, effect, h]
      rfl
    | some value =>
      refine (set_of_accepted ih (valueAfter_printable calls) h).2.congr fun setting _ => ?_
      rw [valueAfter_append]

theorem set_setAll (fresh : Fresh s) (calls : List (Text × Text))
    (h : accepted? key raw = some value) :
    (set (setAll s calls) key raw).1 =
      if value.isWhole then .ok (filled (valueAfter (calls ++ [(key, raw)])))
      else .error .halfText := by
  rw [(set_of_accepted (keeps_setAll fresh calls) (valueAfter_printable calls) h).1]
  simp only [← valueAfter_append]

-- The dotted names of the built-in settings.
def settingKeys : List Text :=
  settings.map fun setting => setting.1 ++ "." ++ setting.2

-- A name behind the first dot of a key.
theorem eq_of_splitKey (h : (splitKey key).2 ≠ []) :
    key = (splitKey key).1 ++ Text.ofString "." ++ (splitKey key).2 := by
  simp only [splitKey] at h ⊢
  generalize hbehind : key.dropWhile (· ≠ .char '.') = behind at h ⊢
  have hkey : key.takeWhile (· ≠ .char '.') ++ behind = key := by
    rw [← hbehind, List.takeWhile_append_dropWhile]
  cases behind with
  | nil => exact absurd rfl h
  | cons c name =>
    have hdot : c = .char '.' := by
      have hhead := List.head?_dropWhile_not (· ≠ CodePoint.char '.') key
      rw [hbehind] at hhead
      simpa using hhead
    rw [List.drop_one, List.tail_cons, List.append_assoc]
    exact (hdot ▸ hkey).symm

theorem mem_settingKeys_iff : key ∈ settingKeys ↔ ∃ default, default? key = some default := by
  constructor
  · intro h
    have hfound : ∀ key ∈ settingKeys, (default? key).isSome := by decide
    exact Option.isSome_iff_exists.mp (hfound key h)
  · rintro ⟨default, hdefault⟩
    have hnamed : ∀ setting ∈ settings, setting.2 ≠ [] := by decide
    obtain ⟨hsetting, -, -⟩ := default?_eq_some hdefault
    exact List.mem_map.mpr ⟨_, hsetting, (eq_of_splitKey (hnamed _ hsetting)).symm⟩

-- A text is refused only for a truth value, and only if it is no word for one.
theorem accepted?_eq_none_iff {default : Value} (h : default? key = some default) :
    accepted? key raw = none ↔
      (∃ b, default = .bool b) ∧ raw.trim.asciiLower ∉ trueWords ++ falseWords := by
  obtain ⟨-, -, simple⟩ := default?_eq_some h
  rw [accepted?, h, Option.bind_some]
  cases default with
  | bool b =>
    rw [coerce]
    by_cases htrue : raw.trim.asciiLower ∈ trueWords <;>
      by_cases hfalse : raw.trim.asciiLower ∈ falseWords <;> simp [htrue, hfalse, Except.toOption]
  | text s => simp [coerce, Except.toOption]
  | _ => cases simple

theorem isWhole_of_accepted (h : accepted? key raw = some value) (whole : raw.hasHalf = false) :
    value.isWhole := by
  obtain ⟨default, hdefault, hvalue⟩ := accepted?_eq_some_iff.mp h
  obtain ⟨-, -, simple⟩ := default?_eq_some hdefault
  cases default with
  | text s =>
    cases hvalue
    simp [Value.isWhole, whole]
  | bool b =>
    have kind := (coerce_eq_ok hvalue simple).2
    cases value with
    | text s => simp [Value.kindName] at kind
    | _ => rfl
  | _ => cases simple

-- As long as no text has a half in it, each setting has the value of the last call that was
-- accepted for it.
theorem valueAfter_of_whole (whole : ∀ call ∈ calls, call.2.hasHalf = false) (setting : Setting) :
    valueAfter calls setting =
      ((calls.filterMap fun call =>
        if splitKey call.1 = setting then accepted? call.1 call.2 else none).getLast?).getD
        (builtInValue setting) := by
  rw [valueAfter]
  congr 2
  refine List.filterMap_congr fun call hcall => ?_
  obtain ⟨key, raw⟩ := call
  cases h : accepted? key raw with
  | none => simp [effect, h]
  | some value => simp [effect, h, isWhole_of_accepted h (whole _ hcall)]

-- From a folder without settings, over any run of calls: what is loaded are the built-in settings,
-- each with what the last call that did something to it has left there, and of the built-in kind.
-- A call with an unknown key, or with a text that is no word for a truth value, is refused and
-- touches nothing. Every other call succeeds, unless its text has a half in it: then it fails, and
-- takes with it all settings from its place in the file on.
theorem load_setAll (s : Store) (fresh : Fresh s) (calls : List (Text × Text)) :
    (load (setAll s calls)).1 = .ok (filled (valueAfter calls)) ∧
    (∀ setting ∈ settings,
      (valueAfter calls setting).kindName = (builtInValue setting).kindName) ∧
    ((∀ call ∈ calls, call.2.hasHalf = false) → ∀ setting, valueAfter calls setting =
      ((calls.filterMap fun call =>
        if splitKey call.1 = setting then accepted? call.1 call.2 else none).getLast?).getD
        (builtInValue setting)) ∧
    ∀ key raw,
      (key ∉ settingKeys →
        set (setAll s calls) key raw = (.error (.unknownSetting key), setAll s calls)) ∧
      (∀ b, default? key = some (.bool b) → raw.trim.asciiLower ∉ trueWords ++ falseWords →
        set (setAll s calls) key raw = (.error (.coercion (.notBool key raw)), setAll s calls)) ∧
      (∀ default, default? key = some default →
        ((∃ b, default = .bool b) → raw.trim.asciiLower ∈ trueWords ++ falseWords) →
        ∃ value, coerce raw default key = .ok value ∧ (set (setAll s calls) key raw).1 =
          if value.isWhole then .ok (filled (valueAfter (calls ++ [(key, raw)])))
          else .error .halfText) := by
  refine ⟨(keeps_setAll fresh calls).load,
    fun setting hsetting => (valueAfter_sound calls hsetting).2.2,
    valueAfter_of_whole, fun key raw => ⟨fun hkey => ?_, fun b hbool hword => ?_,
    fun default hdefault hword => ?_⟩⟩
  · have hnone : default? key = none := by
      rw [Option.eq_none_iff_forall_ne_some]
      exact fun default h => hkey (mem_settingKeys_iff.mpr ⟨default, h⟩)
    rw [set, hnone]
  · have hrefused : coerce raw (.bool b) key = .error (.notBool key raw) := by
      obtain ⟨htrue, hfalse⟩ :
          raw.trim.asciiLower ∉ trueWords ∧ raw.trim.asciiLower ∉ falseWords := by
        simpa using hword
      simp [coerce, htrue, hfalse]
    rw [set, hbool]
    simp only [hrefused]
  · cases h : accepted? key raw with
    | none =>
      obtain ⟨hbool, hno⟩ := (accepted?_eq_none_iff hdefault).mp h
      exact absurd (hword hbool) hno
    | some value =>
      obtain ⟨other, hother, hvalue⟩ := accepted?_eq_some_iff.mp h
      cases hdefault.symm.trans hother
      exact ⟨value, hvalue, set_setAll fresh calls h⟩

-- A working directory without files.
def emptyStore : Store where
  environment := [("MCCOMPLETE_CONFIG_DIR", "config")]

theorem fresh_emptyStore : Fresh emptyStore := by
  refine ⟨⟨"", ["config", "config.toml"]⟩, (configPath emptyStore).2, ["config", "config.toml"],
    ?_, ?_, ?_⟩ <;> decide

-- Half of a pair, alone.
def halfText : Text := [.half 0]

-- A run with quotes, line ends and a refused word in it, and what further calls come to.
theorem load_setAll_sample :
    let calls : List (Text × Text) :=
      [("repl.prompt", "a\"b\\\n"), ("logging.level", "DEBUG"), ("repl.history", "maybe"),
        ("repl.history", " Off "), ("repl.color", "x"), ("logging.level", "]\r")]
    let s := setAll emptyStore calls
    (load s).1 = .ok
      [("data", .table [("commands_path", .text ""), ("registries_path", .text "")]),
        ("logging", .table [("level", .text "]\r")]),
        ("repl", .table [("prompt", .text "a\"b\\\n"), ("history", .bool false)])] ∧
      set s "data" "x" = (.error (.unknownSetting "data"), s) ∧
      set s "repl.history" "2" = (.error (.coercion (.notBool "repl.history" "2")), s) ∧
      (set s "logging.level" halfText).1 = .error .halfText := by
  intro calls s
  obtain ⟨hload, -, -, hcalls⟩ := load_setAll emptyStore fresh_emptyStore calls
  refine ⟨hload.trans (by decide), (hcalls _ _).1 (by decide), ?_, ?_⟩
  · exact (hcalls _ _).2.1 true (by decide) (by decide)
  · obtain ⟨value, hvalue, hset⟩ := (hcalls "logging.level" halfText).2.2 (.text "WARNING")
      (by decide) (by rintro ⟨b, ⟨⟩⟩)
    cases hvalue
    exact hset

-- A text with a half in it is accepted, and setting it loses another setting.
theorem exists_set_losing_settings :
    ∃ (s : Store) (calls : List (Text × Text)), Fresh s ∧
      accepted? "data.commands_path" halfText = some (.text halfText) ∧
      (set (setAll s calls) "data.commands_path" halfText).1 = .error .halfText ∧
      valueAfter calls ("logging", "level") = .text "DEBUG" ∧
      (load (set (setAll s calls) "data.commands_path" halfText).2).1 = .ok defaults := by
  let calls : List (Text × Text) := [("logging.level", "DEBUG")]
  have haccepted : accepted? "data.commands_path" halfText = some (.text halfText) := by
    decide
  refine ⟨emptyStore, calls, fresh_emptyStore, haccepted,
    set_setAll fresh_emptyStore calls haccepted, by decide, ?_⟩
  let all : List (Text × Text) := calls ++ [(Text.ofString "data.commands_path", halfText)]
  have hlost : filled (valueAfter all) = defaults := by decide
  rw [← hlost, ← (keeps_setAll fresh_emptyStore _).load, setAll_append]

end CommandCompletion.Settings
