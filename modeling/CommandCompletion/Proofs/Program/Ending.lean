import Mathlib
import CommandCompletion.Proofs.Program.Request
import CommandCompletion.Proofs.Report.Shown
import CommandCompletion.Proofs.Settings.Holding

namespace CommandCompletion.Program

open Settings (Holds loaded accepted? printing)
open Report (Shown)

variable {α β ε : Type} {mode : Mode} {c : Choices} {w : World} {p : α → Prop}

-- A step comes to its end or stops with a code, and does not crash.
def Ends (x : Action α) (w : World) (p : α → Prop) : Prop :=
  Yields x w (fun a _ => p a) fun stop _ => ∃ code, stop = .exit code

-- A result that is gone on with, or a fault that is reported.
def Handled (reported : ε → Bool) (result : Except ε α) (next : α → Prop) : Prop :=
  match result with
  | .ok a => next a
  | .error fault => reported fault

theorem Handled.congr {reported : ε → Bool} {result : Except ε α} {next next' : α → Prop}
    (h : ∀ a, next a ↔ next' a) : Handled reported result next ↔ Handled reported result next' := by
  cases result with
  | ok a => exact h a
  | error fault => exact Iff.rfl

theorem not_yields {x : Action α} : ¬Yields x w (fun _ _ => False) fun _ _ => False := by
  unfold Yields
  split <;> exact id

theorem ends_log {records : List Record} {f : Unit → Action α} :
    Ends (log records >>= f) w p ↔
      Ends (f ()) { w with records := w.records ++ Record.kept w.level records } p :=
  yields_bind

theorem ends_unless {q : Prop} [Decidable q] {crashed : Crash} {next : Unit → Action α} :
    Ends (if q then crash crashed >>= next else next ()) w p ↔ ¬q ∧ Ends (next ()) w p := by
  unfold Ends
  rw [yields_unless]
  split <;> simp [*]

theorem ends_write {o : Output} :
    Ends (write o) w (fun _ => True) ↔ ∀ m ∈ o, m.channel = .out → m.text.hasHalf = false := by
  induction o generalizing w with
  | nil => exact iff_of_true trivial (List.forall_mem_nil _)
  | cons m o ih =>
    refine yields_bind.trans ?_
    rw [List.forall_mem_cons, send, yields_unless]
    split
    · next half =>
      simp only [Bool.and_eq_true, decide_eq_true_eq] at half
      refine iff_of_false ?_ fun h => ?_
      · rintro ⟨_, ⟨⟩⟩
      · rw [h.1 half.1] at half
        exact Bool.false_ne_true half.2
    · next whole =>
      simp only [Bool.and_eq_true, decide_eq_true_eq, not_and, Bool.not_eq_true] at whole
      exact ih.trans (and_iff_right whole).symm

theorem ends_report {made : Report} : Ends (report made) w (fun _ => True) ↔ Shown made := by
  cases made with
  | ok o =>
    refine ends_write.trans ⟨fun h => ⟨o, rfl, h⟩, ?_⟩
    rintro ⟨_, ⟨⟩, h⟩
    exact h
  | error fault =>
    refine iff_of_false (fun h => ?_) nofun
    refine not_yields ((h.and (yields_report _ w)).mono ?_ ?_)
    · rintro _ w' ⟨-, o, ho, -⟩
      cases ho
    · rintro _ w' ⟨⟨code, rfl⟩, crashed, hcrashed⟩
      cases hcrashed

-- A problem is always reported.
theorem ends_fail {message : Text} {done : α → World → Prop} :
    Yields (fail mode message) w done fun stop _ => ∃ code, stop = .exit code :=
  yields_bind.mpr <| (ends_report.mpr (Report.shown_problem mode message)).mono
    (fun _ _ _ => ⟨1, rfl⟩) fun _ _ h => h

theorem ends_load {path : FilePath} {bytes : ByteArray} {f : Dict Value → Action α}
    (holds : Holds w.store path bytes) : Ends (onSettings mode Settings.load >>= f) w p ↔
      Handled isReported (loaded bytes) fun settings => Ends (f settings) w p := by
  unfold Ends
  rw [yields_bind, yields_onSettings, holds.load]
  cases loaded bytes with
  | ok settings => exact Iff.rfl
  | error fault =>
    dsimp only [Handled]
    split
    · next reported => exact iff_of_true ends_fail reported
    · next unreported => exact iff_of_false nofun unreported

theorem ends_onLoad {result : Except LoadFault β} {f : β → Action α} :
    Ends (onLoad mode result >>= f) w p ↔
      Handled isReportedLoad result fun b => Ends (f b) w p := by
  cases result with
  | ok b => exact Iff.rfl
  | error fault =>
    refine yields_bind.trans ?_
    dsimp only [onLoad, Handled]
    split
    · next reported => exact iff_of_true ends_fail reported
    · next unreported => exact iff_of_false nofun unreported

theorem ends_onGrammar {found : Except RedirectFault β} {f : β → Action α} :
    Ends (onGrammar mode found >>= f) w p ↔
      ∀ b, found = .ok b → Ends (f b) w p := by
  cases found with
  | ok b =>
    refine ⟨?_, fun h => h b rfl⟩
    rintro h _ ⟨⟩
    exact h
  | error fault => exact iff_of_true (yields_bind.mpr ends_fail) nofun

-- The members of a section, unless it is no table. A section that is missing has none.
def members? (settings : Dict Value) (part : Text) : Option (Dict Value) :=
  match (settings.get? part).getD (.table []) with
  | .table members => some members
  | _ => none

-- What is loaded from the path that a setting gives, or is built in if it gives none. The path has
-- to be a text.
def Chosen (given : Option Value) (load : Text → Except LoadFault β) (bundled : β)
    (next : β → Prop) : Prop :=
  match given.filter (·.isGiven) with
  | none => next bundled
  | some (.text path) => Handled isReportedLoad (load path) next
  | some _ => False

-- The commands that the settings choose.
def Serves (s : Store) (settings : Dict Value) (next : CommandSet → Prop) : Prop :=
  ∃ members, members? settings "data" = some members ∧
    Chosen (Dict.get? members "commands_path") (Loading.grammar s) Sample.grammar fun g =>
      Chosen (Dict.get? members "registries_path") (Loading.registries s) Sample.registries fun r =>
        next ⟨g, r⟩

theorem ends_sectionOf {settings : Dict Value} {part : Text} {f : Dict Value → Action α} :
    Ends (sectionOf settings part >>= f) w p ↔
      ∃ members, members? settings part = some members ∧ Ends (f members) w p := by
  unfold sectionOf members?
  cases (settings.get? part).getD (.table []) with
  | table members =>
    exact ⟨fun h => ⟨members, rfl, h⟩, fun ⟨_, h, hends⟩ => Option.some.inj h ▸ hends⟩
  | _ => exact iff_of_false nofun fun ⟨_, h, _⟩ => nomatch h

theorem ends_loadData {load : Store → Text → Except LoadFault β} {records : β → Text → List Record}
    {bundled : β} {noted : List Record} {given : Option Value} {f : β → Action α} {next : β → Prop}
    (hnext : ∀ b w', w'.store = w.store → (Ends (f b) w' p ↔ next b)) :
    Ends (loadData mode load records bundled noted (given.filter (·.isGiven)) >>= f) w p ↔
      Chosen given (load w.store) bundled next := by
  unfold Chosen
  cases given.filter (·.isGiven) with
  | none => exact hnext _ _ rfl
  | some value =>
    cases value with
    | text path =>
      rw [loadData, bind_assoc]
      refine yields_bind.trans (yields_get.trans ?_)
      rw [bind_assoc]
      exact ends_onLoad.trans (Handled.congr fun b => hnext b _ rfl)
    | _ => exact iff_of_false nofun id

theorem ends_commandSet {path : FilePath} {bytes : ByteArray} {f : CommandSet → Action α}
    {next : CommandSet → Prop} (hcommands : c.commands = none) (hregistries : c.registries = none)
    (holds : Holds w.store path bytes)
    (hnext : ∀ set w', w'.store = w.store → (Ends (f set) w' p ↔ next set)) :
    Ends (commandSet c >>= f) w p ↔
      Handled isReported (loaded bytes) fun settings => Serves w.store settings next := by
  have hpath (settings : Dict Value) (name : Text) {f : Option Value → Action α} :
      Ends (dataPath settings none name >>= f) w p ↔
        ∃ members, members? settings "data" = some members ∧
          Ends (f ((Dict.get? members name).filter (·.isGiven))) w p := by
    rw [dataPath, bind_assoc]
    exact ends_sectionOf
  rw [commandSet, hcommands, hregistries, loadGrammar_eq, loadRegistries_eq, bind_assoc,
    ends_load holds]
  refine Handled.congr fun settings => ?_
  rw [bind_assoc, hpath]
  refine exists_congr fun members => and_congr_right fun hmembers => ?_
  rw [bind_assoc, hpath]
  simp only [hmembers, Option.some.injEq, exists_eq_left', bind_assoc]
  refine ends_loadData fun g w' hw' => ?_
  rw [← hw']
  exact ends_loadData fun r w'' hw'' => hnext ⟨g, r⟩ w'' (hw''.trans hw')

-- The settings after one of them was set, if they can be printed.
def changed (bytes : ByteArray) (key : Text) (value : Value) :
    Except Settings.Fault (Dict Value) := do
  let config ← Settings.updateSections (← loaded bytes)
    [((Settings.splitKey key).1, .table [((Settings.splitKey key).2, value)])]
  printing config
  return config

-- What a settings file has to hold for a request to be answered or refused in order.
def Answerable (c : Choices) (s : Store) (path : FilePath) (bytes : ByteArray) : Request → Prop
  | .complete line =>
    Handled isReported (loaded bytes) fun settings => Serves s settings fun set =>
      ∀ cs, set.complete line = .ok cs → Shown (Report.candidates c.mode line cs)
  | .parse line =>
    Handled isReported (loaded bytes) fun settings => Serves s settings fun set =>
      ∀ parse, set.parse line = .ok parse → Shown (Report.parse c.mode line parse)
  | .tree names depth =>
    Handled isReported (loaded bytes) fun settings => Serves s settings fun set =>
      ∀ spot, set.grammar.find names = .ok (some spot) → ∀ target, spot.resolve = .ok target →
        (c.mode = .json → target.node.depth ≤ Node.maxDepth) ∧
          Shown (Report.tree c.mode names depth target.node)
  | .configShow =>
    Handled isReported (loaded bytes) fun settings =>
      showsLong c.mode settings = false ∧ showsDeep c.mode settings = false ∧
        Shown (Report.settings c.mode settings)
  | .configSet key raw =>
    ∀ value, accepted? key raw = some value →
      Handled isReported (changed bytes key value) fun _ => Shown (Report.setting c.mode key value)
  | .configPath => Shown (Report.path c.mode path)

-- The level of the log is a text in a table.
def HasLevel (settings : Dict Value) : Prop :=
  ∃ members name, settings.get? "logging" = some (.table members) ∧
    Dict.get? members "level" = some (.text name)

-- What a settings file has to hold for a run to come to its end or to report a problem. Unless it
-- was chosen, the level of the log has to be there.
def Withstands (c : Choices) (s : Store) (path : FilePath) (bytes : ByteArray) (r : Request) :
    Prop :=
  match c.level with
  | some _ => Answerable c s path bytes r
  | none =>
    Handled isReported (loaded bytes) fun settings =>
      HasLevel settings ∧ Answerable c s path bytes r

variable {path : FilePath} {bytes : ByteArray} {r : Request}

theorem ends_configSet {key raw : Text} (holds : Holds w.store path bytes) :
    Ends (configSet c key raw) w (fun _ => True) ↔
      Answerable c w.store path bytes (.configSet key raw) := by
  have hreport {found : Option Value} {value : Value} (h : found = some value) (w : World) :
      Ends (report (Report.setting c.mode key (found.getD .null))) w (fun _ => True) ↔
        Shown (Report.setting c.mode key value) := by
    rw [h]
    exact ends_report
  refine yields_bind.trans (yields_onSettings.trans ?_)
  cases haccepted : accepted? key raw with
  | none =>
    refine iff_of_true ?_ fun value h => nomatch haccepted.symm.trans h
    rcases Settings.set_of_refused w.store haccepted with ⟨-, hset⟩ | ⟨_, fault, -, -, hset⟩ <;>
      rw [hset]
    · exact ends_fail
    · exact ends_fail
  | some value =>
    have hchanged : (Settings.set w.store key raw).1 = changed bytes key value :=
      holds.set haccepted
    rw [Answerable]
    simp only [haccepted, Option.some.injEq, forall_eq', ← hchanged]
    rcases hset : Settings.set w.store key raw with ⟨fault | settings, s'⟩
    · dsimp only [Handled]
      split
      · next reported => exact iff_of_true ends_fail reported
      · next unreported => exact iff_of_false nofun unreported
    · obtain ⟨found, hfound, hvalue⟩ := Settings.get?_of_set hset
      cases haccepted.symm.trans hfound
      exact hreport hvalue _

theorem ends_answer (hcommands : c.commands = none) (hregistries : c.registries = none)
    (holds : Holds w.store path bytes) :
    Ends (answer c r) w (fun _ => True) ↔ Answerable c w.store path bytes r := by
  cases r with
  | complete line =>
    exact ends_commandSet hcommands hregistries holds fun set w' hw' =>
      ends_log.trans (ends_onGrammar.trans (forall₂_congr fun cs _ => ends_report))
  | parse line =>
    exact ends_commandSet hcommands hregistries holds fun set w' hw' =>
      ends_log.trans (ends_onGrammar.trans (forall₂_congr fun cs _ => ends_report))
  | tree names depth =>
    have hshown {g : Grammar} {spot : g.Spot} {w : World} : Ends (do
          log spot.records
          let target ← onGrammar c.mode spot.resolve
          if c.mode = .json && Node.maxDepth < target.node.depth then crash .tooDeep
          report (Report.tree c.mode names depth target.node)) w (fun _ => True) ↔
        ∀ target, spot.resolve = .ok target →
          (c.mode = .json → target.node.depth ≤ Node.maxDepth) ∧
            Shown (Report.tree c.mode names depth target.node) := by
      refine ends_log.trans (ends_onGrammar.trans (forall₂_congr fun target _ => ?_))
      refine ends_unless.trans (and_congr ?_ ends_report)
      simp only [Bool.and_eq_true, decide_eq_true_eq, not_and, not_lt]
    refine ends_commandSet hcommands hregistries holds fun set w' hw' =>
      ends_log.trans (ends_onGrammar.trans ⟨fun h spot hspot => ?_, fun h found hfound => ?_⟩)
    · exact hshown.mp (h (some spot) hspot)
    · cases found with
      | none => exact ends_fail
      | some spot => exact hshown.mpr (h spot hfound)
  | configShow =>
    refine (ends_load holds).trans (Handled.congr fun settings => ?_)
    refine ends_unless.trans (and_congr (Bool.not_eq_true _).to_iff ?_)
    exact ends_unless.trans (and_congr (Bool.not_eq_true _).to_iff ends_report)
  | configSet key raw => exact ends_configSet holds
  | configPath =>
    refine yields_bind.trans (yields_onSettings.trans ?_)
    rw [holds.configPath]
    exact ends_report

theorem ends_reply (hcommands : c.commands = none) (hregistries : c.registries = none)
    (holds : Holds w.store path bytes) :
    Ends (reply c r) w (fun _ => True) ↔ Withstands c w.store path bytes r := by
  unfold reply Withstands logLevel
  cases c.level with
  | some level => exact ends_answer hcommands hregistries holds
  | none =>
    dsimp only
    rw [bind_assoc]
    refine (ends_load holds).trans (Handled.congr fun settings => ?_)
    have hanswer (name : Text) : HasLevel settings →
        (Ends (pure (Level.ofName name) >>= fun level => do
          modify fun w => { w with level }
          answer c r) w (fun _ => True) ↔
            HasLevel settings ∧ Answerable c w.store path bytes r) := fun h =>
      (ends_answer hcommands hregistries (w := { w with level := Level.ofName name })
        holds).trans (and_iff_right h).symm
    have hcrash {crashed : Crash} (h : ¬HasLevel settings) :
        Ends ((crash crashed : Action Level) >>= fun level => do
          modify fun w => { w with level }
          answer c r) w (fun _ => True) ↔
            HasLevel settings ∧ Answerable c w.store path bytes r :=
      iff_of_false nofun fun both => h both.1
    cases hlogging : settings.get? "logging" with
    | none => exact hcrash (by simp [HasLevel, hlogging])
    | some logging =>
      cases logging with
      | table members =>
        dsimp only
        cases hname : Dict.get? members "level" with
        | none => exact hcrash (by simp [HasLevel, hlogging, hname])
        | some value =>
          cases value with
          | text name => exact hanswer name ⟨members, name, hlogging, hname⟩
          | _ => exact hcrash (by simp [HasLevel, hlogging, hname])
      | _ => exact hcrash (by simp [HasLevel, hlogging])

variable {s : Store} {words : List Text}

-- Whatever the settings file holds, a run crashes exactly unless the file withstands it. A run that
-- does not crash has done its work, or has reported one problem.
theorem run_withstands_settings_iff (asked : asked? s words = some (c, r))
    (hcommands : c.commands = none) (hregistries : c.registries = none)
    (holds : Holds s path bytes) (lines : List (Option Text)) :
    ((run s words lines).crash = none ↔ Withstands c s path bytes r) ∧
      ((run s words lines).crash = none → (run s words lines).code = 0 ∨
        (run s words lines).code = 1 ∧ ∃ message o, Report.problem c.mode message = .ok o ∧
          (run s words lines).world.output = sent o) := by
  have hends := ends_reply (w := { store := s }) (r := r) hcommands hregistries holds
  have hcloses := (reportFrame c.mode).closes_reply (fun _ _ => True)
    (fun _ _ _ _ h => h) (fun made w => ?_) r { store := s }
  · rw [run_of_asked asked, ← hends]
    unfold Ends Yields
    unfold Yields at hcloses
    cases hrun : (reply c r).run { store := s } with
    | ok a w => exact ⟨iff_of_true rfl trivial, fun _ => .inl rfl⟩
    | error stop w =>
      rw [hrun] at hcloses
      cases stop with
      | crash crashed => exact ⟨iff_of_false nofun nofun, nofun⟩
      | exit code => exact ⟨iff_of_true rfl ⟨code, rfl⟩, fun _ => .inr hcloses⟩
  · refine (yields_report made w).mono (fun _ _ _ => trivial) ?_
    rintro _ w' ⟨crashed, rfl⟩
    trivial

-- A working directory with a settings file.
def settingsStore (bytes : ByteArray) : Store where
  entries := [(["config", "config.toml"], .file bytes), (["config"], .folder)]
  environment := [("MCCOMPLETE_CONFIG_DIR", "config")]

theorem holds_settingsStore (bytes : ByteArray) :
    Holds (settingsStore bytes) ⟨"", ["config", "config.toml"]⟩ bytes :=
  ⟨⟨"", ["config"]⟩, by cbv, by cbv, by cbv⟩

-- A level of the log that is a number is not withstood.
theorem run_withstands_settings_iff_sample :
    let bytes := "[logging]\nlevel = 5\n".toUTF8
    ¬Withstands ⟨.human, none, none, none⟩ (settingsStore bytes) ⟨"", ["config", "config.toml"]⟩ bytes
      .configShow := by
  intro bytes
  have asked : asked? (settingsStore bytes) ["config", "show"] =
      some (⟨.human, none, none, none⟩, .configShow) := by decide
  have crashed : (run (settingsStore bytes) ["config", "show"] []).crash ≠ none := by
    decide +kernel
  exact fun withstands => crashed
    ((run_withstands_settings_iff asked rfl rfl (holds_settingsStore bytes) []).1.mpr withstands)

-- Bytes that are no text crash a run that shows the settings.
theorem exists_settings_crashing_run : ∃ (s : Store) (words : List Text) (c : Choices)
    (r : Request) (path : FilePath) (bytes : ByteArray), asked? s words = some (c, r) ∧
      c.commands = none ∧ c.registries = none ∧ Holds s path bytes ∧
      (run s words []).crash = some (.settings .notText) :=
  ⟨settingsStore ⟨#[0xff]⟩, ["config", "show"], ⟨.human, none, none, none⟩, .configShow, _, _,
    by decide, rfl, rfl, holds_settingsStore _, by decide⟩

end CommandCompletion.Program
