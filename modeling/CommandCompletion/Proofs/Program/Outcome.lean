import CommandCompletion.Program.Run
import CommandCompletion.Proofs.Text.Half

namespace CommandCompletion

theorem Text.ofString_spelled_ofChars (chars : List Char) :
    Text.ofString (Text.spelled (.ofChars chars)) = .ofChars chars := by
  rw [Text.spelled, Text.ofString, String.toList_ofList]
  refine congrArg Text.ofChars ?_
  rw [Text.ofChars, List.flatMap_map]
  exact List.flatMap_singleton' chars

namespace Program

variable {α β : Type} {c : Choices} {w : World} {done : α → World → Prop}
  {stopped : Stop → World → Prop}

-- What holds of the result of a step, and of its stop if it comes to none.
def Yields (x : Action α) (w : World) (done : α → World → Prop) (stopped : Stop → World → Prop) :
    Prop :=
  match x.run w with
  | .ok a w => done a w
  | .error stop w => stopped stop w

theorem Yields.mono {done' : α → World → Prop} {stopped' : Stop → World → Prop} {x : Action α}
    (h : Yields x w done stopped) (hdone : ∀ a w, done a w → done' a w)
    (hstopped : ∀ stop w, stopped stop w → stopped' stop w) : Yields x w done' stopped' := by
  unfold Yields at h ⊢
  cases hx : x.run w with
  | ok a w => rw [hx] at h; exact hdone a w h
  | error stop w => rw [hx] at h; exact hstopped stop w h

-- Two things that hold of a step hold of it together.
theorem Yields.and {done' : α → World → Prop} {stopped' : Stop → World → Prop} {x : Action α}
    (h : Yields x w done stopped) (h' : Yields x w done' stopped') :
    Yields x w (fun a w => done a w ∧ done' a w) fun stop w => stopped stop w ∧ stopped' stop w := by
  unfold Yields at h h' ⊢
  cases hx : x.run w with
  | ok a w => rw [hx] at h h'; exact ⟨h, h'⟩
  | error stop w => rw [hx] at h h'; exact ⟨h, h'⟩

-- The result of a step is what running it gives.
theorem yields_run (x : Action α) (w : World) :
    Yields x w (fun a w' => x.run w = .ok a w') fun stop w' => x.run w = .error stop w' := by
  unfold Yields
  cases x.run w <;> rfl

theorem yields_of_run {x : Action α} {a : α} {w' : World} (h : x.run w = .ok a w') :
    Yields x w done stopped ↔ done a w' := by
  unfold Yields
  rw [h]

@[simp]
theorem yields_pure {a : α} : Yields (pure a) w done stopped ↔ done a w :=
  Iff.rfl

@[simp]
theorem yields_bind {x : Action β} {f : β → Action α} : Yields (x >>= f) w done stopped ↔
    Yields x w (fun b w => Yields (f b) w done stopped) stopped := by
  unfold Yields
  rw [EStateM.run_bind]
  cases x.run w <;> rfl

@[simp]
theorem yields_map {x : Action β} {f : β → α} :
    Yields (f <$> x) w done stopped ↔ Yields x w (fun b w => done (f b) w) stopped := by
  unfold Yields
  simp only [EStateM.run, Functor.map, EStateM.map]
  cases x w <;> rfl

@[simp]
theorem yields_get {done : World → World → Prop} : Yields get w done stopped ↔ done w w :=
  Iff.rfl

@[simp]
theorem yields_modify {f : World → World} {done : Unit → World → Prop} :
    Yields (modify f) w done stopped ↔ done () (f w) :=
  Iff.rfl

@[simp]
theorem yields_log {records : List Record} {done : Unit → World → Prop} :
    Yields (log records) w done stopped ↔
      done () { w with records := w.records ++ Record.kept w.level records } :=
  Iff.rfl

-- A step that is taken unless something is the case that nobody catches.
theorem yields_unless {p : Prop} [Decidable p] {crashed : Crash} {next : Unit → Action α} :
    Yields (if p then crash crashed >>= next else next ()) w done stopped ↔
      if p then stopped (.crash crashed) w else Yields (next ()) w done stopped := by
  split <;> rfl

theorem yields_onSettings {mode : Mode} {operate : Store → Settings.Outcome α} :
    Yields (onSettings mode operate) w done stopped ↔
      match operate w.store with
      | (.ok a, store) => done a { w with store }
      | (.error fault, store) =>
        if isReported fault then Yields (fail mode fault.message) { w with store } done stopped
        else stopped (.crash (.settings fault)) { w with store } := by
  rcases hoperate : operate w.store with ⟨fault | a, store⟩
  · simp only [onSettings, yields_bind, yields_get, hoperate, yields_modify]
    split <;> rfl
  · simp only [onSettings, yields_bind, yields_get, hoperate, yields_modify, yields_pure]

-- Whatever is to be done next, a failure does not come to it.
theorem yields_fail {mode : Mode} (message : Text) (w : World) :
    Yields (fail mode message) w done fun _ _ => True :=
  yields_bind.mpr ((yields_run _ w).mono (fun _ _ _ => trivial) fun _ _ _ => trivial)

-- An operation on the settings that came to its end.
theorem operate_of_onSettings {mode : Mode} {operate : Store → Settings.Outcome α} {a : α}
    {w' : World} (h : (onSettings mode operate).run w = .ok a w') :
    ∃ s, operate w.store = (.ok a, s) := by
  have hyields : Yields (onSettings mode operate) w (fun b _ => ∃ s, operate w.store = (.ok b, s))
      fun _ _ => True := by
    rw [yields_onSettings]
    rcases operate w.store with ⟨fault | b, s⟩
    · dsimp only
      split
      · exact yields_fail _ _
      · trivial
    · exact ⟨s, rfl⟩
  exact (yields_of_run h).mp hyields

-- The data of the file that a path names, or the bundled data, and what is logged of either.
def loadData (mode : Mode) (load : Store → Text → Except LoadFault α)
    (records : α → Text → List Record) (bundled : α) (noted : List Record) :
    Option Value → Action α
  | none => do
    log noted
    return bundled
  | some (.text path) => do
    let a ← onLoad mode (load (← get).store path)
    log (records a path)
    return a
  | some _ => crash .pathNotText

theorem loadGrammar_eq (mode : Mode) : loadGrammar mode = loadData mode Loading.grammar
    Loading.grammarRecords Sample.grammar [Sample.grammar.buildRecord] :=
  rfl

theorem loadRegistries_eq (mode : Mode) : loadRegistries mode = loadData mode Loading.registries
    Loading.registryRecords Sample.registries Sample.registries.warnings :=
  rfl

-- A property that the simplest steps have, and every chain of steps that have it.
structure Chains (mode : Mode) (P : ∀ {α : Type}, Action α → Prop) : Prop where
  done {α : Type} (a : α) : P (pure a)
  crashed {α : Type} (crashed : Crash) : P (crash crashed : Action α)
  failed {α : Type} (message : Text) : P (fail mode message : Action α)
  logged (records : List Record) : P (log records)
  looked : P get
  bind {α β : Type} {x : Action β} {f : β → Action α} (hx : P x) (hf : ∀ b, P (f b)) : P (x >>= f)

namespace Chains

variable {mode : Mode} {P : ∀ {α : Type}, Action α → Prop}

theorem onLoad (h : Chains mode P) (loaded : Except LoadFault α) :
    P (Program.onLoad mode loaded) := by
  cases loaded with
  | ok a => exact h.done a
  | error fault =>
    unfold Program.onLoad
    dsimp only
    split
    · exact h.failed _
    · exact h.crashed _

theorem dataPath (h : Chains mode P) (settings : Dict Value) (chosen : Option Text)
    (name : Text) : P (Program.dataPath settings chosen name) := by
  unfold Program.dataPath
  split
  · exact h.done _
  · refine h.bind ?_ fun _ => h.done _
    unfold sectionOf
    split
    · exact h.done _
    · exact h.crashed _

theorem loadData (h : Chains mode P) (load : Store → Text → Except LoadFault α)
    (records : α → Text → List Record) (bundled : α) (noted : List Record) (path : Option Value) :
    P (Program.loadData mode load records bundled noted path) := by
  unfold Program.loadData
  split
  · exact h.bind (h.logged _) fun _ => h.done _
  · exact h.bind h.looked fun _ => h.bind (h.onLoad _) fun _ =>
      h.bind (h.logged _) fun _ => h.done _
  · exact h.crashed _

theorem loadGrammar (h : Chains mode P) (path : Option Value) :
    P (Program.loadGrammar mode path) :=
  loadGrammar_eq mode ▸ h.loadData _ _ _ _ path

theorem loadRegistries (h : Chains mode P) (path : Option Value) :
    P (Program.loadRegistries mode path) :=
  loadRegistries_eq mode ▸ h.loadData _ _ _ _ path

end Chains

-- What steps keep of the world that they start from, and how they stop, when reports are written in
-- one mode.
structure Frame (mode : Mode) where
  kept : World → World → Prop
  stopped : World → Stop → World → Prop
  refl (w : World) : kept w w
  trans {w w' w'' : World} : kept w w' → kept w' w'' → kept w w''
  stopped_after {w w' w'' : World} {stop : Stop} : kept w w' → stopped w' stop w'' →
    stopped w stop w''
  kept_records (w : World) (records : List Record) : kept w { w with records }
  kept_store (w : World) (store : Store) : kept w { w with store }
  kept_level (w : World) (level : Level) : kept w { w with level }
  crashed (w : World) (crashed : Crash) : stopped w (.crash crashed) w
  failed (w : World) (message : Text) :
    Yields (report (Report.problem mode message)) w (fun _ => stopped w (.exit 1)) (stopped w)

namespace Frame

variable {mode : Mode} (F : Frame mode)

-- A step that keeps to a frame.
def Keeps (x : Action α) : Prop :=
  ∀ w, Yields x w (fun _ => F.kept w) (F.stopped w)

theorem keeps_pure (a : α) : F.Keeps (pure a) :=
  fun w => F.refl w

theorem keeps_crash (crashed : Crash) : F.Keeps (crash crashed : Action α) :=
  fun w => F.crashed w crashed

theorem keeps_log (records : List Record) : F.Keeps (log records) :=
  fun w => F.kept_records w _

theorem keeps_get : F.Keeps get :=
  fun w => F.refl w

variable {F}

theorem Keeps.bind {x : Action β} {f : β → Action α} (hx : F.Keeps x) (hf : ∀ b, F.Keeps (f b)) :
    F.Keeps (x >>= f) :=
  fun w => yields_bind.mpr <| (hx w).mono
    (fun b w' hw' => (hf b w').mono (fun _ _ => F.trans hw') fun _ _ => F.stopped_after hw')
    fun _ _ h => h

theorem Keeps.unless {p : Prop} [Decidable p] {crashed : Crash} {next : Unit → Action α}
    (h : F.Keeps (next ())) : F.Keeps (if p then crash crashed >>= next else next ()) := by
  split
  · exact F.keeps_crash crashed
  · exact h

variable (F)

-- A failure never goes on.
theorem yields_fail (w : World) (message : Text) {done : α → World → Prop} :
    Yields (fail mode message) w done (F.stopped w) :=
  yields_bind.mpr ((F.failed w message).mono (fun _ _ h => h) fun _ _ h => h)

theorem keeps_fail (message : Text) : F.Keeps (fail mode message : Action α) :=
  fun w => F.yields_fail w message

theorem keeps_onSettings (operate : Store → Settings.Outcome α) :
    F.Keeps (onSettings mode operate) := by
  intro w
  rw [yields_onSettings]
  split
  · exact F.kept_store w _
  · split
    · exact (F.keeps_fail _ _).mono (fun _ _ => F.trans (F.kept_store w _))
        fun _ _ => F.stopped_after (F.kept_store w _)
    · exact F.stopped_after (F.kept_store w _) (F.crashed _ _)

theorem chains : Chains mode F.Keeps where
  done := F.keeps_pure
  crashed := F.keeps_crash
  failed := F.keeps_fail
  logged := F.keeps_log
  looked := F.keeps_get
  bind := Keeps.bind

theorem keeps_onGrammar (found : Except RedirectFault α) : F.Keeps (onGrammar mode found) := by
  cases found with
  | ok a => exact F.keeps_pure a
  | error fault => exact F.keeps_fail _

variable {done : World → World → Prop}

-- A step that comes to what is to be done from a world, unless it stops as the frame allows.
def Closes (done : World → World → Prop) (x : Action Unit) : Prop :=
  ∀ w, Yields x w (fun _ => done w) (F.stopped w)

theorem closes_fail (message : Text) : F.Closes done (fail mode message) :=
  fun w => F.yields_fail w message

variable {F}

theorem Closes.unless {p : Prop} [Decidable p] {crashed : Crash} {next : Unit → Action Unit}
    (h : F.Closes done (next ())) :
    F.Closes done (if p then crash crashed >>= next else next ()) := by
  split
  · exact fun w => F.crashed w crashed
  · exact h

-- What is done after steps that keep to the frame is done.
theorem Keeps.closes {x : Action β} {f : β → Action Unit} (hx : F.Keeps x)
    (after : ∀ w w' w'', F.kept w w' → done w' w'' → done w w'')
    (hf : ∀ b, F.Closes done (f b)) : F.Closes done (x >>= f) :=
  fun w => yields_bind.mpr <| (hx w).mono
    (fun b w' hw' => (hf b w').mono (fun _ _ => after _ _ _ hw') fun _ _ => F.stopped_after hw')
    fun _ _ h => h

variable {c : Choices} (F : Frame c.mode)

theorem keeps_logLevel : F.Keeps (logLevel c) := by
  unfold logLevel
  split
  · exact F.keeps_pure _
  · refine (F.keeps_onSettings _).bind fun settings => ?_
    split
    · split
      · exact F.keeps_pure _
      · exact F.keeps_crash _
    · exact F.keeps_crash _

theorem keeps_commandSet : F.Keeps (commandSet c) :=
  (F.keeps_onSettings _).bind fun _ => (F.chains.dataPath _ _ _).bind fun _ =>
    (F.chains.dataPath _ _ _).bind fun _ => (F.chains.loadGrammar _).bind fun _ =>
      (F.chains.loadRegistries _).bind fun _ => F.keeps_pure _

-- Whatever was asked for is looked for first and reported last.
theorem closes_answer (after : ∀ w w' w'', F.kept w w' → done w' w'' → done w w'')
    (hreport : ∀ made, F.Closes done (report made)) (r : Request) :
    F.Closes done (answer c r) := by
  cases r with
  | complete line =>
    exact F.keeps_commandSet.closes after fun _ => (F.keeps_log _).closes after fun _ =>
      (F.keeps_onGrammar _).closes after fun _ => hreport _
  | parse line =>
    exact F.keeps_commandSet.closes after fun _ => (F.keeps_log _).closes after fun _ =>
      (F.keeps_onGrammar _).closes after fun _ => hreport _
  | tree path depth =>
    refine F.keeps_commandSet.closes after fun _ => (F.keeps_log _).closes after fun _ =>
      (F.keeps_onGrammar _).closes after fun found => ?_
    cases found with
    | none => exact F.closes_fail _
    | some spot =>
      exact (F.keeps_log _).closes after fun _ => (F.keeps_onGrammar _).closes after fun _ =>
        (hreport _).unless
  | configShow =>
    exact (F.keeps_onSettings _).closes after fun _ => Closes.unless (hreport _).unless
  | configSet key raw => exact (F.keeps_onSettings _).closes after fun _ => hreport _
  | configPath => exact (F.keeps_onSettings _).closes after fun _ => hreport _

end Frame

-- What of an output reaches its channels: the numbers of halves stand for them.
def sent (o : Output) : Output :=
  o.map fun m => { m with text := .ofString m.text.spelled }

theorem yields_write (o : Output) (w : World) :
    Yields (write o) w (fun _ w' => w'.output = w.output ++ sent o)
      fun stop _ => ∃ crashed, stop = .crash crashed := by
  induction o generalizing w with
  | nil => exact (List.append_nil _).symm
  | cons m o ih =>
    refine yields_bind.mpr ?_
    rw [send, yields_unless]
    split
    · exact ⟨_, rfl⟩
    · refine (ih _).mono (fun _ w' h => h.trans ?_) fun _ _ h => h
      rw [List.append_assoc]
      rfl

-- A report is sent whole, or crashes the run.
theorem yields_report (made : Report) (w : World) :
    Yields (report made) w (fun _ w' => ∃ o, made = .ok o ∧ w'.output = w.output ++ sent o)
      fun stop _ => ∃ crashed, stop = .crash crashed := by
  cases made with
  | ok o => exact (yields_write o w).mono (fun _ _ h => ⟨o, rfl, h⟩) fun _ _ h => h
  | error fault =>
    exact yields_bind.mpr ((yields_write _ w).mono (fun _ _ _ => ⟨_, rfl⟩) fun _ _ h => h)

-- Nothing is sent before a run fails, which it does with one problem and the code of a failure, or
-- has its answer.
def reportFrame (mode : Mode) : Frame mode where
  kept w w' := w'.output = w.output
  stopped w stop w' :=
    match stop with
    | .crash _ => True
    | .exit code => code = 1 ∧ ∃ message o, Report.problem mode message = .ok o ∧
        w'.output = w.output ++ sent o
  refl _ := rfl
  trans h h' := h'.trans h
  stopped_after {w w' w'' stop} h h' := by
    cases stop with
    | crash _ => trivial
    | exit code => rwa [← h]
  kept_records _ _ := rfl
  kept_store _ _ := rfl
  kept_level _ _ := rfl
  crashed _ _ := trivial
  failed w message := by
    refine (yields_report _ w).mono (fun _ w' ⟨o, ho, h⟩ => ⟨rfl, message, o, ho, h⟩) ?_
    rintro _ w' ⟨crashed, rfl⟩
    trivial

-- No step sets up a session but the one that is for it.
def sessionFrame (mode : Mode) : Frame mode where
  kept w w' := w'.session = w.session
  stopped _ _ _ := True
  refl _ := rfl
  trans h h' := h'.trans h
  stopped_after _ _ := trivial
  kept_records _ _ := rfl
  kept_store _ _ := rfl
  kept_level _ _ := rfl
  crashed _ _ := trivial
  failed w _ := (yields_run _ w).mono (fun _ _ _ => trivial) fun _ _ _ => trivial

section Session

variable {mode : Mode}

theorem keeps_send (m : Message) : (sessionFrame mode).Keeps (send m) := by
  unfold send
  exact Frame.Keeps.unless fun _ => rfl

theorem keeps_write (o : Output) : (sessionFrame mode).Keeps (write o) := by
  induction o with
  | nil => exact Frame.keeps_pure _ _
  | cons m o ih => exact (keeps_send m).bind fun _ => ih

theorem keeps_report (r : Report) : (sessionFrame mode).Keeps (report r) := by
  cases r with
  | ok o => exact keeps_write o
  | error fault => exact (keeps_write _).bind fun _ => Frame.keeps_crash _ _

end Session

end Program

end CommandCompletion
