import CommandCompletion.Proofs.Program.Outcome

namespace CommandCompletion.Program

variable {α β : Type} {page : Page} {words : List Text} {w : World}

-- A step that ends the run.
def Stops (x : Action α) : Prop :=
  ∀ w, Yields x w (fun _ _ => False) fun _ _ => True

-- A step that comes to the same in every world and leaves it as it is, or else ends the run.
def Settles (x : Action α) : Prop :=
  (∃ a, ∀ w, x.run w = .ok a w) ∨ Stops x

theorem Stops.of_bind {x : Action β} {f : β → Action α} (h : ∀ b, Stops (f b)) : Stops (x >>= f) :=
  fun w => yields_bind.mpr <| (yields_run x w).mono (fun b w' _ => h b w') fun _ _ _ => trivial

theorem Stops.bind {x : Action β} (h : Stops x) (f : β → Action α) : Stops (x >>= f) :=
  fun w => yields_bind.mpr ((h w).mono (fun _ _ h => h.elim) fun _ _ h => h)

theorem stops_exit (code : Nat) : Stops (exit code : Action α) :=
  fun _ => trivial

theorem stops_refuse (fault : UsageFault) : Stops (refuse page fault : Action α) :=
  .of_bind fun _ => stops_exit 2

theorem stops_showHelp : Stops (showHelp page : Action α) :=
  .of_bind fun _ => stops_exit 0

theorem settles_pure (a : α) : Settles (pure a) :=
  .inl ⟨a, fun _ => rfl⟩

theorem Settles.bind {x : Action β} {f : β → Action α} (hx : Settles x)
    (hf : ∀ b, Settles (f b)) : Settles (x >>= f) := by
  rcases hx with ⟨b, hb⟩ | stops
  · rcases hf b with ⟨a, ha⟩ | stops
    · refine .inl ⟨a, fun w => ?_⟩
      rw [EStateM.run_bind, hb w]
      exact ha w
    · refine .inr fun w => ?_
      unfold Yields
      rw [EStateM.run_bind, hb w]
      exact stops w
  · exact .inr (stops.bind f)

-- What settles in one world settles in all.
theorem Settles.run_eq {x : Action α} (h : Settles x) {a : α} {w w' : World}
    (hrun : x.run w = .ok a w') (other : World) : x.run other = .ok a other := by
  rcases h with ⟨b, hb⟩ | stops
  · cases (hb w).symm.trans hrun
    exact hb other
  · exact ((yields_of_run hrun).mp (stops w)).elim

theorem Settles.map {x : Action β} (h : Settles x) (f : β → α) : Settles (f <$> x) := by
  rw [map_eq_pure_bind]
  exact h.bind fun b => settles_pure (f b)

theorem settles_onUsage (read : Except UsageFault α) : Settles (onUsage page read) := by
  cases read with
  | ok a => exact settles_pure a
  | error fault => exact .inr (stops_refuse fault)

theorem settles_scanPage (mixed : Bool) : Settles (scanPage page mixed words) := by
  refine (settles_onUsage _).bind fun scan => ?_
  split
  · exact .inr stops_showHelp
  · exact settles_pure scan

theorem settles_noWords : Settles (noWords page words) := by
  cases words with
  | nil => exact settles_pure ()
  | cons first others => exact .inr (stops_refuse _)

theorem settles_lineWord : Settles (lineWord page words) := by
  refine (settles_scanPage true).bind fun scan => ?_
  split
  · exact settles_pure []
  · exact settles_noWords.bind fun _ => settles_pure _

theorem settles_keyAndValue : Settles (keyAndValue words) := by
  unfold keyAndValue
  split
  · exact .inr (stops_refuse _)
  · exact .inr (stops_refuse _)
  · exact settles_noWords.bind fun _ => settles_pure _

theorem settles_configRequest : Settles (configRequest words) := by
  unfold configRequest
  split
  · exact .inr (.of_bind fun _ => (stops_exit 2).bind _)
  refine (settles_scanPage false).bind fun scan => ?_
  split
  · exact .inr (stops_refuse _)
  · split
    · exact (settles_scanPage true).bind fun _ => settles_noWords.bind fun _ => settles_pure _
    split
    · exact (settles_scanPage true).bind fun _ => settles_keyAndValue.bind fun _ => settles_pure _
    split
    · exact (settles_scanPage true).bind fun _ => settles_noWords.bind fun _ => settles_pure _
    split
    · exact .inr (.of_bind fun _ => stops_refuse _)
    · exact .inr (stops_refuse _)

theorem settles_request (command : Command) : Settles (request command words) := by
  cases command with
  | complete => exact settles_lineWord.map _
  | parse => exact settles_lineWord.map _
  | tree => exact (settles_scanPage true).bind fun _ => (settles_onUsage _).bind fun _ =>
      settles_pure _
  | config => exact settles_configRequest

-- A step that changes nothing unless it ends the run.
def Reads (x : Action α) : Prop :=
  ∀ w, Yields x w (fun _ w' => w' = w) fun _ _ => True

theorem Stops.reads {x : Action α} (h : Stops x) : Reads x :=
  fun w => (h w).mono (fun _ _ h => h.elim) fun _ _ h => h

theorem Settles.reads {x : Action α} (h : Settles x) : Reads x := by
  rcases h with ⟨a, ha⟩ | stops
  · intro w
    unfold Yields
    rw [ha w]
  · exact stops.reads

theorem Reads.bind {x : Action β} {f : β → Action α} (hx : Reads x) (hf : ∀ b, Reads (f b)) :
    Reads (x >>= f) :=
  fun w => yields_bind.mpr ((hx w).mono (fun b _ h => h ▸ hf b _) fun _ _ h => h)

theorem Reads.unless {p : Prop} [Decidable p] {crashed : Crash} {next : Unit → Action α}
    (h : Reads (next ())) : Reads (if p then crash crashed >>= next else next ()) := by
  split
  · exact fun _ => trivial
  · exact h

theorem reads_check (option : Text × Option Text) : Reads (check option) := by
  unfold check
  split
  · exact (settles_pure ()).reads
  split
  · split
    · exact (stops_refuse _).reads
    · exact (settles_pure ()).reads
  · refine Reads.unless (Reads.unless (Reads.bind (fun _ => rfl) fun w => ?_))
    split
    · exact (stops_refuse _).reads
    · exact (settles_pure ()).reads

theorem reads_forM_check (options : List (Text × Option Text)) : Reads (options.forM check) := by
  induction options with
  | nil => exact (settles_pure ()).reads
  | cons option options ih => exact (reads_check option).bind fun _ => ih

theorem reads_choices (words : List Text) : Reads (choices words) := by
  refine (settles_onUsage _).reads.bind fun scan => ?_
  split
  · split
    · exact stops_showHelp.reads
    · exact (Stops.of_bind fun _ => stops_exit 0).reads
  · exact (reads_forM_check _).bind fun _ => (settles_pure _).reads

-- What was asked for, after the level of the log is known.
def reply (c : Choices) (r : Request) : Action Unit := do
  let level ← logLevel c
  modify fun w => { w with level }
  answer c r

theorem Frame.closes_reply {c : Choices} (F : Frame c.mode) (done : World → World → Prop)
    (after : ∀ w w' w'', F.kept w w' → done w' w'' → done w w'')
    (hreport : ∀ made, F.Closes done (report made)) (r : Request) : F.Closes done (reply c r) :=
  F.keeps_logLevel.closes after fun level =>
    Keeps.closes (fun w => F.kept_level w level) after fun _ => F.closes_answer after hreport r

theorem keeps_reply (c : Choices) (r : Request) : (sessionFrame c.mode).Keeps (reply c r) :=
  (sessionFrame c.mode).closes_reply (sessionFrame c.mode).kept
    (fun _ _ _ => (sessionFrame c.mode).trans) keeps_report r

-- The choices and the request of a command line that is accepted.
def asked? (s : Store) (words : List Text) : Option (Choices × Request) :=
  match (choices words).run { store := s } with
  | .ok (c, name :: rest) w =>
    match (Command.ofName? name).map fun command => (request command rest).run w with
    | some (.ok r _) => some (c, r)
    | _ => none
  | _ => none

variable {s : Store} {c : Choices} {r : Request}

theorem asked?_eq_some (h : asked? s words = some (c, r)) :
    ∃ name rest w, (choices words).run { store := s } = .ok (c, name :: rest) w ∧
      ∃ command, Command.ofName? name = some command ∧
        ∃ w', (request command rest).run w = .ok r w' := by
  unfold asked? at h
  split at h
  · next c name rest w hchoices =>
    split at h
    · next hrequest =>
      cases h
      obtain ⟨command, hcommand, hrun⟩ := Option.map_eq_some_iff.mp hrequest
      exact ⟨name, rest, w, hchoices, command, hcommand, _, hrun⟩
    · cases h
  · cases h

theorem start_of_asked (asked : asked? s words = some (c, r)) :
    (start words).run { store := s } = (reply c r).run { store := s } := by
  obtain ⟨name, rest, w, hchoices, command, hcommand, _, hrequest⟩ := asked?_eq_some asked
  obtain rfl : w = { store := s } := (yields_of_run hchoices).mp (reads_choices words _)
  have hreply : (do
      let level ← logLevel c
      modify fun w => { w with level }
      answer c (← request command rest) : Action Unit) = reply c r := by
    refine congrArg (logLevel c >>= ·) (funext fun level => congrArg (modify _ >>= ·) ?_)
    funext _ w
    refine (EStateM.run_bind ..).trans ?_
    rw [(settles_request command).run_eq hrequest w]
    rfl
  rw [start, EStateM.run_bind, hchoices]
  simp only [hcommand]
  exact congrArg (EStateM.run · _) hreply

-- A run of a request sets up no session, so that it ends with the answer.
theorem run_of_asked (asked : asked? s words = some (c, r)) (lines : List (Option Text)) :
    run s words lines = .ofResult ((reply c r).run { store := s }) := by
  rw [run, EStateM.run_bind, start_of_asked asked]
  cases hreply : (reply c r).run { store := s } with
  | error stop w => rfl
  | ok a w =>
    have hnone : w.session = none := (yields_of_run hreply).mp (keeps_reply c r { store := s })
    simp only [EStateM.run_bind, EStateM.run_get, hnone]
    rfl

end CommandCompletion.Program
