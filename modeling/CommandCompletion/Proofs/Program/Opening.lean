import CommandCompletion.Proofs.Json.Document
import CommandCompletion.Proofs.Program.Tree
import CommandCompletion.Proofs.Report.Clear
import CommandCompletion.Proofs.Settings.Keeping

namespace CommandCompletion

open Text (hasHalf hasHalf_append hasHalf_ofChars)

theorem Report.hasHalf_ended {lines : List Text} (h : ∀ line ∈ lines, line.hasHalf = false) :
    (ended lines).hasHalf = false := by
  have newline : ("\n" : Text).hasHalf = false := by decide
  rw [hasHalf, ended, List.any_flatMap, List.any_eq_false]
  intro line hline
  rw [← hasHalf, hasHalf_append, h line hline, newline]
  exact Bool.false_ne_true

namespace Panel

theorem hasHalf_line {shown : Text} (h : shown.hasHalf = false) : (line shown).hasHalf = false := by
  have sides : ("│ " : Text).hasHalf = false ∧ (" │" : Text).hasHalf = false := by decide
  have room (n : Nat) : hasHalf (List.replicate n (.char ' ')) = false := by
    simp [hasHalf, CodePoint.isHalf]
  simp only [line, hasHalf_append, sides, h, room, Bool.or_self]

-- An untitled frame around text without halves.
theorem exists_whole_text {p : Panel} (untitled : p.title = none) {shown : List Text}
    (h : p.lines.mapM (fun line => do (← Markup.visible line).seen) = .ok shown)
    (whole : ∀ text ∈ shown, text.hasHalf = false) :
    ∃ text, p.text = .ok text ∧ text.hasHalf = false := by
  have frame : (top none).hasHalf = false ∧ bottom.hasHalf = false := by decide +kernel
  refine ⟨Report.ended (top none :: shown.map line ++ [bottom]), ?_, Report.hasHalf_ended ?_⟩
  · rw [Panel.text, untitled, h]
    rfl
  · simp only [List.cons_append, List.forall_mem_cons, List.forall_mem_append, List.forall_mem_map]
    exact ⟨frame.1, fun text htext => hasHalf_line (whole text htext), frame.2,
      List.forall_mem_nil _⟩

end Panel

namespace Program

open Settings (Keeps builtInValue filled_builtInValue)

variable {α β : Type} {mode : Mode} {w : World}

-- No half of a character is sent to the first channel.
def Printable (o : Output) : Prop :=
  ∀ m ∈ o, m.channel = .out → m.text.hasHalf = false

theorem run_send {m : Message} (h : m.channel = .out → m.text.hasHalf = false) (w : World) :
    (send m).run w = .ok () { w with output := w.output ++ sent [m] } := by
  have whole : ¬(m.channel = .out && m.text.hasHalf) = true := by
    simpa using h
  rw [send, if_neg whole]
  rfl

theorem run_write {o : Output} (h : Printable o) (w : World) :
    (write o).run w = .ok () { w with output := w.output ++ sent o } := by
  induction o generalizing w with
  | nil =>
    rw [sent, List.map_nil, List.append_nil]
    rfl
  | cons m o ih =>
    obtain ⟨hm, ho⟩ := List.forall_mem_cons.mp h
    have step : write (m :: o) = send m >>= fun _ => write o := rfl
    rw [step, EStateM.run_bind, run_send hm]
    refine (ih ho _).trans ?_
    rw [List.append_assoc]
    rfl

theorem run_report {o : Output} (h : Printable o) (w : World) :
    (report (.ok o)).run w = .ok () { w with output := w.output ++ sent o } :=
  run_write h w

-- What cannot be sent as a whole stops the run.
theorem run_write_of_not_printable {o : Output} (h : ¬Printable o) (w : World) :
    ∃ w', (write o).run w = .error (.crash .halfText) w' := by
  induction o generalizing w with
  | nil => exact absurd (List.forall_mem_nil _) h
  | cons m o ih =>
    have step : write (m :: o) = send m >>= fun _ => write o := rfl
    rw [step, EStateM.run_bind]
    by_cases half : m.channel = .out && m.text.hasHalf
    · exact ⟨w, by rw [send, if_pos half]; rfl⟩
    · have hm : m.channel = .out → m.text.hasHalf = false := by simpa using half
      rw [run_send hm]
      exact ih (fun ho => h (List.forall_mem_cons.mpr ⟨hm, ho⟩)) _

namespace Session

theorem isPlain_of_isDigit {c : Char} (h : Json.isDigit c) : Markup.IsPlain (.char c) := by
  have unlike {other : Char} (hother : Json.isDigit other = false) :
      CodePoint.char c ≠ .char other := by
    rintro ⟨⟩
    exact Bool.false_ne_true (hother.symm.trans h)
  refine ⟨unlike (by decide), unlike (by decide), unlike (by decide), ?_⟩
  simp only [Json.isDigit, Bool.and_eq_true, decide_eq_true_eq] at h
  have low : 48 ≤ c.toNat := h.1
  simp only [Markup.isHidden, CodePoint.toNat]
  have other : ¬c.toNat = 7 ∧ ¬c.toNat = 8 ∧ ¬c.toNat ≤ 13 := by omega
  simp [other]

-- The number of commands stands in the frame as it is.
theorem visible_count (n : Nat) :
    Markup.visible (.ofString (toString n ++
      " commands loaded. Type [bold]/help[/bold] for help.")) =
        .ok ⟨.ofString (toString n ++ " commands loaded. Type /help for help."), []⟩ := by
  have split (behind : String) : Text.ofString (toString n ++ behind) =
      .ofString (toString n) ++ .ofString behind := by
    rw [Text.ofString, String.toList_append, Text.ofChars, List.map_append]
    rfl
  have cut : Markup.chunks (Markup.pieces
      (.ofString " commands loaded. Type [bold]/help[/bold] for help.")) =
        [.plain " commands loaded. Type ", .tag "bold", .plain "/help", .tag "/bold",
          .plain " for help."] := by
    decide +kernel
  have plain : ∀ text ∈ ([" commands loaded. Type ", "/help", " for help."] : List Text),
      ∀ c ∈ text, Markup.IsPlain c := by
    decide
  simp only [List.forall_mem_cons] at plain
  have bold : Markup.IsStyle "bold" := Markup.isStyle_of_mem _ (by decide)
  have closing : ("/bold" : Text) = .char '/' :: "bold" := by decide
  rw [split, split]
  refine Markup.visible_plain_append (fun c hc => ?_) fun offset => ?_
  · obtain ⟨digit, hdigit, rfl⟩ := List.mem_map.mp hc
    have digits : (toString n).toList = Nat.toDigits 10 n := String.toList_ofList
    exact isPlain_of_isDigit (Json.isDigit_of_mem_toDigits (digits ▸ hdigit))
  · have closes (start stop : Nat) : Markup.turn [⟨"bold", none, start⟩] stop "/bold" =
        .ok ([], []) := closing ▸ bold.turn_close rfl rfl [] stop
    have joined : (" commands loaded. Type " ++ ("/help" ++ (" for help." ++ ([] : Text))) : Text) =
        .ofString " commands loaded. Type /help for help." := by
      decide
    rw [cut, ← joined]
    simp only [Markup.reveal, Markup.shown_of_plain plain.1, Markup.shown_of_plain plain.2.1,
      Markup.shown_of_plain plain.2.2.1, bold.turn_open, closes, Except.map]
    rfl

theorem exists_banner (commands : CommandSet) :
    ∃ o, banner commands = .ok o ∧ Printable o := by
  have first : (Markup.visible "[bold cyan]mccomplete[/bold cyan] — Brigadier command completion" >>=
      fun s => s.seen) = .ok "mccomplete — Brigadier command completion" := by
    decide +kernel
  have shown : (welcome commands).lines.mapM (fun line => do (← Markup.visible line).seen) =
      .ok ["mccomplete — Brigadier command completion",
        .ofString (toString commands.grammar.root.children.length ++
          " commands loaded. Type /help for help.")] := by
    refine mapM_cons_eq_ok_iff.mpr ⟨_, _, first, mapM_cons_eq_ok_iff.mpr ⟨_, [], ?_, rfl, rfl⟩, rfl⟩
    rw [visible_count]
    rfl
  obtain ⟨text, htext, whole⟩ := Panel.exists_whole_text rfl shown (by
    simp only [List.forall_mem_cons]
    exact ⟨hasHalf_ofChars _, hasHalf_ofChars _, List.forall_mem_nil _⟩)
  refine ⟨emptyLine ++ Report.onOut text ++ emptyLine, by rw [banner, htext]; rfl, ?_⟩
  have empty : ("\n" : Text).hasHalf = false := by decide
  simp [Printable, emptyLine, Report.onOut, whole, empty]

end Session

-- A step that leaves all but the records as it is, unless it ends the run.
def Notes (x : Action α) : Prop :=
  ∀ w, Yields x w (fun _ w' => ∃ records, w' = { w with records }) fun _ _ => True

theorem Notes.bind {x : Action β} {f : β → Action α} (hx : Notes x) (hf : ∀ b, Notes (f b)) :
    Notes (x >>= f) := by
  refine fun w => yields_bind.mpr ((hx w).mono (fun b w' hw' => ?_) fun _ _ h => h)
  obtain ⟨records, rfl⟩ := hw'
  exact (hf b _).mono (fun _ _ ⟨more, h⟩ => ⟨more, h⟩) fun _ _ h => h

theorem chains_notes : Chains mode Notes where
  done _ w := ⟨w.records, rfl⟩
  crashed _ _ := trivial
  failed message w := yields_fail message w
  logged _ _ := ⟨_, rfl⟩
  looked w := ⟨w.records, rfl⟩
  bind := Notes.bind

variable {c : Choices} {s s₀ : Store} {words : List Text} {set : CommandSet}

-- The commands that loaded settings and the choices lead to.
def serve (c : Choices) (settings : Dict Value) : Action CommandSet := do
  let commands ← dataPath settings c.commands "commands_path"
  let registries ← dataPath settings c.registries "registries_path"
  let g ← loadGrammar c.mode commands
  return ⟨g, ← loadRegistries c.mode registries⟩

theorem notes_serve (settings : Dict Value) : Notes (serve c settings) :=
  have chains : Chains c.mode Notes := chains_notes
  (chains.dataPath _ _ _).bind fun _ => (chains.dataPath _ _ _).bind fun _ =>
    (chains.loadGrammar _).bind fun _ => (chains.loadRegistries _).bind fun _ => chains.done _

theorem run_onSettings {operate : Store → Settings.Outcome α} {a : α}
    (h : operate w.store = (.ok a, s₀)) :
    (onSettings mode operate).run w = .ok a { w with store := s₀ } := by
  simp only [onSettings, EStateM.run_bind, EStateM.run_get, h, EStateM.run_modify]
  rfl

theorem run_commandSet {settings : Dict Value} (h : Settings.load w.store = (.ok settings, s₀)) :
    (commandSet c).run w = (serve c settings).run { w with store := s₀ } := by
  have steps : commandSet c = onSettings c.mode Settings.load >>= serve c := rfl
  rw [steps, EStateM.run_bind, run_onSettings h]

-- The choices of a command line that asks for a session.
def sessionChoices? (s : Store) (words : List Text) : Option Choices :=
  match (choices words).run { store := s } with
  | .ok (c, []) _ => some c
  | _ => none

theorem start_of_sessionChoices (asked : sessionChoices? s words = some c) :
    (start words).run { store := s } = (do
      let level ← logLevel c
      modify fun w => { w with level }
      openSession c : Action Unit).run { store := s } := by
  unfold sessionChoices? at asked
  split at asked
  · next w hchoices =>
    cases asked
    obtain rfl : w = { store := s } := (yields_of_run hchoices).mp (reads_choices words _)
    rw [start, EStateM.run_bind, hchoices]
  · cases asked

variable {history : FilePath}

-- A session is set up in front of its banner and nothing else.
theorem yields_openSession (hload : Settings.load w.store = (.ok Settings.defaults, s₀))
    (hagain : Settings.load s₀ = (.ok Settings.defaults, s₀))
    (hhistory : Settings.historyPath s₀ = (.ok history, s₀)) {w₀ : World}
    (hset : (commandSet c).run w = .ok set w₀) :
    Yields (openSession c) w
      (fun _ w' => ∃ greeting, Session.banner set = .ok greeting ∧
        w'.output = w.output ++ sent greeting ∧ w'.reads = w.reads ∧
        w'.session = some ⟨c.mode, set, .file history, .text "> "⟩)
      fun _ _ => False := by
  obtain ⟨greeting, hgreeting, printable⟩ := Session.exists_banner set
  have hserve : (serve c Settings.defaults).run { w with store := s₀ } = .ok set w₀ := by
    rw [← run_commandSet hload, hset]
  obtain ⟨records, rfl⟩ : ∃ records, w₀ = { w with store := s₀, records } :=
    (yields_of_run hserve).mp (notes_serve Settings.defaults { w with store := s₀ })
  have hserved : (commandSet c).run { w with store := s₀ } =
      .ok set { w with store := s₀, records } := by
    rw [run_commandSet (w := { w with store := s₀ }) hagain, hserve]
  obtain ⟨members, hsection, hkept, hprompt⟩ : ∃ members : Dict Value,
      sectionOf Settings.defaults "repl" = (pure members : Action (Dict Value)) ∧
        ((Dict.get? members "history").getD (.bool true)).isGiven = true ∧
          (Dict.get? members "prompt").getD (.text "> ") = .text "> " :=
    ⟨_, rfl, by decide, rfl⟩
  rw [openSession, yields_bind, yields_of_run (run_onSettings (w := w) hload), yields_bind,
    yields_of_run hserved, yields_bind, hgreeting,
    yields_of_run (run_report printable _), hsection, yields_bind, yields_pure, if_pos hkept,
    yields_bind, yields_map, yields_onSettings, hhistory]
  exact ⟨greeting, rfl, rfl, rfl, congrArg some (congrArg _ hprompt)⟩

theorem exists_logLevel (hload : Settings.load s = (.ok Settings.defaults, s₀))
    (hagain : Settings.load s₀ = (.ok Settings.defaults, s₀)) {level : Level} {w : World}
    (h : (logLevel c).run { store := s } = .ok level w) :
    ∃ s', w = { store := s' } ∧ Settings.load s' = (.ok Settings.defaults, s₀) := by
  have hyields : Yields (logLevel c) { store := s }
      (fun _ w => ∃ s', w = { store := s' } ∧ Settings.load s' = (.ok Settings.defaults, s₀))
      fun _ _ => True := by
    unfold logLevel
    cases c.level with
    | some chosen => exact ⟨s, rfl, hload⟩
    | none =>
      rw [yields_bind, yields_onSettings, hload]
      exact ⟨s₀, rfl, hagain⟩
  exact (yields_of_run h).mp hyields

-- With the settings that are built in a session is set up over the commands that are chosen, and
-- greets.
theorem exists_start (asked : sessionChoices? s words = some c) (keeps : Keeps s builtInValue)
    (served : served? c s = some set) : ∃ w history greeting,
      (start words).run { store := s } = .ok () w ∧
      w.session = some ⟨c.mode, set, .file history, .text "> "⟩ ∧
      Session.banner set = .ok greeting ∧ w.output = sent greeting ∧ w.reads = 0 := by
  obtain ⟨s₀, history, hload, hagain, hhistory⟩ := keeps.exists_load
  rw [filled_builtInValue] at hload hagain
  obtain ⟨level, w, w₀, hlevel, hset⟩ := served?_eq_some served
  obtain ⟨s', rfl, hload'⟩ := exists_logLevel hload hagain hlevel
  obtain ⟨_, w', hopen, greeting, hgreeting, houtput, hreads, hsession⟩ :=
    exists_run_of_yields
      (yields_openSession (w := { store := s', level }) hload' hagain hhistory hset)
  refine ⟨w', history, greeting, ?_, hsession, hgreeting, houtput, hreads⟩
  rw [start_of_sessionChoices asked, EStateM.run_bind, hlevel]
  exact hopen

end Program

end CommandCompletion
