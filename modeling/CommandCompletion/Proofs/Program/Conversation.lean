import CommandCompletion.Proofs.Line.Lookup
import CommandCompletion.Proofs.Program.Opening
import CommandCompletion.Proofs.Program.Session

namespace CommandCompletion

namespace Grammar

variable {g : Grammar}

-- No bracket opens in the name of a node.
def Unbracketed (g : Grammar) : Prop :=
  ∀ entry ∈ g.root.walk [], ∀ name ∈ Dict.keys entry.2.children, .char '[' ∉ name

instance (g : Grammar) : Decidable g.Unbracketed :=
  inferInstanceAs (Decidable (∀ entry ∈ g.root.walk [], _))

theorem Unbracketed.notMem_name (h : g.Unbracketed) {spot child : g.Spot} {name : Text}
    {children : List (Text × g.Spot)} (hc : g.childrenOf spot = .ok children)
    (hmem : (name, child) ∈ children) : .char '[' ∉ name := by
  obtain ⟨place, hown⟩ := exists_mem_children hc hmem
  exact h _ place.mem_walk name (List.mem_map.mpr ⟨_, hown, rfl⟩)

theorem Course.notMem_name (h : g.Unbracketed) {spot tip : g.Spot} {line left : Text}
    {steps : List (Step g)} (course : g.Course spot line steps tip left) :
    ∀ step ∈ steps, .char '[' ∉ step.name := by
  induction course with
  | nil => exact List.forall_mem_nil _
  | cons turn _ ih =>
    obtain ⟨children, hc, hmem⟩ := turn.mem_childrenOf
    exact List.forall_mem_cons.mpr ⟨h.notMem_name hc hmem, ih⟩

-- Arguments are bound to the names of nodes.
theorem notMem_binding (h : g.Unbracketed) {start : g.Spot} {line : Text} {parse : Parse g}
    (parsed : g.parseFrom start line = .ok parse) :
    ∀ binding ∈ parse.bindings, .char '[' ∉ binding.1 := by
  obtain ⟨steps, course, -, hbindings, -⟩ := parseFrom_eq_ok_iff.mp parsed
  rw [hbindings]
  intro binding hmem
  obtain ⟨step, hstep, hb⟩ := List.mem_filterMap.mp (Dict.mem_of_mem_ofList hmem)
  obtain ⟨text, -, rfl⟩ := Option.map_eq_some_iff.mp hb
  exact course.notMem_name h step hstep

end Grammar

namespace Program

open Markup
open Settings (Keeps builtInValue)

namespace Session

variable {s : Session}

theorem exists_help : ∃ o, s.report .help = .ok o := by
  have title : ∀ text ∈ help.title, IsClear text := by
    rintro _ ⟨⟩
    exact isClear_of_unbracketed (by decide)
  have lines : ∀ line ∈ help.lines, IsClear line := by
    have forms : ∀ line ∈ help.lines, .char '[' ∉ line ∨
        ∃ name ∈ (["USAGE", "COMMANDS"] : List Text),
          .char '[' ∉ name ∧ line = [] ++ inStyle "bold cyan" name := by
      decide
    intro line hline
    rcases forms line hline with plain | ⟨name, -, hname, rfl⟩
    · exact isClear_of_unbracketed plain
    · exact isClear_inStyle (List.forall_mem_nil _) (isStyle_of_mem _ (by decide)) hname
  obtain ⟨text, htext⟩ := Panel.exists_text title lines
  exact ⟨_, by rw [report, htext]; rfl⟩

theorem goodbye_eq : goodbye = .ok (Report.onOut "\nGoodbye!\n") := by
  decide +kernel

theorem exists_commandList {c : CommandSet} (h : c.grammar.Unbracketed) :
    ∃ o, commandList c = .ok o := by
  refine Report.exists_print ?_ .human
  split
  · exact Report.isClear_noCommands
  · simp only [commandNames, inStyle_cyan]
    refine isClear_of_nested (nested_join isStyle_cyan (fun name hname => ?_) 0) isStyle_cyan
    exact h _ c.grammar.top.mem_walk name (List.mem_mergeSort.mp hname)

-- Where a parse stops there are candidates to be told of.
theorem exists_verdict {text : Text} {parse : Parse s.commands.grammar}
    (parsed : s.commands.parse text = .ok parse) : ∃ o, s.verdict parse = .ok (.ok o) := by
  unfold verdict
  split
  · obtain ⟨o, ho⟩ := Report.exists_warning_eq_ok s.mode
      ("Unrecognized input from " ++ quote parse.remainder)
    exact ⟨o, congrArg Except.ok ho⟩
  · split
    · obtain ⟨o, ho⟩ := Report.exists_done_eq_ok s.mode "Complete command."
      exact ⟨o, congrArg Except.ok ho⟩
    · obtain ⟨-, ⟨children, hc, -⟩, -⟩ := Grammar.exists_course_of_parseFrom parsed
      have suggested : ∃ cs, s.commands.suggest parse = .ok cs := by
        rw [CommandSet.suggest, Grammar.suggest, hc]
        exact ⟨_, rfl⟩
      obtain ⟨cs, hcs⟩ := suggested
      obtain ⟨o, ho⟩ := Report.exists_info_eq_ok s.mode (expectation cs)
      exact ⟨o, by rw [hcs]; exact congrArg Except.ok ho⟩

theorem exists_lineReport (h : s.commands.grammar.Unbracketed) (text : Text) :
    ∃ o, s.lineReport text = .ok o := by
  unfold lineReport
  split
  · exact Report.exists_problem_eq_ok s.mode _
  · next parse parsed =>
    obtain ⟨reached, hreached⟩ := Report.exists_parse_eq_ok s.mode text
      (Grammar.notMem_binding h parsed)
    obtain ⟨said, hsaid⟩ := exists_verdict parsed
    exact ⟨reached ++ said ++ emptyLine, by rw [hreached, hsaid]; rfl⟩

-- Whatever is entered is reported on.
theorem exists_report (h : s.commands.grammar.Unbracketed) (query : Query) :
    ∃ o, s.report query = .ok o := by
  cases query with
  | blank => exact ⟨[], rfl⟩
  | leave => exact ⟨_, goodbye_eq⟩
  | help => exact exists_help
  | commands =>
    obtain ⟨o, ho⟩ := exists_commandList h
    exact ⟨o ++ emptyLine, by rw [report, ho]; rfl⟩
  | unknown text =>
    obtain ⟨o, ho⟩ := Report.exists_problem_eq_ok s.mode
      ("Unknown command: " ++ text ++ ". Type /help for available commands.")
    exact ⟨o ++ emptyLine, by rw [report, ho]; rfl⟩
  | line text => exact exists_lineReport h text

-- What is sent when a line is entered. Neither the history nor the prompt has a part in it.
def said (mode : Mode) (commands : CommandSet) (line : Text) : Output :=
  match report ⟨mode, commands, .memory, .null⟩ (.ofLine line) with
  | .ok o => o
  | .error _ => []

theorem report_eq (s : Session) (query : Query) :
    s.report query = report ⟨s.mode, s.commands, .memory, .null⟩ query := by
  obtain ⟨mode, commands, history, prompt⟩ := s
  cases query with
  | line text =>
    simp only [report, lineReport]
    cases commands.parse text <;> rfl
  | _ => rfl

theorem report_eq_said (h : s.commands.grammar.Unbracketed) (line : Text) :
    s.report (.ofLine line) = .ok (said s.mode s.commands line) := by
  obtain ⟨o, ho⟩ := exists_report h (.ofLine line)
  rw [said, ← report_eq, ho]

theorem ofLine_eq_leave_iff {line : Text} :
    Query.ofLine line = .leave ↔ Text.trim line = "/quit" ∨ Text.trim line = "/exit" := by
  have filled : ("/quit" : Text) ≠ [] ∧ ("/exit" : Text) ≠ [] := by decide
  constructor
  · intro h
    unfold Query.ofLine at h
    dsimp only at h
    split at h
    · cases h
    · split at h
      · next leaves => simpa using leaves
      · split at h
        · cases h
        · split at h
          · cases h
          · split at h <;> cases h
  · rintro (h | h) <;> simp [Query.ofLine, h, filled]

-- The lines in front of the first one that ends the session.
def answered (lines : List Text) : List Text :=
  lines.takeWhile fun line => Text.trim line ≠ "/quit" ∧ Text.trim line ≠ "/exit"

theorem answered_cons_of_leave {line : Text} (h : Query.ofLine line = .leave)
    (lines : List Text) : answered (line :: lines) = [] := by
  refine List.takeWhile_cons_of_neg ?_
  simpa [← not_or] using ofLine_eq_leave_iff.mp h

theorem answered_cons {line : Text} (h : Query.ofLine line ≠ .leave) (lines : List Text) :
    answered (line :: lines) = line :: answered lines := by
  refine List.takeWhile_cons_of_pos ?_
  simpa [not_or] using mt ofLine_eq_leave_iff.mpr h

-- The steps of a turn, once it is known what is said.
theorem turn_eq {line : Option Text} {query : Query} {o : Output}
    (asked : (line.map Query.ofLine).getD .leave = query) (reported : s.report query = .ok o) :
    turn s line = modify (fun w => { w with reads := w.reads + 1 }) >>= fun _ =>
      log (s.records query) >>= fun _ => write o >>= fun _ => pure (decide (query ≠ .leave)) := by
  rw [turn, asked]
  dsimp only
  rw [reported]
  rfl

-- What a turn does, whatever was done before it.
theorem run_turn {line : Option Text} {query : Query} {o : Output}
    (asked : (line.map Query.ofLine).getD .leave = query) (reported : s.report query = .ok o)
    (printable : Printable o) (w : World) :
    (turn s line).run w = .ok (decide (query ≠ .leave))
      { w with
        output := w.output ++ sent o
        records := w.records ++ Record.kept w.level (s.records query)
        reads := w.reads + 1 } := by
  have written := run_write printable
    { w with
      records := w.records ++ Record.kept w.level (s.records query)
      reads := w.reads + 1 }
  simp only [turn_eq asked reported, EStateM.run_bind, log, EStateM.run_modify, written]
  rfl

theorem run_turn_of_not_printable {line : Option Text} {query : Query} {o : Output}
    (asked : (line.map Query.ofLine).getD .leave = query) (reported : s.report query = .ok o)
    (h : ¬Printable o) (w : World) :
    ∃ w', (turn s line).run w = .error (.crash .halfText) w' := by
  obtain ⟨w', written⟩ := run_write_of_not_printable h
    { w with
      records := w.records ++ Record.kept w.level (s.records query)
      reads := w.reads + 1 }
  refine ⟨w', ?_⟩
  simp only [turn_eq asked reported, EStateM.run_bind, log, EStateM.run_modify, written]

theorem printable_goodbye : Printable (Report.onOut "\nGoodbye!\n") :=
  List.forall_mem_singleton.mpr fun _ => Text.hasHalf_ofChars _

theorem sent_goodbye : sent (Report.onOut "\nGoodbye!\n") = Report.onOut "\nGoodbye!\n" := by
  rw [sent, Report.onOut, List.map_singleton, Text.ofString, Text.ofString_spelled_ofChars]

-- The turn that ends a session, at a line that asks for it or at the end of the lines.
theorem run_turn_of_leave {line : Option Text}
    (asked : (line.map Query.ofLine).getD .leave = .leave) (w : World) :
    (turn s line).run w = .ok false
      { w with output := w.output ++ Report.onOut "\nGoodbye!\n", reads := w.reads + 1 } := by
  have kept : Record.kept w.level (s.records .leave) = [] := rfl
  rw [run_turn asked goodbye_eq printable_goodbye, sent_goodbye, kept, List.append_nil]
  rfl

theorem run_turn_of_stay (h : s.commands.grammar.Unbracketed) {line : Text}
    (stays : Query.ofLine line ≠ .leave) (printable : Printable (said s.mode s.commands line))
    (w : World) :
    (turn s (some line)).run w = .ok true
      { w with
        output := w.output ++ sent (said s.mode s.commands line)
        records := w.records ++ Record.kept w.level (s.records (.ofLine line))
        reads := w.reads + 1 } := by
  have asked : ((some line).map Query.ofLine).getD .leave = Query.ofLine line := rfl
  rw [run_turn asked (report_eq_said h line) printable, decide_eq_true stays]

-- A session goes through its lines one by one.
theorem run_converse (h : s.commands.grammar.Unbracketed) {lines : List Text}
    (printable : ∀ line ∈ answered lines, Printable (said s.mode s.commands line)) (w : World) :
    (converse s (lines.map some)).run w = .ok ()
      { w with
        output := w.output ++ ((answered lines).flatMap fun line =>
          sent (said s.mode s.commands line)) ++ Report.onOut "\nGoodbye!\n"
        records := w.records ++ Record.kept w.level ((answered lines).flatMap fun line =>
          s.records (.ofLine line))
        reads := w.reads + (answered lines).length + 1 } := by
  induction lines generalizing w with
  | nil =>
    have asked : ((none : Option Text).map Query.ofLine).getD .leave = .leave := rfl
    have left := run_turn_of_leave (s := s) asked w
    have steps : converse s [] = turn s none >>= fun _ => pure () := rfl
    rw [List.map_nil, steps, EStateM.run_bind, left]
    simp [answered, Record.kept]
  | cons line lines ih =>
    rw [List.map_cons, converse, EStateM.run_bind]
    by_cases leaves : Query.ofLine line = .leave
    · have asked : ((some line).map Query.ofLine).getD .leave = .leave := leaves
      rw [run_turn_of_leave asked w, answered_cons_of_leave leaves]
      simp [Record.kept]
    · rw [answered_cons leaves] at printable ⊢
      obtain ⟨hline, printable⟩ := List.forall_mem_cons.mp printable
      rw [run_turn_of_stay h leaves hline w]
      simp only [↓reduceIte, ih printable]
      simp [Record.kept, List.filter_append, Nat.add_assoc, Nat.add_comm]

-- A session whose reports cannot all be sent does not come to its end.
theorem run_converse_of_not_printable (h : s.commands.grammar.Unbracketed) {lines : List Text}
    (halved : ∃ line ∈ answered lines, ¬Printable (said s.mode s.commands line)) (w : World) :
    ∃ w', (converse s (lines.map some)).run w = .error (.crash .halfText) w' := by
  induction lines generalizing w with
  | nil =>
    obtain ⟨line, hline, -⟩ := halved
    cases hline
  | cons line lines ih =>
    by_cases leaves : Query.ofLine line = .leave
    · rw [answered_cons_of_leave leaves] at halved
      obtain ⟨_, hline, -⟩ := halved
      cases hline
    · rw [List.map_cons, converse, EStateM.run_bind]
      by_cases hline : Printable (said s.mode s.commands line)
      · rw [run_turn_of_stay h leaves hline w]
        refine ih ?_ _
        rw [answered_cons leaves] at halved
        obtain ⟨other, hmem, hother⟩ := halved
        refine ⟨other, (List.mem_cons.mp hmem).resolve_left ?_, hother⟩
        rintro rfl
        exact hother hline
      · have asked : ((some line).map Query.ofLine).getD .leave = Query.ofLine line := rfl
        obtain ⟨w', hstop⟩ := run_turn_of_not_printable asked (report_eq_said h line) hline w
        exact ⟨w', by rw [hstop]⟩

theorem said_of_blank (mode : Mode) (commands : CommandSet) {line : Text}
    (blank : Text.trim line = []) : said mode commands line = [] := by
  have asked : Query.ofLine line = .blank := by simp [Query.ofLine, blank]
  rw [said, asked]
  rfl

theorem said_congr (mode : Mode) (commands : CommandSet) {line other : Text}
    (h : Text.trim line = Text.trim other) : said mode commands line = said mode commands other := by
  rw [said, said, Query.ofLine, Query.ofLine, h]

-- Of a line that leads into a circle of redirects only the problem is told.
theorem problem_eq_said (mode : Mode) {commands : CommandSet} {line : Text} {fault : RedirectFault}
    (hne : Text.trim line ≠ []) (command : (Text.trim line).head? ≠ some (.char '/'))
    (h : commands.parse (Text.trim line) = .error fault) :
    Report.problem mode fault.message = .ok (said mode commands line) := by
  obtain ⟨o, ho⟩ := Report.exists_problem_eq_ok mode fault.message
  rw [said, Query.ofLine_of_command hne command, report, lineReport, h]
  dsimp only
  rw [ho]

end Session

open Session (answered said)

variable {c : Choices} {s : Store} {words : List Text} {set : CommandSet}

-- With the settings that are built in, and names without brackets, a session goes on until it is
-- left. Each line up to there is reported on by itself, whatever was entered before, and nothing is
-- read behind it. Only a report that holds half of a character would stop it.
theorem run_session (asked : sessionChoices? s words = some c) (keeps : Keeps s builtInValue)
    (served : served? c s = some set) (unbracketed : set.grammar.Unbracketed)
    (lines : List Text) :
    ((run s words (lines.map some)).crash = none ↔
      ∀ line ∈ answered lines, Printable (said c.mode set line)) ∧
    ((run s words (lines.map some)).crash = none →
      (run s words (lines.map some)).code = 0 ∧
        (run s words (lines.map some)).world.reads = (answered lines).length + 1 ∧
          ∃ greeting, Session.banner set = .ok greeting ∧
            (run s words (lines.map some)).world.output =
              sent greeting ++ ((answered lines).flatMap fun line => sent (said c.mode set line)) ++
                Report.onOut "\nGoodbye!\n") ∧
    (∀ line, Text.trim line = [] → said c.mode set line = []) ∧
    (∀ line other, Text.trim line = Text.trim other →
      said c.mode set line = said c.mode set other) ∧
    ∀ line fault, Text.trim line ≠ [] → (Text.trim line).head? ≠ some (.char '/') →
      set.parse (Text.trim line) = .error fault →
        Report.problem c.mode fault.message = .ok (said c.mode set line) := by
  obtain ⟨w, history, greeting, hstart, hsession, hgreeting, houtput, hreads⟩ :=
    exists_start asked keeps served
  have opened : run s words (lines.map some) = .ofResult
      ((converse ⟨c.mode, set, .file history, .text "> "⟩ (lines.map some)).run w) := by
    rw [run, EStateM.run_bind, hstart]
    simp only [EStateM.run_bind, EStateM.run_get, hsession]
  have told : ∀ line fault, Text.trim line ≠ [] → (Text.trim line).head? ≠ some (.char '/') →
      set.parse (Text.trim line) = .error fault →
        Report.problem c.mode fault.message = .ok (said c.mode set line) :=
    fun line fault => Session.problem_eq_said c.mode
  by_cases printable : ∀ line ∈ answered lines, Printable (said c.mode set line)
  · have done := Session.run_converse
      (s := ⟨c.mode, set, .file history, .text "> "⟩) unbracketed printable w
    rw [opened, done]
    refine ⟨iff_of_true rfl printable, fun _ => ⟨rfl, ?_, greeting, hgreeting, ?_⟩,
      fun line => Session.said_of_blank _ _, fun line other => Session.said_congr _ _, told⟩
    · simp [Ending.ofResult, hreads]
    · simp [Ending.ofResult, houtput]
  · obtain ⟨w', stopped⟩ := Session.run_converse_of_not_printable
      (s := ⟨c.mode, set, .file history, .text "> "⟩) unbracketed
      (by simpa using printable) w
    rw [opened, stopped]
    have crashed : ¬(Ending.ofResult (.error (.crash .halfText) w')).crash = none :=
      Option.some_ne_none _
    exact ⟨iff_of_false crashed printable, fun h => absurd h crashed,
      fun line => Session.said_of_blank _ _, fun line other => Session.said_congr _ _, told⟩

instance (o : Output) : Decidable (Printable o) :=
  inferInstanceAs (Decidable (∀ m ∈ o, _))

-- A session over the built-in commands in an empty working directory: a blank line, a command that
-- is not known, a line that is parsed, and one that is not read any more.
theorem run_session_sample :
    let lines : List Text := ["  ", "/nope", "say hi", " /exit ", "say never"]
    let ending := run Settings.emptyStore [] (lines.map some)
    ending.crash = none ∧ ending.code = 0 ∧ ending.world.reads = 4 := by
  intro lines ending
  have served : served? ⟨.human, none, none, none⟩ Settings.emptyStore = some Sample.commands := rfl
  have asked : sessionChoices? Settings.emptyStore [] = some ⟨.human, none, none, none⟩ := rfl
  have unbracketed : Sample.commands.grammar.Unbracketed := by decide +kernel
  have front : answered lines = ["  ", "/nope", "say hi"] := by decide
  have printable : ∀ line ∈ answered lines, Printable (said .human Sample.commands line) := by
    rw [front]
    decide +kernel
  obtain ⟨hcrash, hending, -⟩ := run_session asked Settings.fresh_emptyStore.keeps served
    unbracketed lines
  have whole := hcrash.mpr printable
  obtain ⟨hcode, hreads, -⟩ := hending whole
  exact ⟨whole, hcode, by rw [hreads, front]; rfl⟩

-- Half of a character in the text of an argument ends the session at once.
theorem exists_line_ending_session :
    ∃ (s : Store) (c : Choices) (set : CommandSet) (line : Text),
      sessionChoices? s [] = some c ∧ Keeps s builtInValue ∧ served? c s = some set ∧
        set.grammar.Unbracketed ∧ answered [line] = [line] ∧
        (run s [] [some line]).crash = some .halfText ∧ (run s [] [some line]).code = 1 := by
  let line : Text := "say " ++ Settings.halfText ++ (" x" : Text)
  refine ⟨Settings.emptyStore, ⟨.human, none, none, none⟩, Sample.commands, line, rfl,
    Settings.fresh_emptyStore.keeps, rfl, by decide +kernel, by decide, ?_⟩
  decide +kernel

end Program

end CommandCompletion
