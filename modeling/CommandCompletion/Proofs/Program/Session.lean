import CommandCompletion.Program.Session
import CommandCompletion.Proofs.Line.Trailing
import CommandCompletion.Proofs.Line.Writing
import CommandCompletion.Proofs.Report.Sign
import CommandCompletion.Proofs.Report.Table

namespace CommandCompletion.Program

theorem Query.ofLine_of_command {line : Text} (hne : Text.trim line ≠ [])
    (command : (Text.trim line).head? ≠ some (.char '/')) :
    Query.ofLine line = .line (Text.trim line) := by
  have unlike (name : Text) (hslash : name.head? = some (.char '/')) : Text.trim line ≠ name :=
    fun he => command (he ▸ hslash)
  simp [ofLine, hne, command, unlike "/quit" rfl, unlike "/exit" rfl, unlike "/help" rfl,
    unlike "/tree" rfl]

namespace Session

-- What is said of a complete command.
def confirmation : Output :=
  Report.onOut "✓ Complete command.\n"

-- A line is entered and the last that is said of it is that it is a complete command.
def Confirms (s : Session) (line : Text) : Prop :=
  ∃ reached, s.report (.ofLine line) = .ok (reached ++ confirmation ++ emptyLine)

-- What is parsed of a line can be shown.
def Shows (s : Session) (text : Text) : Prop :=
  ∃ parse reached, s.commands.parse text = .ok parse ∧ Report.parse s.mode text parse = .ok reached

-- The mark of a message tells it from a confirmation.
theorem ne_confirmation_of_mark {channel : Channel} {mark : CodePoint} {text : Text}
    (h : [mark] <+: text) (hne : mark ≠ .char '✓') : [⟨channel, text⟩] ≠ confirmation := by
  intro he
  obtain ⟨rest, rfl⟩ := h
  have hhead : ([mark] ++ rest).head? = some (.char '✓') := by
    rw [(Message.mk.inj (List.singleton_inj.mp he)).2]
    decide
  exact hne (Option.some.inj hhead)

-- A report on a line ends in an empty line, or in a problem.
theorem lineReport_eq_ok {s : Session} {text : Text} {out : Output}
    (h : s.lineReport text = .ok out) :
    (∃ front m, out = front ++ [m] ∧ m ≠ ⟨.out, "\n"⟩) ∨
      ∃ parse reached answer said, s.commands.parse text = .ok parse ∧
        Report.parse s.mode text parse = .ok reached ∧ s.verdict parse = .ok answer ∧
          answer = .ok said ∧ out = reached ++ said ++ emptyLine := by
  unfold lineReport at h
  split at h
  · obtain ⟨m, rfl, hm⟩ := Report.exists_problem h
    exact .inl ⟨[], m, rfl, hm⟩
  · next parse parsed =>
    obtain ⟨reached, hreached, h⟩ := bind_eq_ok_iff.mp h
    split at h
    · obtain ⟨said, hsaid, hend⟩ := bind_eq_ok_iff.mp h
      obtain ⟨m, rfl, hm⟩ := Report.exists_problem hsaid
      exact .inl ⟨reached, m, (Except.ok.inj hend).symm, hm⟩
    · next answer hanswer =>
      obtain ⟨said, hsaid, hend⟩ := bind_eq_ok_iff.mp h
      exact .inr ⟨parse, reached, answer, said, parsed, hreached, hanswer, hsaid,
        (Except.ok.inj hend).symm⟩

-- What is shown of a parse to programs is no confirmation.
theorem not_confirmation_of_json {g : Grammar} {text : Text} {parse : Parse g}
    {reached front : Output} (h : Report.parse .json text parse = .ok reached) :
    reached ≠ front ++ confirmation := by
  cases h
  obtain ⟨shown, hdocument, hmark⟩ := Report.exists_document ("status", .text "success")
    [("data", parse.toValue text)]
  intro he
  rw [Report.success, Report.envelope, hdocument, ← List.nil_append [_]] at he
  exact ne_confirmation_of_mark hmark (by decide) (List.append_inj_right' he rfl)

-- The last that is said of a line is a confirmation only if the line is complete.
theorem isComplete_of_verdict {s : Session} {text : Text} {parse : Parse s.commands.grammar}
    (parsed : s.commands.parse text = .ok parse) {reached front said : Output} {answer : Report}
    (hreached : Report.parse s.mode text parse = .ok reached)
    (hverdict : s.verdict parse = .ok answer) (hsaid : answer = .ok said)
    (h : reached ++ said = front ++ confirmation) :
    s.mode = .human ∧ s.commands.isComplete text = .ok true := by
  have unlike {channel : Channel} {mark : CodePoint} {message : Text} (hmark : [mark] <+: message)
      (hne : mark ≠ .char '✓') (he : said = [⟨channel, message⟩]) : False :=
    ne_confirmation_of_mark hmark hne (he ▸ List.append_inj_right' h (by rw [he]; rfl))
  have human (hsilent : s.mode = .json → said = []) : s.mode = .human := by
    cases hmode : s.mode with
    | human => rfl
    | json =>
      rw [hmode] at hreached
      rw [hsilent hmode, List.append_nil] at h
      exact absurd h (not_confirmation_of_json hreached)
  unfold verdict at hverdict
  split at hverdict
  · cases hverdict
    obtain ⟨message, he, hmark⟩ := Report.exists_warning hsaid
    exact (unlike hmark (by decide) he).elim
  · next hrest =>
    split at hverdict
    · next executable =>
      cases hverdict
      refine ⟨human fun hmode => ?_, ?_⟩
      · rw [hmode] at hsaid
        exact (Except.ok.inj hsaid).symm
      · rw [CommandSet.isComplete_of_parse parsed, executable]
        simpa using hrest
    · obtain ⟨candidates, -, rfl⟩ := map_eq_ok_iff.mp hverdict
      have hmode : s.mode = .human := human fun hmode => by
        rw [hmode] at hsaid
        exact (Except.ok.inj hsaid).symm
      rw [hmode] at hsaid
      obtain ⟨message, he, hmark⟩ := Report.exists_info hsaid
      exact (unlike hmark (by decide) he).elim

theorem confirms_iff_trim (s : Session) {line : Text} (hne : Text.trim line ≠ [])
    (command : (Text.trim line).head? ≠ some (.char '/')) :
    s.Confirms line ↔ s.mode = .human ∧ s.commands.isComplete (Text.trim line) = .ok true ∧
      s.Shows (Text.trim line) := by
  rw [Confirms, Query.ofLine_of_command hne command, report]
  constructor
  · rintro ⟨front, h⟩
    rcases lineReport_eq_ok h with ⟨others, m, he, hm⟩ |
      ⟨parse, reached, answer, said, parsed, hreached, hverdict, hsaid, he⟩
    · exact absurd (List.singleton_inj.mp (List.append_inj_right' he rfl)).symm hm
    · obtain ⟨human, complete⟩ := isComplete_of_verdict parsed hreached hverdict hsaid
        (List.append_cancel_right he).symm
      exact ⟨human, complete, parse, reached, parsed, hreached⟩
  · rintro ⟨human, complete, parse, reached, parsed, hreached⟩
    rw [CommandSet.isComplete_of_parse parsed, Except.ok.injEq, Bool.and_eq_true,
      List.isEmpty_iff] at complete
    refine ⟨reached, ?_⟩
    have hverdict : s.verdict parse = .ok (.ok confirmation) := by
      simp [verdict, complete.1, complete.2, human, Report.done_human, confirmation]
    simp only [lineReport, parsed, hreached, hverdict]
    rfl

-- A line is confirmed if and only if it is complete without the blanks around it. This agrees with
-- the line as it stands unless it ends in an argument, which is never confirmed, or in a literal
-- whose name ends in a blank.
theorem confirms_iff (s : Session) {line : Text} (hne : Text.trim line ≠ [])
    (command : (Text.trim line).head? ≠ some (.char '/')) :
    (s.Confirms line ↔ s.mode = .human ∧ s.commands.isComplete (Text.trim line) = .ok true ∧
      s.Shows (Text.trim line)) ∧
    ∀ parse, s.commands.parse line = .ok parse →
      (parse.Firm → (s.Confirms line ↔ s.mode = .human ∧ s.commands.isComplete line = .ok true ∧
        s.Shows (Text.trim line))) ∧
      (s.commands.grammar.ArgumentLast → parse.remainder = [] →
        parse.tip.node.kind = .argument →
          ¬s.Confirms line ∧ s.commands.isComplete line = .ok parse.tip.node.executable) := by
  have trimmed := s.confirms_iff_trim hne command
  refine ⟨trimmed, fun parse parsed => ⟨fun firm => ?_, fun last whole kind => ⟨?_, ?_⟩⟩⟩
  · rw [trimmed, CommandSet.isComplete_trim_of_firm hne parsed firm]
  · rw [trimmed, CommandSet.isComplete_trim_of_argument last hne parsed whole kind]
    simp
  · rw [CommandSet.isComplete_of_parse parsed, whole]
    rfl

-- A session over the sample without its last commands.
def sample : Session :=
  ⟨.human, ⟨Sample.orderly, Sample.registries⟩, .memory, .text "> "⟩

theorem sample_shows : sample.Shows "gamemode survival" := by
  let spot : sample.commands.grammar.Spot :=
    sample.commands.grammar.spotAt ["gamemode", "survival"] (by decide)
  let parse : Parse sample.commands.grammar := ⟨spot, [], [], ["gamemode", "survival"]⟩
  have hpath : pathOr "[dim]<root>[/dim]" parse.path = ("gamemode survival" : Text) := by
    rw [pathOr, plain, Markup.escape_of_plain (by decide)]
    decide
  have hrest : plain (quote parse.remainder) = ("''" : Text) := by
    rw [plain, Markup.escape_of_plain (by decide)]
    decide
  have htip : parse.tip.node.kind = .literal ∧ parse.tip.node.executable = true := by
    decide
  let rows : List (List Text) :=
    [["Path", "gamemode survival"], ["Tip", "literal (executable)"], ["Remainder", "''"]]
  have hrows : parse.rows = rows := by
    simp only [Parse.rows, hpath, hrest, htip]
    decide
  have looked : ({ rows := rows, framed := false } : Table).look = .ok
      [[⟨"Path", []⟩, ⟨"Tip", []⟩, ⟨"Remainder", []⟩],
        [⟨"gamemode survival", []⟩, ⟨"literal (executable)", []⟩, ⟨"''", []⟩]] := by
    rw [Table.look_of_plain rfl (by decide)]
    decide
  let lines : List Text := ["  Path         gamemode survival     ",
    "  Tip          literal (executable)  ", "  Remainder    ''                    "]
  have shown : ({ rows := rows, framed := false } : Table).text = .ok (Report.ended lines) := by
    rw [Table.text, looked]
    decide +kernel
  have reported : Report.parse .human "gamemode survival" parse =
      .ok (Report.onOut (Report.ended lines)) := by
    rw [Report.parse, hrows, shown]
    rfl
  exact ⟨parse, _, by decide +kernel, reported⟩

-- A literal with blanks around the line, and an argument with a blank behind it.
theorem confirms_iff_sample :
    let literal : Text := "  gamemode survival "
    let argument : Text := "say hi "
    sample.commands.isComplete literal = .ok true ∧ sample.Confirms literal ∧
      sample.commands.isComplete argument = .ok true ∧ ¬sample.Confirms argument := by
  intro literal argument
  let g := sample.commands.grammar
  let survival : Parse g :=
    ⟨g.spotAt ["gamemode", "survival"] (by decide), [], [], ["gamemode", "survival"]⟩
  let message : Parse g :=
    ⟨g.spotAt ["say", "message"] (by decide), [], [("message", "hi")], ["say", "message"]⟩
  have parsedLiteral : sample.commands.parse literal = .ok survival := by decide +kernel
  have parsedArgument : sample.commands.parse argument = .ok message := by decide +kernel
  have firm : survival.Firm := fun _ => ⟨by decide, by decide⟩
  have kind : message.tip.node.kind = .argument := by decide
  have complete : sample.commands.isComplete literal = .ok true := by decide +kernel
  have shows : sample.Shows (Text.trim literal) := by
    have trimmed : Text.trim literal = ("gamemode survival" : Text) := by decide
    exact trimmed ▸ sample_shows
  have ofLiteral := ((confirms_iff sample (by decide) (by decide)).2 _
    parsedLiteral).1 firm
  have ofArgument := ((confirms_iff sample (by decide) (by decide)).2 _
    parsedArgument).2 Sample.orderly_argumentLast rfl kind
  have executable : message.tip.node.executable = true := by decide
  exact ⟨complete, ofLiteral.mpr ⟨rfl, complete, shows⟩, executable ▸ ofArgument.2, ofArgument.1⟩

-- A selector with a blank behind it completes a command, but the blank is gone before the line is
-- parsed.
theorem exists_complete_not_confirmed :
    let line : Text := "clear @p "
    sample.commands.grammar.Acyclic ∧ Text.trim line ≠ [] ∧
      (Text.trim line).head? ≠ some (.char '/') ∧
      sample.commands.isComplete line = .ok true ∧ ¬sample.Confirms line := by
  intro line
  have hne : Text.trim line ≠ [] := by decide
  have command : (Text.trim line).head? ≠ some (.char '/') := by decide
  have incomplete : sample.commands.isComplete (Text.trim line) = .ok false := by decide +kernel
  refine ⟨Sample.orderly_acyclic, hne, command, by decide +kernel, ?_⟩
  rw [sample.confirms_iff_trim hne command, incomplete]
  simp

end Session

end CommandCompletion.Program
