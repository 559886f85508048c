import CommandCompletion.Editor
import CommandCompletion.Proofs.Line.Acceptance
import CommandCompletion.Proofs.Line.Ending
import CommandCompletion.Proofs.Line.Joining
import CommandCompletion.Proofs.Line.Narrowing

namespace CommandCompletion

open Text (IsWord IsGap Flush Settled)

namespace Edit

-- What an edit leaves of the line before the cursor.
def kept (edit : Edit) (line : Text) : Text :=
  line.take (line.length - edit.back)

-- The line before the cursor after an edit.
def apply (edit : Edit) (line : Text) : Text :=
  edit.kept line ++ edit.text

-- An edit that takes as much as stands at the end keeps what stands in front.
theorem kept_append {edit : Edit} {front rest : Text} (h : edit.back = rest.length) :
    edit.kept (front ++ rest) = front := by
  rw [kept, h]
  exact List.take_left' (by simp)

end Edit

-- What a child offers begins with a word.
theorem Node.flush_of_offers {r : Registries} (identifiers : r.Plain) {node : Node} {name : Text}
    (plain : node.kind = .literal → IsWord name) {c : Candidate} (h : c ∈ node.offers name r) :
    c.label ≠ [] ∧ Flush c.label := by
  have begins (phrase : Phrase) (bound : Option Text) (htext : phrase.text = c.label ++ " ")
      (spelled : node.Spelled name phrase bound) : Flush (c.label ++ " ") := by
    rw [← htext, ← List.append_nil phrase.text]
    exact spelled.flush_append plain fun _ => rfl
  have flush : Flush (c.label ++ " ") := by
    obtain ⟨phrase, htext, ⟨-, -, -, spelled⟩ | ⟨-, -, spelled, -⟩⟩ :=
      Node.exists_phrase_of_offers identifiers h
    · exact begins phrase none htext spelled
    · exact begins phrase (some c.label) htext spelled
  constructor
  · intro hnil
    rw [hnil] at flush
    exact absurd flush (by decide)
  · have hlabel := flush.of_append Text.flush_nil
    rwa [List.append_nil] at hlabel

namespace Editor

variable {s : CommandSet} {commands : Dict Text} {line : Text} {edit : Edit}

-- The current line is the last one before the cursor.
theorem exists_lineBefore (text : Text) (cursor : Nat) :
    ∃ front, text.take cursor = front ++ lineBefore text cursor ∧
      (front = [] ∨ front.getLast? = some (.char '\n')) ∧
      .char '\n' ∉ lineBefore text cursor := by
  refine ⟨((text.take cursor).reverse.dropWhile (· ≠ .char '\n')).reverse, ?_, ?_, ?_⟩
  · rw [lineBefore, ← List.reverse_append, List.takeWhile_append_dropWhile, List.reverse_reverse]
  · have hhead := List.head?_dropWhile_not (· ≠ .char '\n') (text.take cursor).reverse
    rw [List.getLast?_reverse, List.reverse_eq_nil_iff]
    cases hrest : (text.take cursor).reverse.dropWhile (· ≠ .char '\n') with
    | nil => exact .inl rfl
    | cons c rest =>
      rw [hrest] at hhead
      exact .inr (congrArg some (by simpa using hhead))
  · rw [lineBefore, List.mem_reverse]
    exact fun hmem => absurd (List.mem_takeWhile_imp hmem) (by decide)

theorem parse_trimStart (s : CommandSet) (line : Text) :
    s.parse (Text.trimStart line) = s.parse line :=
  CommandSet.parse_of_flush (Text.flush_trimStart line)

-- Where a line is no command of the prompt, each candidate is put in the place of the remainder.
theorem edits_of_suggest (command : (Text.trimStart line).head? ≠ some (.char '/'))
    {parse : Parse s.grammar} {candidates : List Candidate} (parsed : s.parse line = .ok parse)
    (suggested : s.suggest parse = .ok candidates) :
    edits s commands line =
      candidates.map fun c => ⟨c.label, parse.remainder.length, describe c⟩ := by
  unfold edits
  simp only [parse_trimStart, parsed, suggested]
  exact if_neg command

theorem edits_of_error (command : (Text.trimStart line).head? ≠ some (.char '/'))
    {fault : RedirectFault} (parsed : s.parse line = .error fault) :
    edits s commands line = [] := by
  unfold edits
  simp only [parse_trimStart, parsed]
  exact if_neg command

theorem edits_of_command (command : (Text.trimStart line).head? = some (.char '/')) :
    edits s commands line = localEdits commands (Text.trimStart line) :=
  if_pos command

-- Where a line is no command of the prompt, each edit puts a candidate in the place of the
-- remainder.
theorem exists_candidate_of_mem_edits (command : (Text.trimStart line).head? ≠ some (.char '/'))
    (h : edit ∈ edits s commands line) :
    ∃ parse candidates c, s.parse line = .ok parse ∧ s.suggest parse = .ok candidates ∧
      c ∈ candidates ∧ edit.text = c.label ∧ edit.back = parse.remainder.length := by
  rcases s.complete_cases line with ⟨hops, parsed⟩ | ⟨parse, candidates, parsed, suggested⟩
  · rw [edits_of_error command parsed] at h
    cases h
  · rw [edits_of_suggest command parsed suggested] at h
    obtain ⟨c, hc, rfl⟩ := List.mem_map.mp h
    exact ⟨parse, candidates, c, parsed, suggested, hc, rfl, rfl⟩

-- An accepted edit leaves what was parsed as it is if and only if the text that it is put behind is
-- empty or ends in a blank.
theorem complete_keeps_iff (s : CommandSet) (plain : s.grammar.PlainNames)
    (last : s.grammar.ArgumentLast) (acyclic : s.grammar.Acyclic)
    (identifiers : s.registries.Plain) (commands : Dict Text) (text : Text) (cursor : Nat)
    (command : (Text.trimStart (lineBefore text cursor)).head? ≠ some (.char '/'))
    (hmem : edit ∈ complete s commands text cursor) :
    ∃ parse edited, s.parse (lineBefore text cursor) = .ok parse ∧
      s.parse (edit.apply (lineBefore text cursor)) = .ok edited ∧
      (parse.path <+: edited.path ↔ Settled (edit.kept (lineBefore text cursor))) := by
  obtain ⟨parse, candidates, c, parsed, suggested, hc, htext, hback⟩ :=
    exists_candidate_of_mem_edits command hmem
  generalize lineBefore text cursor = line at *
  obtain ⟨steps, course, ⟨children, hchildren, -⟩, -, hpath⟩ :=
    Grammar.parseFrom_eq_ok_iff.mp parsed
  obtain ⟨name, child, offer, hchild, hoffer, hlabel, -⟩ :=
    Grammar.exists_offer_of_suggest suggested hc hchildren
  obtain ⟨hne, flush⟩ := Node.flush_of_offers identifiers (plain.isWord hchildren hchild) hoffer
  rw [← hlabel, ← htext] at hne flush
  obtain ⟨indent, blank, hindent⟩ := Text.exists_gap line
  have hkept : edit.kept line = indent ++ steps.flatMap (·.taken) := by
    rw [course.whole, ← List.append_assoc] at hindent
    rw [Edit.kept, hback, hindent]
    exact List.take_left' (by simp only [List.length_append]; omega)
  have again : Flush (steps.flatMap (·.taken) ++ edit.text) :=
    (course.whole ▸ Text.flush_trimStart line).of_append flush
  have happly : s.parse (edit.apply line) =
      s.grammar.parseFrom s.grammar.top (steps.flatMap (·.taken) ++ edit.text) := by
    rw [Edit.apply, hkept, List.append_assoc, CommandSet.parse,
      Text.trimStart_gap_append blank again]
    rfl
  obtain ⟨edited, hedited⟩ :=
    acyclic.exists_parseFrom s.grammar.top (steps.flatMap (·.taken) ++ edit.text)
  refine ⟨parse, edited, parsed, happly.trans hedited, ?_⟩
  rw [hkept, blank.settled_append, hpath]
  exact course.prefix_iff_settled plain last hne flush hedited

-- A word of an indented line that is finished, behind another line.
theorem complete_keeps_iff_sample :
    let s : CommandSet := ⟨Sample.orderly, Sample.registries⟩
    let text : Text := "say hi\n  gamemode  sur"
    let edit : Edit := ⟨"survival", 3, "keyword"⟩
    edit ∈ complete s [] text 22 ∧ lineBefore text 22 = ("  gamemode  sur" : Text) ∧
      edit.apply (lineBefore text 22) = ("  gamemode  survival" : Text) ∧
      ∃ parse edited, s.parse (lineBefore text 22) = .ok parse ∧
        s.parse (edit.apply (lineBefore text 22)) = .ok edited ∧ parse.path <+: edited.path := by
  intro s text edit
  have command : (Text.trimStart (lineBefore text 22)).head? ≠ some (.char '/') := by decide
  have hmem : edit ∈ complete s [] text 22 := by decide +kernel
  have settled : Settled (edit.kept (lineBefore text 22)) := by decide
  obtain ⟨parse, edited, parsed, hedited, keeps⟩ :=
    complete_keeps_iff s Sample.orderly_plainNames Sample.orderly_argumentLast
      Sample.orderly_acyclic Sample.registries_plain [] text 22 command hmem
  exact ⟨hmem, by decide, by decide, parse, edited, parsed, hedited, keeps.mpr settled⟩

-- Behind a name at the end of the line a candidate is put without a blank, and the name is lost.
theorem exists_edit_losing_path :
    let s : CommandSet := ⟨Sample.orderly, Sample.registries⟩
    let text : Text := "gamemode"
    let edit : Edit := ⟨"survival", 0, "keyword"⟩
    s.grammar.PlainNames ∧ s.grammar.ArgumentLast ∧ s.grammar.Acyclic ∧ s.registries.Plain ∧
      (Text.trimStart (lineBefore text 8)).head? ≠ some (.char '/') ∧
      edit ∈ complete s [] text 8 ∧ edit.apply (lineBefore text 8) = ("gamemodesurvival" : Text) ∧
      ∃ parse edited, s.parse (lineBefore text 8) = .ok parse ∧
        s.parse (edit.apply (lineBefore text 8)) = .ok edited ∧
        parse.path = (["gamemode"] : Path) ∧ edited.path = [] ∧ ¬parse.path <+: edited.path := by
  intro s text edit
  let spot := s.grammar.spotAt ["gamemode"] (by decide +kernel)
  have parsed : s.parse (lineBefore text 8) = .ok ⟨spot, [], [], ["gamemode"]⟩ := by
    decide +kernel
  have edited : s.parse (edit.apply (lineBefore text 8)) =
      .ok ⟨s.grammar.top, "gamemodesurvival", [], []⟩ := by
    decide +kernel
  exact ⟨Sample.orderly_plainNames, Sample.orderly_argumentLast, Sample.orderly_acyclic,
    Sample.registries_plain, by decide, by decide +kernel, by decide, _, _, parsed, edited, rfl, rfl,
    by decide⟩

-- The commands of the prompt that go on from the typed text, each in the place of all of it.
theorem localEdits_eq (commands : Dict Text) (typed : Text) :
    (localEdits commands typed).map (·.text) = commands.keys.filter (typed <+: ·) ∧
      ∀ edit ∈ localEdits commands typed, edit.back = typed.length := by
  have hsame : (fun command : Text => decide (typed <+: command)) = (typed.isPrefixOf ·) := by
    funext command
    exact Bool.eq_iff_iff.mpr (decide_eq_true_iff.trans List.isPrefixOf_iff_prefix.symm)
  constructor
  · rw [hsame, Dict.keys, List.filter_map, localEdits, List.map_map]
    rfl
  · exact List.forall_mem_map.mpr fun _ _ => rfl

-- The laws of edits. A slash behind the indentation of the current line asks for the commands of
-- the prompt, which replace all but the indentation. Any other line gets the candidates for it in
-- their order, each in the place of the remainder that it goes on from, and nothing if its
-- redirects run in a circle.
theorem complete_laws (s : CommandSet) (commands : Dict Text) (text : Text) (cursor : Nat) :
    let line := lineBefore text cursor
    let typed := Text.trimStart line
    let edits := complete s commands text cursor
    (∃ front, text.take cursor = front ++ line ∧
      (front = [] ∨ front.getLast? = some (.char '\n')) ∧ .char '\n' ∉ line) ∧
    ∃ indent, line = indent ++ typed ∧ IsGap indent ∧ Flush typed ∧
      (typed.head? = some (.char '/') →
        edits.map (·.text) = commands.keys.filter (typed <+: ·) ∧
          ∀ edit ∈ edits, edit.back = typed.length ∧ edit.kept line = indent) ∧
      (typed.head? ≠ some (.char '/') →
        (∃ hops, s.complete line = .error (.cycle hops) ∧ edits = []) ∨
          ∃ parse candidates consumed, s.parse line = .ok parse ∧
            s.complete line = .ok candidates ∧
            edits.map (·.text) = candidates.map (·.label) ∧
            typed = consumed ++ parse.remainder ∧
            ∀ edit ∈ edits, edit.back = parse.remainder.length ∧
              edit.kept line = indent ++ consumed ∧ Continues parse.remainder edit.text) := by
  intro line typed edits
  obtain ⟨indent, blank, hindent⟩ := Text.exists_gap line
  refine ⟨exists_lineBefore text cursor, indent, hindent, blank, Text.flush_trimStart line, ?_, ?_⟩
  · intro command
    have hedits : edits = localEdits commands typed := edits_of_command command
    obtain ⟨htexts, hback⟩ := localEdits_eq commands typed
    rw [hedits]
    refine ⟨htexts, fun edit hedit => ⟨hback edit hedit, ?_⟩⟩
    rw [hindent]
    exact Edit.kept_append (hback edit hedit)
  · intro command
    rcases s.complete_cases line with ⟨hops, parsed⟩ | ⟨parse, candidates, parsed, suggested⟩
    · refine .inl ⟨hops, ?_, edits_of_error command parsed⟩
      rw [CommandSet.complete, parsed]
      rfl
    · have hedits : edits =
          candidates.map fun c => ⟨c.label, parse.remainder.length, describe c⟩ :=
        edits_of_suggest command parsed suggested
      have completed : s.complete line = .ok candidates := by
        rw [CommandSet.complete, parsed]
        exact suggested
      obtain ⟨steps, course, -⟩ := Grammar.parseFrom_eq_ok_iff.mp parsed
      refine .inr ⟨parse, candidates, steps.flatMap (·.taken), parsed, completed, ?_,
        course.whole, ?_⟩
      · rw [hedits, List.map_map]
        rfl
      · rw [hedits]
        refine List.forall_mem_map.mpr fun c hc =>
          ⟨rfl, ?_, Grammar.continues_of_suggest suggested hc⟩
        have hline : line = (indent ++ steps.flatMap (·.taken)) ++ parse.remainder := by
          rw [List.append_assoc, ← course.whole]
          exact hindent
        rw [hline]
        exact Edit.kept_append rfl

-- Items for a line that stands between two others, without their namespace.
theorem complete_laws_sample :
    let text : Text := "say hi\n  give @p dia\nclear"
    let edits := complete Sample.commands [] text 20
    lineBefore text 20 = ("  give @p dia" : Text) ∧
      edits.map (·.text) = ["minecraft:diamond", "minecraft:diamond_sword"] ∧
      ∀ edit ∈ edits, edit.kept (lineBefore text 20) = ("  give @p " : Text) ∧
        Continues "dia" edit.text := by
  intro text edits
  have command : (Text.trimStart (lineBefore text 20)).head? ≠ some (.char '/') := by decide
  let tip := Sample.grammar.spotAt ["give", "targets"] (by decide +kernel)
  have parsed : Sample.commands.parse (lineBefore text 20) =
      .ok ⟨tip, "dia", [("targets", "@p")], ["give", "targets"]⟩ := by
    decide +kernel
  have labels : (Sample.commands.complete (lineBefore text 20)).map (·.map (·.label)) =
      .ok ["minecraft:diamond", "minecraft:diamond_sword"] := by
    decide +kernel
  obtain ⟨-, indent, hline, -, -, -, hlaws⟩ := complete_laws Sample.commands [] text 20
  rcases hlaws command with
    ⟨hops, hfault, -⟩ | ⟨parse, candidates, consumed, hparse, hcandidates, htexts, htyped, hedits⟩
  · rw [hfault] at labels
    cases labels
  · rw [hcandidates] at labels
    obtain rfl := Except.ok.inj (hparse.symm.trans parsed)
    have hconsumed : indent ++ consumed = ("  give @p " : Text) := by
      have hwhole : (indent ++ consumed) ++ ("dia" : Text) = "  give @p dia" := by
        rw [List.append_assoc, ← htyped]
        exact hline.symm
      exact List.append_cancel_right (hwhole.trans (by decide : _ = ("  give @p " : Text) ++ "dia"))
    refine ⟨by decide, htexts.trans (Except.ok.inj labels), fun edit hedit => ?_⟩
    obtain ⟨-, hkept, hcontinues⟩ := hedits edit hedit
    exact ⟨hkept.trans hconsumed, hcontinues⟩

end Editor

end CommandCompletion
