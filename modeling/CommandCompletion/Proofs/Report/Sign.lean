import CommandCompletion.Proofs.Markup.Sign
import CommandCompletion.Proofs.Text.Wrap
import CommandCompletion.Report.Basic

namespace CommandCompletion

open Text (isBlank pointWidth)

namespace Markup.Styled

variable {s : Styled} {front : Text}

theorem text_append (s t : Styled) : (s ++ t).text = s.text ++ t.text :=
  rfl

-- The first of some pieces has the text that is cut off first, or all there is.
theorem exists_divide (s : Styled) (gap : Nat) (piece : Text) (pieces : List Text) :
    ∃ first others, s.divide gap (piece :: pieces) = first :: others ∧
      (first.text = s.text ∨ first.text = piece) := by
  unfold divide
  split
  · exact ⟨s, [], rfl, .inl rfl⟩
  · exact ⟨_, _, rfl, .inr rfl⟩

-- A tab stands at the end of its piece, and so behind what has no tab in it.
theorem prefix_expandTab (h : front <+: s.text) (tabs : .char '\t' ∉ front) (column : Nat) :
    front <+: (s.expandTab column).text := by
  obtain ⟨rest, hrest⟩ := h
  unfold expandTab
  split
  · next hlast =>
    have hne : rest ≠ [] := by
      rintro rfl
      rw [List.append_nil] at hrest
      exact tabs (hrest ▸ List.mem_of_getLast? hlast)
    simp only [pad, withText, ← hrest, List.dropLast_append_of_ne_nil hne, List.append_assoc]
    exact List.prefix_append _ _
  · exact ⟨rest, hrest⟩

theorem prefix_expandTabs (h : front <+: s.text) (hne : front ≠ []) (tabs : .char '\t' ∉ front) :
    front <+: s.expandTabs.text := by
  unfold expandTabs
  split
  · obtain ⟨rest, hrest⟩ := h
    obtain ⟨more, others, hpieces⟩ := Text.exists_tabPieces hne tabs rest
    rw [← hrest, hpieces, parts, expandPieces, text_append]
    exact (prefix_expandTab (List.prefix_append _ _) tabs 0).trans (List.prefix_append _ _)
  · exact h

-- The first line begins as the text does.
theorem exists_lines (h : front <+: s.text) (hne : front ≠ []) (tabs : .char '\t' ∉ front)
    (ends : .char '\n' ∉ front) :
    ∃ first others, s.lines = first :: others ∧ front <+: first.text := by
  obtain ⟨rest, hrest⟩ := h
  obtain ⟨line, more, hlines⟩ := Text.exists_splitLines ends rest
  obtain ⟨first, others, hdivide, htext⟩ := s.exists_divide 1 (front ++ line) more
  have hfirst : front <+: first.text := by
    rcases htext with he | he <;> rw [he]
    · exact ⟨rest, hrest⟩
    · exact List.prefix_append _ _
  refine ⟨first.expandTabs, others.map (·.expandTabs), ?_, prefix_expandTabs hfirst hne tabs⟩
  rw [lines, ← hrest, hlines, hdivide, List.map_cons]

-- On a page the first line begins with the mark.
theorem exists_layOut {mark : CodePoint} (ink : isBlank mark = false) (width : pointWidth mark = 1)
    (h : [mark, .char ' '] <+: s.text) {limit : Nat} (roomy : 2 ≤ limit) :
    ∃ first others, s.layOut .fold .left limit = first :: others ∧ [mark] <+: first.text := by
  have absent {c : CodePoint} (blank : isBlank c = true) (hne : c ≠ .char ' ') :
      c ∉ [mark, .char ' '] := by
    have hmark : c ≠ mark := by
      rintro rfl
      simp [blank] at ink
    simp [hmark, hne]
  have tabs : .char '\t' ∉ [mark, .char ' '] := absent (by decide) (by decide)
  have ends : .char '\n' ∉ [mark, .char ' '] := absent (by decide) (by decide)
  obtain ⟨line, rest, hlines, hline⟩ := exists_lines h (by simp) tabs ends
  obtain ⟨behind, hbehind⟩ := id hline
  have hpositive : 0 < limit := Nat.lt_of_lt_of_le Nat.zero_lt_two roomy
  obtain ⟨piece, pieces, hwrap, hpiece⟩ := Text.exists_wrap ink width .fold hpositive behind
  obtain ⟨first, others, hdivide, htext⟩ := line.exists_divide 0 piece pieces
  have hfirst : [mark, .char ' '] <+: first.text := by
    rcases htext with he | he <;> rw [he]
    · exact hline
    · exact hpiece
  have htrimmed : [mark, .char ' '] <+: Text.trimBeyond limit first.text :=
    Text.prefix_trimBeyond hfirst (by simpa using roomy)
  have hpieces : Text.wrap .fold limit line.text = piece :: pieces := hbehind ▸ hwrap
  rw [layOut, hlines, List.flatMap_cons, hpieces, hdivide, List.map_cons, List.cons_append]
  exact ⟨_, _, rfl, Text.prefix_truncate width htrimmed hpositive⟩

theorem text_of_seen {text : Text} (h : s.seen = .ok text) : text = s.text := by
  unfold seen at h
  split at h
  · exact (Except.ok.inj h).symm
  · cases h

end Markup.Styled

namespace Report

open Markup (IsSign sign)

-- What is seen of a message behind a sign begins with its mark.
theorem prefix_seen {style : Text} {mark : CodePoint} (h : IsSign style mark) {message text : Text}
    (hseen : seen (sign style mark ++ .char ' ' :: message) = .ok text) : [mark] <+: text := by
  obtain ⟨s, hvisible, hseen⟩ := bind_eq_ok_iff.mp hseen
  obtain ⟨first, others, hlines, hfirst⟩ :=
    Markup.Styled.exists_layOut h.ink h.width (h.prefix_visible hvisible)
      (by decide : 2 ≤ pageWidth)
  rw [hlines] at hseen
  obtain ⟨lines, hshown, hended⟩ := bind_eq_ok_iff.mp hseen
  obtain ⟨line, more, hline, -, rfl⟩ := mapM_cons_eq_ok_iff.mp hshown
  rw [← Markup.Styled.text_of_seen hline] at hfirst
  cases hended
  exact hfirst.trans ⟨"\n" ++ ended more, (List.append_assoc _ _ _).symm⟩

-- The signs of finished commands, warnings and hints.
theorem isSign_done : IsSign "green" (.char '✓') :=
  ⟨by decide, by decide, by decide, by decide, by decide +kernel⟩

theorem isSign_warning : IsSign "yellow" (.char '!') :=
  ⟨by decide, by decide, by decide, by decide, by decide⟩

theorem isSign_info : IsSign "dim" (.char 'ℹ') :=
  ⟨by decide, by decide, by decide, by decide, by decide +kernel⟩

theorem sign_done : ("[green]✓[/green]" : Text) = sign "green" (.char '✓') := by
  decide

theorem sign_warning : ("[yellow]![/yellow]" : Text) = sign "yellow" (.char '!') := by
  decide

theorem sign_info : ("[dim]ℹ[/dim]" : Text) = sign "dim" (.char 'ℹ') := by
  decide

theorem signed_eq {style : Text} {mark : CodePoint} {marked : String}
    (h : Text.ofString marked = sign style mark) (message : Text) :
    signed marked message = sign style mark ++ .char ' ' :: Markup.escape message := by
  rw [signed, h, List.append_assoc]
  rfl

theorem seen_eq_ok {markup : Text} {s : Markup.Styled} {lines : List Text}
    (hvisible : Markup.visible markup = .ok s)
    (hlines : (s.layOut .fold .left pageWidth).mapM (·.seen) = .ok lines) :
    seen markup = .ok (ended lines) :=
  bind_eq_ok_iff.mpr ⟨s, hvisible, bind_eq_ok_iff.mpr ⟨lines, hlines, rfl⟩⟩

theorem done_human : done .human "Complete command." = .ok (onOut "✓ Complete command.\n") := by
  have plain : ∀ c ∈ ("Complete command." : Text), Markup.IsPlain c := by decide
  have hopen : Markup.turn [] 0 "green" = .ok ([⟨"green", none, 0⟩], []) := by decide +kernel
  have hclose : Markup.turn [⟨"green", none, 0⟩] 1 (.char '/' :: "green") = .ok ([], []) := by
    decide +kernel
  have hlines : ((Markup.Styled.mk (.char '✓' :: .char ' ' :: "Complete command.") []).layOut
      .fold .left pageWidth).mapM (·.seen) = .ok ["✓ Complete command."] := by
    decide +kernel
  have hended : ended ["✓ Complete command."] = "✓ Complete command.\n" := by decide
  have hseen := seen_eq_ok (isSign_done.visible_of_plain hopen hclose plain) hlines
  rw [done, signed_eq sign_done, Markup.escape_of_plain plain, hseen, hended]
  rfl

-- A warning is one message, which people see begin with its mark.
theorem exists_warning {mode : Mode} {message : Text} {said : Output}
    (h : warning mode message = .ok said) :
    ∃ text, said = [⟨channelFor mode, text⟩] ∧ [.char '!'] <+: text := by
  rw [warning, print, signed_eq sign_warning] at h
  obtain ⟨text, hseen, rfl⟩ := map_eq_ok_iff.mp h
  exact ⟨text, rfl, prefix_seen isSign_warning hseen⟩

theorem exists_info {message : Text} {said : Output} (h : info .human message = .ok said) :
    ∃ text, said = [⟨.out, text⟩] ∧ [.char 'ℹ'] <+: text := by
  rw [info, signed_eq sign_info] at h
  obtain ⟨text, hseen, rfl⟩ := map_eq_ok_iff.mp h
  exact ⟨text, rfl, prefix_seen isSign_info hseen⟩

theorem exists_document (member : Text × Value) (members : List (Text × Value)) :
    ∃ text, document (.table (member :: members)) = [⟨.out, text⟩] ∧ [.char '\x7b'] <+: text := by
  obtain ⟨name, value⟩ := member
  exact ⟨_, rfl, _, rfl⟩

-- A problem is one message and no empty line.
theorem exists_problem {mode : Mode} {message : Text} {said : Output}
    (h : problem mode message = .ok said) : ∃ m, said = [m] ∧ m ≠ ⟨.out, "\n"⟩ := by
  cases mode with
  | human =>
    obtain ⟨text, -, rfl⟩ := map_eq_ok_iff.mp h
    exact ⟨⟨.err, text⟩, rfl, by simp⟩
  | json =>
    cases h
    obtain ⟨text, hdocument, hfront⟩ := exists_document ("status", .text "error")
      [("error", .table [("message", .text message), ("code", .int 1)])]
    refine ⟨⟨.out, text⟩, hdocument, ?_⟩
    intro he
    cases he
    exact absurd hfront (by decide)

end Report

end CommandCompletion
