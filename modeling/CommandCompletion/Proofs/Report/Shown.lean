import CommandCompletion.Proofs.Markup.Escape
import CommandCompletion.Proofs.Report.Sign
import CommandCompletion.Proofs.Text.Half

namespace CommandCompletion

namespace Markup.Styled

variable {s t : Styled}

-- Text without styles that cannot be shown keeps none when it is laid out.
theorem faulty_part (h : s.faulty = []) (start : Nat) (piece : Text) :
    (s.part start piece).faulty = [] := by
  rw [part, h]
  rfl

theorem faulty_parts (h : s.faulty = []) (gap start : Nat) (pieces : List Text) :
    ∀ t ∈ s.parts gap start pieces, t.faulty = [] := by
  induction pieces generalizing start with
  | nil => exact nofun
  | cons piece pieces ih =>
    rw [parts]
    exact List.forall_mem_cons.mpr ⟨faulty_part h start piece, ih _⟩

theorem faulty_divide (h : s.faulty = []) (gap : Nat) (pieces : List Text) :
    ∀ t ∈ s.divide gap pieces, t.faulty = [] := by
  unfold divide
  split
  · exact List.forall_mem_singleton.mpr h
  · exact faulty_parts h gap 0 pieces

theorem faulty_withText (h : s.faulty = []) (text : Text) : (s.withText text).faulty = [] := by
  simp [withText, h]

theorem faulty_append (h : s.faulty = []) (h' : t.faulty = []) : (s ++ t).faulty = [] := by
  show s.faulty ++ t.faulty.map _ = []
  rw [h, h']
  rfl

theorem faulty_expandTab (h : s.faulty = []) (column : Nat) : (s.expandTab column).faulty = [] := by
  unfold expandTab
  split
  · rw [pad, faulty_withText h]
    rfl
  · exact h

theorem faulty_expandPieces {pieces : List Styled} (h : ∀ s ∈ pieces, s.faulty = [])
    (column : Nat) : (expandPieces column pieces).faulty = [] := by
  induction pieces generalizing column with
  | nil => rfl
  | cons piece pieces ih =>
    obtain ⟨hpiece, hpieces⟩ := List.forall_mem_cons.mp h
    exact faulty_append (faulty_expandTab hpiece column) (ih hpieces _)

theorem faulty_expandTabs (h : s.faulty = []) : s.expandTabs.faulty = [] := by
  unfold expandTabs
  split
  · exact faulty_expandPieces (faulty_parts h 0 0 _) 0
  · exact h

theorem faulty_lines (h : s.faulty = []) : ∀ line ∈ s.lines, line.faulty = [] :=
  List.forall_mem_map.mpr fun line hline => faulty_expandTabs (faulty_divide h 1 _ line hline)

theorem faulty_layOut (h : s.faulty = []) (overflow : Text.Overflow) (alignment : Alignment)
    (limit : Nat) : ∀ line ∈ s.layOut overflow alignment limit, line.faulty = [] := by
  intro line hline
  obtain ⟨whole, hwhole, hmem⟩ := List.mem_flatMap.mp hline
  obtain ⟨piece, hpiece, rfl⟩ := List.mem_map.mp hmem
  have hcut := faulty_withText (faulty_divide (faulty_lines h whole hwhole) 0 _ piece hpiece)
    (Text.trimBeyond limit piece.text)
  dsimp only
  split
  · exact faulty_withText (faulty_withText hcut _) _
  · exact faulty_withText hcut _

theorem seen_of_faulty (h : s.faulty = []) : s.seen = .ok s.text := by
  rw [seen, h]
  rfl

end Markup.Styled

namespace Report

open Markup (IsSign sign)

-- What can be shown: its markup is not broken, and no half of a character is on the first channel.
def Shown (made : Report) : Prop :=
  ∃ o, made = .ok o ∧ ∀ m ∈ o, m.channel = .out → m.text.hasHalf = false

theorem document_eq (v : Value) : document v = [⟨.out, .ofChars (Json.print v ++ ['\n'])⟩] := by
  rw [document, onOut, Text.ofChars, Text.ofChars, List.map_append]
  rfl

theorem shown_document (v : Value) : Shown (.ok (document v)) := by
  refine ⟨_, rfl, ?_⟩
  rw [document_eq]
  exact List.forall_mem_singleton.mpr fun _ => Text.hasHalf_ofChars _

-- Every message behind a sign is shown, since nothing in it counts as a tag.
theorem exists_seen_signed {style : Text} {mark : CodePoint} {marked : String}
    (h : IsSign style mark) (hmarked : Text.ofString marked = sign style mark)
    {opened : List Markup.Tag} (hopen : Markup.turn [] 0 style = .ok (opened, []))
    (hclose : Markup.turn opened 1 (.char '/' :: style) = .ok ([], [])) (message : Text) :
    ∃ text, seen (signed marked message) = .ok text := by
  obtain ⟨text, htext⟩ := h.exists_visible_escape hopen hclose message
  rw [signed_eq hmarked]
  exact ⟨_, seen_eq_ok htext (mapM_eq_ok fun line hline =>
    Markup.Styled.seen_of_faulty (Markup.Styled.faulty_layOut rfl _ _ _ line hline))⟩

theorem isSign_problem : IsSign "red" (.char '✗') :=
  ⟨by decide, by decide, by decide, by decide, by decide +kernel⟩

theorem sign_problem : ("[red]✗[/red]" : Text) = sign "red" (.char '✗') := by
  decide

-- Problems are always shown.
theorem shown_problem (mode : Mode) (message : Text) : Shown (problem mode message) := by
  cases mode with
  | json => exact shown_document _
  | human =>
    have hopen : Markup.turn [] 0 "red" = .ok ([⟨"red", none, 0⟩], []) := by decide +kernel
    have hclose : Markup.turn [⟨"red", none, 0⟩] 1 (.char '/' :: "red") = .ok ([], []) := by
      decide +kernel
    obtain ⟨text, htext⟩ := exists_seen_signed isSign_problem sign_problem hopen hclose message
    refine ⟨onErr text, by rw [problem, htext]; rfl, ?_⟩
    exact List.forall_mem_singleton.mpr nofun

end Report

end CommandCompletion
