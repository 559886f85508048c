import CommandCompletion.Proofs.Markup.Nesting
import CommandCompletion.Proofs.Report.Shown
import CommandCompletion.Report.Line
import CommandCompletion.Report.Panel

namespace CommandCompletion

open Markup (IsClear IsSign IsStyle Styled isClear_escape isClear_inStyle isClear_of_unbracketed
  isStyle_dim isStyle_of_mem sign)

theorem Markup.Styled.exists_mapM_seen {lines : List Styled} (h : ∀ s ∈ lines, s.faulty = []) :
    ∃ texts, lines.mapM (·.seen) = .ok texts :=
  ⟨_, mapM_eq_ok fun s hs => seen_of_faulty (h s hs)⟩

namespace Table

variable {t : Table}

theorem exists_cellLines {s : Styled} (h : s.faulty = []) (width : Nat) :
    ∃ lines, t.cellLines s width = .ok lines := by
  unfold cellLines
  dsimp only
  split
  · exact ⟨[], rfl⟩
  · obtain ⟨lines, hlines⟩ := Styled.exists_mapM_seen (Styled.faulty_layOut h _ _ _)
    rw [hlines]
    exact ⟨_, rfl⟩

theorem exists_rowLines {cells : List (Styled × Nat)} (h : ∀ cell ∈ cells, cell.1.faulty = [])
    (isHeader : Bool) : ∃ lines, t.rowLines isHeader cells = .ok lines := by
  have laid : ∀ cell ∈ cells, ∃ lines, t.cellLines cell.1 cell.2 = .ok lines ∧ True :=
    fun cell hcell => (exists_cellLines (h cell hcell) cell.2).imp fun _ h => ⟨h, trivial⟩
  obtain ⟨lines, hlines, -⟩ := exists_mapM_eq_ok laid
  rw [rowLines, hlines]
  exact ⟨_, rfl⟩

theorem faulty_row {columns : List (List Styled)}
    (h : ∀ column ∈ columns, ∀ s ∈ column, s.faulty = []) (widths : List Nat) (i : Nat) :
    ∀ cell ∈ row columns widths i, cell.1.faulty = [] := by
  intro cell hcell
  obtain ⟨column, hcolumn, he⟩ := List.mem_map.mp (List.of_mem_zip hcell).1
  rw [← he]
  cases hs : column[i]? with
  | none => rfl
  | some s => exact h column hcolumn s (List.mem_of_getElem? hs)

theorem isClear_cell {cells : List Text} (clear : ∀ text ∈ cells, IsClear text) (i : Nat) :
    IsClear (cell cells i) := by
  unfold cell
  cases htext : cells[i]? with
  | none => exact isClear_of_unbracketed List.not_mem_nil
  | some text => exact clear text (List.mem_of_getElem? htext)

theorem checkStyle_of_unstyled (unstyled : t.styles = []) (i : Nat) : t.checkStyle i = .ok () := by
  rw [checkStyle, unstyled]
  rfl

-- Cells that are clear are seen in styles that can be shown.
theorem exists_look (unstyled : t.styles = [])
    (clear : ∀ cells ∈ t.lines, ∀ text ∈ cells, IsClear text) :
    ∃ columns, t.look = .ok columns ∧ ∀ column ∈ columns, ∀ s ∈ column, s.faulty = [] := by
  refine exists_mapM_eq_ok fun i _ => ?_
  obtain ⟨column, hcolumn, hfaulty⟩ := exists_mapM_eq_ok fun cells hcells =>
    isClear_cell (clear cells hcells) i
  have hblank : ∀ s ∈ t.lines.map fun _ => (⟨[], []⟩ : Styled), s.faulty = [] := by
    rintro s hs
    obtain ⟨_, -, rfl⟩ := List.mem_map.mp hs
    rfl
  rw [checkStyle_of_unstyled unstyled]
  by_cases roomy : t.isRoomy = true
  · refine ⟨column, ?_, hfaulty⟩
    simp only [if_pos roomy, hcolumn]
    split <;> rfl
  · refine ⟨_, ?_, hblank⟩
    simp only [if_neg roomy]
    split <;> rfl

theorem forM_checkStyle (unstyled : t.styles = []) (indices : List Nat) :
    indices.forM t.checkStyle = .ok () := by
  induction indices with
  | nil => rfl
  | cons i indices ih =>
    rw [List.forM, checkStyle_of_unstyled unstyled]
    exact ih

theorem exists_titleLines (clear : IsClear t.title) (width : Nat) :
    ∃ lines, t.titleLines width = .ok lines := by
  unfold titleLines
  split
  · exact ⟨[], rfl⟩
  · obtain ⟨s, hvisible, hfaulty⟩ := clear
    obtain ⟨texts, htexts⟩ :=
      Styled.exists_mapM_seen (Styled.faulty_layOut hfaulty .fold .middle width)
    rw [hvisible]
    simp only [bind, Except.bind, htexts]
    exact ⟨_, rfl⟩

-- A table whose title and cells are clear is shown.
theorem exists_text (titled : IsClear t.title) (unstyled : t.styles = [])
    (clear : ∀ cells ∈ t.lines, ∀ text ∈ cells, IsClear text) : ∃ text, t.text = .ok text := by
  unfold text
  split
  · exact ⟨_, rfl⟩
  · obtain ⟨columns, hlook, hfaulty⟩ := exists_look unstyled clear
    obtain ⟨title, htitle⟩ := exists_titleLines titled (span (t.widths columns) + t.border)
    have laid : ∀ i ∈ List.range t.lines.length,
        ∃ lines, t.rowLines (t.framed && i = 0) (row columns (t.widths columns) i) = .ok lines ∧
          True := fun i _ =>
      (exists_rowLines (faulty_row hfaulty _ i) _).imp fun _ h => ⟨h, trivial⟩
    obtain ⟨rows, hrows, -⟩ := exists_mapM_eq_ok laid
    have styled := forM_checkStyle unstyled (List.range t.columns)
    simp only [hlook, htitle, styled, hrows, bind, Except.bind, ite_self]
    exact ⟨_, rfl⟩

end Table

-- Lines that are clear are shown in a frame.
theorem Panel.exists_text {p : Panel} (title : ∀ text ∈ p.title, IsClear text)
    (lines : ∀ line ∈ p.lines, IsClear line) : ∃ text, p.text = .ok text := by
  have shown {text : Text} (h : IsClear text) :
      ∃ seen, (Markup.visible text >>= fun s => s.seen) = .ok seen := by
    obtain ⟨s, hvisible, hfaulty⟩ := h
    exact ⟨s.text, bind_eq_ok_iff.mpr ⟨s, hvisible, Styled.seen_of_faulty hfaulty⟩⟩
  obtain ⟨texts, htexts, -⟩ := exists_mapM_eq_ok fun line hline =>
    (shown (lines line hline)).imp fun _ h => And.intro h trivial
  rw [Panel.text, htexts]
  cases htitle : p.title with
  | none => exact ⟨_, rfl⟩
  | some text =>
    obtain ⟨seen, hseen⟩ := shown (title text htitle)
    rw [Option.mapM_some, hseen]
    exact ⟨_, rfl⟩

namespace Report

theorem exists_seen {markup : Text} (h : IsClear markup) : ∃ text, seen markup = .ok text := by
  obtain ⟨s, hvisible, hfaulty⟩ := h
  obtain ⟨texts, htexts⟩ := Styled.exists_mapM_seen (Styled.faulty_layOut hfaulty .fold .left _)
  exact ⟨_, seen_eq_ok hvisible htexts⟩

theorem exists_print {markup : Text} (h : IsClear markup) (mode : Mode) :
    ∃ o, print mode markup = .ok o := by
  obtain ⟨text, htext⟩ := exists_seen h
  exact ⟨_, by rw [print, htext]; rfl⟩

-- A message behind a sign is shown, whatever it says.
theorem exists_seen_of_isStyle {style : Text} {mark : CodePoint} {marked : String}
    (h : IsSign style mark) (hmarked : Text.ofString marked = sign style mark)
    (hstyle : IsStyle style) (message : Text) : ∃ text, seen (signed marked message) = .ok text :=
  exists_seen_signed h hmarked (hstyle.turn_open [] 0) (hstyle.turn_close rfl rfl [] 1) message

variable (mode : Mode) (message : Text)

theorem exists_problem_eq_ok : ∃ o, problem mode message = .ok o := by
  obtain ⟨o, ho, -⟩ := shown_problem mode message
  exact ⟨o, ho⟩

theorem exists_warning_eq_ok : ∃ o, warning mode message = .ok o := by
  obtain ⟨text, htext⟩ := exists_seen_of_isStyle isSign_warning sign_warning
    (isStyle_of_mem _ (by decide)) message
  exact ⟨_, by rw [warning, print, htext]; rfl⟩

theorem exists_done_eq_ok : ∃ o, done mode message = .ok o := by
  obtain ⟨text, htext⟩ := exists_seen_of_isStyle isSign_done sign_done
    (isStyle_of_mem _ (by decide)) message
  cases mode with
  | json => exact ⟨_, rfl⟩
  | human => exact ⟨_, by rw [done, htext]; rfl⟩

theorem exists_info_eq_ok : ∃ o, info mode message = .ok o := by
  obtain ⟨text, htext⟩ := exists_seen_of_isStyle isSign_info sign_info
    (isStyle_of_mem _ (by decide)) message
  cases mode with
  | json => exact ⟨_, rfl⟩
  | human => exact ⟨_, by rw [info, htext]; rfl⟩

theorem isClear_noCommands : IsClear "[dim]No commands.[/dim]" := by
  have none : ("[dim]No commands.[/dim]" : Text) = [] ++ Markup.inStyle "dim" "No commands." := by
    decide
  rw [none]
  exact isClear_inStyle (List.forall_mem_nil _) isStyle_dim (by decide)

theorem isClear_pathOr (path : Path) : IsClear (pathOr "[dim]<root>[/dim]" path) := by
  have root : ("[dim]<root>[/dim]" : Text) = [] ++ Markup.inStyle "dim" "<root>" := by decide
  unfold pathOr plain
  dsimp only
  split
  · rw [root]
    exact isClear_inStyle (List.forall_mem_nil _) isStyle_dim (by decide)
  · exact isClear_escape _

theorem unbracketed_kind (tip : Node) :
    .char '[' ∉ (tip.kind.name ++ if tip.executable then " (executable)" else "" : Text) := by
  cases tip.kind <;> cases tip.executable <;> decide

-- What is told of a parse is clear as long as no bracket opens in the names of its arguments.
theorem exists_parse_eq_ok {g : Grammar} (line : Text) {parse : Parse g}
    (hnames : ∀ binding ∈ parse.bindings, .char '[' ∉ binding.1) :
    ∃ o, Report.parse mode line parse = .ok o := by
  cases mode with
  | json => exact ⟨_, rfl⟩
  | human =>
    have pair {first second : Text} (h : IsClear first) (h' : IsClear second) :
        ∀ text ∈ [first, second], IsClear text := by
      simp [h, h']
    have bound : ∀ binding ∈ parse.bindings, IsClear ("<" ++ binding.1 ++ ">") := by
      intro binding hbinding
      have sides : .char '[' ∉ ("<" : Text) ∧ .char '[' ∉ (">" : Text) := by decide
      apply isClear_of_unbracketed
      simp [sides, hnames binding hbinding]
    have label {text : Text} (h : .char '[' ∉ text) := isClear_of_unbracketed h
    have clear : ∀ cells ∈ parse.rows, ∀ text ∈ cells, IsClear text := by
      refine List.forall_mem_cons.mpr ⟨pair (label (by decide)) (isClear_pathOr _), ?_⟩
      refine List.forall_mem_cons.mpr ⟨pair (label (by decide)) (label (unbracketed_kind _)), ?_⟩
      refine List.forall_mem_cons.mpr ⟨pair (label (by decide)) (isClear_escape _), ?_⟩
      exact List.forall_mem_map.mpr fun binding hbinding =>
        pair (bound binding hbinding) (isClear_escape _)
    obtain ⟨text, htext⟩ := Table.exists_text (t := { rows := parse.rows, framed := false })
      (label List.not_mem_nil) rfl clear
    exact ⟨_, by rw [Report.parse, htext]; rfl⟩

end Report

end CommandCompletion
