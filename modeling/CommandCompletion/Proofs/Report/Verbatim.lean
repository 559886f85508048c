import CommandCompletion.Program.Session
import CommandCompletion.Proofs.Grammar.Children
import CommandCompletion.Proofs.Markup.Quotation
import CommandCompletion.Proofs.Markup.Seen
import CommandCompletion.Proofs.Report.Clear
import CommandCompletion.Sample
import Mathlib.Data.List.Forall2

namespace CommandCompletion

open Markup (Bare Escapable Guardable IsClear IsStyle Reading Untagged inStyle isStyle_cyan
  isStyle_dim isStyle_of_mem settles_nil shows_iff shows_of_unbracketed slashes untagged_escape
  untagged_of_unbracketed)

theorem forall_of_forall₂ {α β : Type} {r : α → β → Prop} {p : α → Prop} {as : List α}
    {bs : List β} (h : List.Forall₂ r as bs) (hp : ∀ a b, r a b → p a) : ∀ a ∈ as, p a := by
  induction h with
  | nil => exact List.forall_mem_nil _
  | cons hr _ ih => exact List.forall_mem_cons.mpr ⟨hp _ _ hr, ih⟩

-- What people see of a table: its title and its cells, row by row. It is made.
structure Table.Shows (t : Table) (title : Reading) (rows : List (List Reading)) : Prop where
  title : Markup.Shows t.title title
  cells : List.Forall₂ (List.Forall₂ Markup.Shows) t.rows rows
  made : ∃ text, t.text = .ok text

theorem Table.shows_iff {t : Table} (unstyled : t.styles = [])
    (headers : ∀ text ∈ t.headers, IsClear text) {title : Reading} {rows : List (List Reading)} :
    t.Shows title rows ↔
      Markup.Shows t.title title ∧ List.Forall₂ (List.Forall₂ Markup.Shows) t.rows rows := by
  refine ⟨fun h => ⟨h.title, h.cells⟩, fun ⟨htitle, hcells⟩ => ⟨htitle, hcells, ?_⟩⟩
  refine t.exists_text htitle.clear unstyled (List.forall_mem_append.mpr ⟨?_, ?_⟩)
  · intro cells h
    split at h
    · obtain rfl := List.mem_singleton.mp h
      exact headers
    · cases h
  · exact forall_of_forall₂ hcells fun _ _ row =>
      forall_of_forall₂ row fun _ _ cell => cell.clear

theorem CandidateKind.isStyle_style (kind : CandidateKind) : IsStyle kind.style := by
  cases kind <;> exact isStyle_of_mem _ (by decide)

theorem CandidateKind.unbracketed_name (kind : CandidateKind) :
    .char '[' ∉ (kind.name : Text) := by
  cases kind <;> decide

theorem styled_eq (style : String) (text : Text) : styled style text =
    Markup.bracketed style ++ Markup.escape text ++ Markup.bracketed [.char '/'] := by
  simp [styled, plain, Markup.bracketed]
  rfl

def Candidate.readings (c : Candidate) : List Reading :=
  [⟨[c.kind.style, [.char '/']], c.label⟩, ⟨[], c.kind.name⟩, ⟨[], c.documentation.getD []⟩]

theorem Candidate.shows_row_iff (c : Candidate) :
    List.Forall₂ Markup.Shows c.row c.readings ↔
      (Guardable c.label ∧ ¬slashes 2 <:+ c.label) ∧ Escapable (c.documentation.getD []) := by
  have label : Markup.Shows (styled c.kind.style c.label) ⟨[c.kind.style, [.char '/']], c.label⟩ ↔
      Guardable c.label ∧ ¬slashes 2 <:+ c.label := by
    rw [styled_eq]
    exact (shows_iff c.kind.isStyle_style.settles_last.2).trans
      (Markup.read_escape_styled_iff c.kind.isStyle_style.opens)
  have kind := shows_of_unbracketed c.kind.unbracketed_name
  simp only [row, readings, List.forall₂_cons, label, kind, plain, Markup.shows_escape_iff,
    List.forall₂_nil_left_iff, and_true, true_and]

namespace Parse

variable {g : Grammar}

def readings (parse : Parse g) : List (List Reading) :=
  let tip := parse.tip.node
  let path := Text.join " " parse.path
  [⟨[], "Path"⟩, if path = [] then ⟨["dim", "/dim"], "<root>"⟩ else ⟨[], path⟩] ::
    [⟨[], "Tip"⟩, ⟨[], tip.kind.name ++ if tip.executable then " (executable)" else ""⟩] ::
    [⟨[], "Remainder"⟩, ⟨[], quote parse.remainder⟩] ::
    parse.bindings.map fun (name, text) => [⟨[], "<" ++ name ++ ">"⟩, ⟨[], text⟩]

theorem shows_root : Markup.Shows "[dim]<root>[/dim]" ⟨["dim", "/dim"], "<root>"⟩ := by
  have root : ("[dim]<root>[/dim]" : Text) = inStyle "dim" "<root>" := by decide
  rw [root]
  exact Markup.shows_inStyle isStyle_dim (Markup.bare_of_unbracketed (by decide)) (by decide)

theorem shows_pathOr_iff (path : Path) :
    Markup.Shows (pathOr "[dim]<root>[/dim]" path) (if Text.join " " path = [] then
        ⟨["dim", "/dim"], "<root>"⟩ else ⟨[], Text.join " " path⟩) ↔
      Escapable (Text.join " " path) := by
  have hempty : (plain (Text.join " " path)).isEmpty = true ↔ Text.join " " path = [] := by
    rw [List.isEmpty_iff, plain, Markup.escape_eq_nil_iff]
  unfold pathOr
  by_cases hpath : Text.join " " path = []
  · have escapable : Escapable [] := Markup.read_escape_iff.mp (by
      rw [Markup.escape_eq_nil_iff.mpr rfl, Markup.read_nil])
    rw [if_pos (hempty.mpr hpath), if_pos hpath, hpath]
    exact iff_of_true shows_root escapable
  · rw [if_neg (mt hempty.mp hpath), if_neg hpath]
    exact Markup.shows_escape_iff

theorem shows_rows_iff (parse : Parse g) :
    List.Forall₂ (List.Forall₂ Markup.Shows) parse.rows parse.readings ↔
      Escapable (Text.join " " parse.path) ∧ Guardable parse.remainder ∧
        ∀ binding ∈ parse.bindings, Bare binding.1 ∧ Escapable binding.2 := by
  have heads : Markup.Shows "Path" ⟨[], "Path"⟩ ∧ Markup.Shows "Tip" ⟨[], "Tip"⟩ ∧
      Markup.Shows "Remainder" ⟨[], "Remainder"⟩ :=
    ⟨shows_of_unbracketed (by decide), shows_of_unbracketed (by decide),
      shows_of_unbracketed (by decide)⟩
  have tip := shows_of_unbracketed (Report.unbracketed_kind parse.tip.node)
  have remainder : Markup.Shows (plain (quote parse.remainder)) ⟨[], quote parse.remainder⟩ ↔
      Guardable parse.remainder := by
    have h : Escapable ([] ++ quote parse.remainder ++ []) ↔ Guardable parse.remainder :=
      Markup.escapable_quote List.not_mem_nil (List.forall_mem_nil _) nofun
    rw [List.append_nil] at h
    exact Markup.shows_escape_iff.trans h
  have bindings : List.Forall₂ (List.Forall₂ Markup.Shows)
      (parse.bindings.map fun (name, text) => ["<" ++ name ++ ">", plain text])
      (parse.bindings.map fun (name, text) => [⟨[], "<" ++ name ++ ">"⟩, ⟨[], text⟩]) ↔
        ∀ binding ∈ parse.bindings, Bare binding.1 ∧ Escapable binding.2 := by
    rw [List.forall₂_map_left_iff, List.forall₂_map_right_iff, List.forall₂_same]
    refine forall₂_congr fun binding _ => ?_
    simp only [List.forall₂_cons, Markup.shows_bare_iff, Markup.bare_angled, plain,
      Markup.shows_escape_iff, List.forall₂_nil_left_iff, and_true]
  simp only [rows, readings, List.forall₂_cons, List.forall₂_nil_left_iff, and_true,
    shows_pathOr_iff, bindings, remainder, heads, tip, true_and]

end Parse

namespace Report

-- The table of candidates, and that of a parse.
def candidateTable (line : Text) (cs : List Candidate) : Table where
  title := "Completions for " ++ quote line
  headers := ["Label", "Kind", "Documentation"]
  rows := cs.map (·.row)

def parseTable {g : Grammar} (parse : Parse g) : Table where
  rows := parse.rows
  framed := false

theorem shows_candidateTable_iff (line : Text) (cs : List Candidate) :
    (candidateTable line cs).Shows ⟨[], "Completions for " ++ quote line⟩
        (cs.map (·.readings)) ↔
      Bare line ∧ ∀ c ∈ cs, (Guardable c.label ∧ ¬slashes 2 <:+ c.label) ∧
        Escapable (c.documentation.getD []) := by
  have title : Markup.Shows ("Completions for " ++ quote line)
      ⟨[], "Completions for " ++ quote line⟩ ↔ Bare line := by
    have h : Bare (("Completions for " : Text) ++ quote line ++ []) ↔ Bare line :=
      Markup.bare_quote (by decide) (List.forall_mem_nil _)
    rw [List.append_nil] at h
    exact Markup.shows_bare_iff.trans h
  have headers : ∀ text ∈ (candidateTable line cs).headers, IsClear text := by
    have unbracketed : ∀ text ∈ (["Label", "Kind", "Documentation"] : List Text),
        .char '[' ∉ text := by decide
    exact fun text h => Markup.isClear_of_unbracketed (unbracketed text h)
  have cells : List.Forall₂ (List.Forall₂ Markup.Shows) (cs.map (·.row)) (cs.map (·.readings)) ↔
      ∀ c ∈ cs, (Guardable c.label ∧ ¬slashes 2 <:+ c.label) ∧
        Escapable (c.documentation.getD []) := by
    rw [List.forall₂_map_left_iff, List.forall₂_map_right_iff, List.forall₂_same]
    exact forall₂_congr fun c _ => c.shows_row_iff
  rw [Table.shows_iff rfl headers, ← title, ← cells]
  rfl

-- What is said where there are no candidates.
def nothingFound (line : Text) : Text :=
  signed "[dim]ℹ[/dim]" ("No completions for " ++ quote line ++ ".")

theorem shows_nothingFound_iff (line : Text) :
    Markup.Shows (nothingFound line)
        ⟨["dim", "/dim"], "ℹ No completions for " ++ quote line ++ "."⟩ ↔ Guardable line := by
  have message : Escapable ("No completions for " ++ quote line ++ ".") ↔ Guardable line :=
    Markup.escapable_quote (by decide) (by decide) (by decide)
  have sides : ("ℹ No completions for " : Text) =
      .char 'ℹ' :: .char ' ' :: "No completions for " ∧
        ("/dim" : Text) = .char '/' :: "dim" := by decide
  rw [nothingFound, signed_eq sign_info, ← message, sides.1, sides.2]
  exact Markup.shows_signed_iff isSign_info isStyle_dim

theorem shows_parseTable_iff {g : Grammar} (parse : Parse g) :
    (parseTable parse).Shows ⟨[], []⟩ parse.readings ↔
      Escapable (Text.join " " parse.path) ∧ Guardable parse.remainder ∧
        ∀ binding ∈ parse.bindings, Bare binding.1 ∧ Escapable binding.2 := by
  have untitled : Markup.Shows [] ⟨[], []⟩ := shows_of_unbracketed List.not_mem_nil
  rw [Table.shows_iff rfl (List.forall_mem_nil _), ← parse.shows_rows_iff]
  exact and_iff_right untitled

-- Escaped text has no tags of its own, whatever it is.
theorem untagged_row (c : Candidate) :
    (∀ label ∈ c.row.head?, IsClear label ∧ ((Markup.read label).tags = [(c.kind.style : Text)] ∨
      (Markup.read label).tags = [(c.kind.style : Text), "/"])) ∧
    ∀ cell ∈ c.row.tail, Untagged cell := by
  refine ⟨?_, List.forall_mem_cons.mpr ⟨untagged_of_unbracketed c.kind.unbracketed_name,
    List.forall_mem_singleton.mpr (untagged_escape _)⟩⟩
  rintro label hlabel
  obtain rfl := Option.some.inj hlabel
  rw [styled_eq]
  exact ⟨c.kind.isStyle_style.isClear_escape_styled c.label,
    Markup.tags_read_escape_styled c.kind.isStyle_style.opens c.label⟩

theorem untagged_values {g : Grammar} (parse : Parse g) : ∀ cells ∈ parse.rows,
    ∀ cell ∈ cells.tail, cell = "[dim]<root>[/dim]" ∨ Untagged cell := by
  have path : pathOr "[dim]<root>[/dim]" parse.path = "[dim]<root>[/dim]" ∨
      Untagged (pathOr "[dim]<root>[/dim]" parse.path) := by
    unfold pathOr
    dsimp only
    split
    · exact .inl rfl
    · exact .inr (untagged_escape _)
  have escaped (text : Text) : ∀ cell ∈ [plain text], cell = "[dim]<root>[/dim]" ∨ Untagged cell :=
    List.forall_mem_singleton.mpr (.inr (untagged_escape text))
  have tip := untagged_of_unbracketed (unbracketed_kind parse.tip.node)
  exact List.forall_mem_cons.mpr ⟨List.forall_mem_singleton.mpr path, List.forall_mem_cons.mpr
    ⟨List.forall_mem_singleton.mpr (.inr tip), List.forall_mem_cons.mpr
      ⟨escaped _, List.forall_mem_map.mpr fun binding _ => escaped binding.2⟩⟩⟩

end Report

namespace Program.Session

theorem commandNames_eq (s : CommandSet) : commandNames s = Text.join ", "
    (((Dict.keys s.grammar.root.children).mergeSort Text.isAtMost).map (inStyle "cyan")) := by
  simp only [commandNames, Markup.inStyle_cyan]

theorem shows_commandNames_iff (s : CommandSet) :
    let names := (Dict.keys s.grammar.root.children).mergeSort Text.isAtMost
    Markup.Shows (commandNames s)
        ⟨names.flatMap fun _ => ["cyan", "/cyan"], Text.join ", " names⟩ ↔
      ∀ name ∈ names, Bare name ∧ ¬slashes 1 <:+ name := by
  intro names
  have settles : Markup.Settles [] (names.flatMap fun _ => ["cyan", "/cyan"]) := by
    induction names with
    | nil => exact settles_nil
    | cons name names ih => exact isStyle_cyan.settles_pair ih
  rw [shows_iff settles, commandNames_eq]
  exact Markup.read_join_inStyle_iff isStyle_cyan

end Program.Session

namespace Report

open Program.Session (commandList commandNames commandNames_eq shows_commandNames_iff)

-- A command and its argument whose names are marked up.
def tagged : Grammar where
  root := {
    kind := .root,
    children := [("[b]say", {
      kind := .literal,
      children := [("[i]text", { kind := .argument, parser := some "brigadier:string" })] })] }
  isRoot := rfl
  sound := by decide +kernel
  distinct := by
    unfold Dict.Distinct
    decide +kernel

end Report

end CommandCompletion
