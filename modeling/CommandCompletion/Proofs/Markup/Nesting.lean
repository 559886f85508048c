import CommandCompletion.Proofs.Markup.Escape

namespace CommandCompletion.Markup

-- Marked-up text of which something is seen, in styles that can be shown.
def IsClear (text : Text) : Prop :=
  ∃ s, visible text = .ok s ∧ s.faulty = []

theorem isClear_escape (text : Text) : IsClear (escape text) := by
  obtain ⟨seen, hseen⟩ := exists_reveal_of_untagged (fun _ => tag_notMem_escape text) 0
  exact ⟨⟨seen, []⟩, hseen, rfl⟩

-- A word that names one style, and itself as a tag.
structure IsStyle (style : Text) : Prop where
  opens : IsTag style
  closes : IsTag (.char '/' :: style)
  lone : .char '=' ∉ style
  solid : style.head? ≠ some (.char '/') ∧ style.head? ≠ some (.char '@')
  trimmed : Text.trim style = style
  known : (Style.ofText style).map Style.text = .ok style

-- The styles of signs, titles, hints and names.
def reportStyles : List Text :=
  ["cyan", "bold", "bold cyan", "dim", "green", "yellow"]

theorem known_of_mem : ∀ style ∈ reportStyles,
    (Style.ofText style).map Style.text = .ok style := by
  decide +kernel

theorem isStyle_of_mem : ∀ style ∈ reportStyles, IsStyle style := by
  have opens : ∀ style ∈ reportStyles, IsTag style ∧ IsTag (.char '/' :: style) := by decide
  have solid : ∀ style ∈ reportStyles, style.head? ≠ some (.char '/') ∧
      style.head? ≠ some (.char '@') ∧ .char '=' ∉ style := by decide
  have trimmed : ∀ style ∈ reportStyles, Text.trim style = style := by decide
  intro style h
  exact ⟨(opens style h).1, (opens style h).2, (solid style h).2.2,
    ⟨(solid style h).1, (solid style h).2.1⟩, trimmed style h, known_of_mem style h⟩

theorem isStyle_cyan : IsStyle "cyan" :=
  isStyle_of_mem _ (by decide)

theorem isStyle_dim : IsStyle "dim" :=
  isStyle_of_mem _ (by decide)

-- Chunks in which a style is opened over and over, and closed at most as often as it is open. It
-- is open `n` times before them.
inductive Nested (style : Text) : Nat → List Chunk → Prop
  | nil (n : Nat) : Nested style n []
  | plain {n : Nat} {cs : List Chunk} (text : Text) (h : Nested style n cs) :
      Nested style n (.plain text :: cs)
  | kept {n : Nat} {cs : List Chunk} (inside : Text) (h : Nested style n cs) :
      Nested style n (.kept inside :: cs)
  | opened {n : Nat} {cs : List Chunk} (h : Nested style (n + 1) cs) :
      Nested style n (.tag style :: cs)
  | closed {n : Nat} {cs : List Chunk} (h : Nested style n cs) :
      Nested style (n + 1) (.tag (.char '/' :: style) :: cs)

section Turn

variable {style : Text} (h : IsStyle style)

include h

theorem IsStyle.ofInside (offset : Nat) : Tag.ofInside style offset = ⟨style, none, offset⟩ := by
  have stays : ∀ c ∈ style, decide (c ≠ .char '=') = true := fun c hc =>
    decide_eq_true fun he => h.lone (he ▸ hc)
  have name : (style ++ []).takeWhile (· ≠ CodePoint.char '=') = style ++ [] :=
    List.takeWhile_append_of_pos stays
  have parameter : (style ++ []).dropWhile (· ≠ CodePoint.char '=') = [] :=
    List.dropWhile_append_of_pos stays
  rw [List.append_nil] at name parameter
  rw [Tag.ofInside, name, parameter]
  rfl

theorem IsStyle.named_eq : named style = .ok style := by
  obtain ⟨s, hs, htext⟩ := map_eq_ok_iff.mp h.known
  rw [named, tagName, hs]
  exact congrArg Except.ok htext

theorem IsStyle.turn_open (opened : List Tag) (offset : Nat) :
    turn opened offset style = .ok (⟨style, none, offset⟩ :: opened, []) := by
  unfold turn
  rw [h.ofInside]
  dsimp only
  split
  · next name => exact absurd rfl h.solid.1
  · rw [h.named_eq]
    rfl

theorem IsStyle.runs_eq_nil {tag : Tag} (hname : tag.name = style) (hlone : tag.parameter = none)
    (last : Nat) : tag.runs last = [] := by
  have hstyle : tag.style = style := by
    rw [Tag.style, hname, hlone]
    exact List.append_nil _
  obtain ⟨s, hs, -⟩ := map_eq_ok_iff.mp h.known
  rw [Tag.runs, hstyle, hs]

-- A tag of a style has nothing to run when it is closed.
theorem IsStyle.close_eq {last : Tag} (hname : last.name = style) (hlone : last.parameter = none)
    (offset : Nat) : last.close offset = .ok [] := by
  rw [Tag.close, hname, if_neg h.solid.2, h.runs_eq_nil hname hlone]

-- Closing takes the style away once.
theorem IsStyle.turn_close {last : Tag} (hname : last.name = style) (hlone : last.parameter = none)
    (opened : List Tag) (offset : Nat) :
    turn (last :: opened) offset (.char '/' :: style) = .ok (opened, []) := by
  have inside : Tag.ofInside (.char '/' :: style) offset = ⟨.char '/' :: style, none, offset⟩ := by
    have := h.ofInside offset
    simp only [Tag.ofInside, Tag.mk.injEq] at this ⊢
    simpa using this
  have hne : style ≠ [] := by
    rintro rfl
    exact absurd h.opens.1 (by decide)
  unfold turn
  rw [inside]
  simp [h.trimmed, h.named_eq, hne, hname, h.close_eq hname hlone offset, bind, Except.bind, pure, Except.pure]

end Turn

theorem nested_addPlain {style : Text} {n : Nat} {cs : List Chunk} (h : Nested style n cs)
    (text : Text) : Nested style n (addPlain text cs) := by
  cases h with
  | plain more h => exact .plain _ h
  | nil => exact .plain _ (.nil n)
  | kept inside h => exact .plain _ (.kept inside h)
  | opened h => exact .plain _ (.opened h)
  | closed h => exact .plain _ (.closed h)

-- What is nested can be shown while the style is open as often as the chunks say.
theorem Nested.exists_reveal {style : Text} (hstyle : IsStyle style) {n : Nat} {cs : List Chunk}
    (h : Nested style n cs) {tags : List Tag} (hlength : tags.length = n)
    (hnamed : ∀ tag ∈ tags, tag.name = style ∧ tag.parameter = none) (offset : Nat) :
    ∃ s, reveal tags offset cs = .ok s ∧ s.faulty = [] := by
  induction h generalizing tags offset with
  | nil n =>
    refine ⟨_, rfl, List.flatMap_eq_nil_iff.mpr fun tag htag => ?_⟩
    exact hstyle.runs_eq_nil (hnamed tag htag).1 (hnamed tag htag).2 offset
  | plain text _ ih =>
    obtain ⟨s, hs, hfaulty⟩ := ih hlength hnamed (offset + (shown text).length)
    exact ⟨{ s with text := shown text ++ s.text }, by rw [reveal, hs]; rfl, hfaulty⟩
  | kept inside _ ih =>
    obtain ⟨s, hs, hfaulty⟩ := ih hlength hnamed (offset + (shown (bracketed inside)).length)
    exact ⟨{ s with text := shown (bracketed inside) ++ s.text }, by simp only [reveal, hs]; rfl,
      hfaulty⟩
  | opened _ ih =>
    have hopened : (⟨style, none, offset⟩ :: tags : List Tag).length = _ + 1 :=
      congrArg (· + 1) hlength
    obtain ⟨s, hs, hfaulty⟩ := ih hopened (List.forall_mem_cons.mpr ⟨⟨rfl, rfl⟩, hnamed⟩) offset
    exact ⟨_, by simp only [reveal, hstyle.turn_open, hs]; rfl, hfaulty⟩
  | closed _ ih =>
    cases tags with
    | nil => cases hlength
    | cons last tags =>
      obtain ⟨⟨hname, hlone⟩, hothers⟩ := List.forall_mem_cons.mp hnamed
      obtain ⟨s, hs, hfaulty⟩ := ih (Nat.succ.inj hlength) hothers offset
      exact ⟨_, by simp only [reveal, hstyle.turn_close hname hlone, hs]; rfl, hfaulty⟩

-- Text that is nested behind any number of backslashes.
def Nests (style : Text) (n : Nat) (text : Text) : Prop :=
  ∀ slashes, Nested style n (chunks (piecesAfter slashes text))

variable {style name text rest : Text} {n : Nat}

theorem nests_nil (style : Text) (n : Nat) : Nests style n [] := by
  intro slashes
  rw [piecesAfter, chunks]
  exact nested_addPlain (.nil n) _

-- A name without brackets opens and closes nothing.
theorem Nests.append (h : Nests style n rest) (hname : .char '[' ∉ name) :
    Nests style n (name ++ rest) := by
  induction name with
  | nil => exact h
  | cons c name ih =>
    rw [List.mem_cons, not_or] at hname
    intro slashes
    by_cases hc : c = .char '\\'
    · rw [List.cons_append, piecesAfter, if_pos hc]
      exact ih hname.2 _
    · rw [List.cons_append, piecesAfter_plain hc (fun he => absurd he.symm hname.1), chunks]
      exact nested_addPlain (ih hname.2 0) _

-- Where a closing tag is kept as text the style stays open.
theorem nests_close (h : ∀ n, Nests style n rest) (hstyle : IsStyle style) :
    Nests style (n + 1) (bracketed (.char '/' :: style) ++ rest) := by
  intro slashes
  rw [piecesAfter_bracketed hstyle.closes, chunks]
  refine nested_addPlain ?_ _
  split
  · exact .kept _ (h (n + 1) 0)
  · exact .closed (h n 0)

-- A name in a style.
def inStyle (style name : Text) : Text :=
  bracketed style ++ name ++ bracketed (.char '/' :: style)

theorem inStyle_cyan (name : Text) : "[cyan]" ++ name ++ "[/cyan]" = inStyle "cyan" name := by
  have sides : ("[cyan]" : Text) = bracketed "cyan" ∧
      ("[/cyan]" : Text) = bracketed (.char '/' :: "cyan") := by decide
  rw [sides.1, sides.2, inStyle]

-- No backslash stands before the first tag, so that it counts.
theorem nested_inStyle (h : ∀ n, Nests style n rest) (hstyle : IsStyle style)
    (hname : .char '[' ∉ name) (n : Nat) :
    Nested style n (chunks (pieces (inStyle style name ++ rest))) := by
  have closing := (nests_close (n := n) h hstyle).append hname
  rw [inStyle, List.append_assoc, List.append_assoc, pieces, piecesAfter_bracketed hstyle.opens,
    chunks]
  exact nested_addPlain (.opened (closing 0)) _

theorem nests_comma (h : ∀ n, Nested style n (chunks (pieces rest))) (n : Nat) :
    Nests style n (", " ++ rest) := by
  intro slashes
  have comma : (", " ++ rest : Text) = .char ',' :: .char ' ' :: rest := rfl
  rw [comma, piecesAfter_cons (by decide), piecesAfter_cons isPlain_space, chunks, chunks]
  exact nested_addPlain (nested_addPlain (h n) _) _

theorem nested_join {names : List Text} (hstyle : IsStyle style)
    (hnames : ∀ name ∈ names, .char '[' ∉ name) (n : Nat) :
    Nested style n (chunks (pieces (Text.join ", " (names.map (inStyle style))))) := by
  induction names generalizing n with
  | nil => exact nests_nil style n 0
  | cons name names ih =>
    obtain ⟨hname, hnames⟩ := List.forall_mem_cons.mp hnames
    cases names with
    | nil =>
      rw [List.map_singleton, Text.join, List.intercalate_singleton, ← List.append_nil (inStyle ..)]
      exact nested_inStyle (nests_nil style) hstyle hname n
    | cons next names =>
      rw [List.map_cons, List.map_cons, Text.join, List.intercalate_cons_cons, List.append_assoc]
      exact nested_inStyle (nests_comma fun m => ih hnames m) hstyle hname n

theorem isClear_of_nested (h : Nested style 0 (chunks (pieces text))) (hstyle : IsStyle style) :
    IsClear text :=
  h.exists_reveal hstyle rfl (List.forall_mem_nil _) 0

theorem nested_plain_append {front : Text} (plain : ∀ c ∈ front, IsPlain c)
    (h : Nested style n (chunks (pieces rest))) : Nested style n (chunks (pieces (front ++ rest))) := by
  induction front with
  | nil => exact h
  | cons c front ih =>
    obtain ⟨hc, plain⟩ := List.forall_mem_cons.mp plain
    rw [List.cons_append, pieces, piecesAfter_cons hc, chunks]
    exact nested_addPlain (ih plain) _

theorem isClear_inStyle {front : Text} (plain : ∀ c ∈ front, IsPlain c) (hstyle : IsStyle style)
    (hname : .char '[' ∉ name) : IsClear (front ++ inStyle style name) := by
  have nested := nested_inStyle (nests_nil style) hstyle hname 0
  rw [List.append_nil] at nested
  exact isClear_of_nested (nested_plain_append plain nested) hstyle

-- Text without brackets, whatever else is in it.
theorem isClear_of_unbracketed (h : .char '[' ∉ text) : IsClear text := by
  have nested := (nests_nil "cyan" 0).append h 0
  rw [List.append_nil] at nested
  exact isClear_of_nested nested isStyle_cyan

theorem reveal_addPlain {c : CodePoint} (plain : IsPlain c) (opened : List Tag) (offset : Nat)
    (cs : List Chunk) :
    reveal opened offset (addPlain [c] cs) =
      (reveal opened (offset + 1) cs).map fun s => { s with text := c :: s.text } := by
  have alone : reveal opened offset (.plain [c] :: cs) =
      (reveal opened (offset + 1) cs).map fun s => { s with text := c :: s.text } := by
    rw [reveal, shown_cons plain, shown_nil]
    rfl
  unfold addPlain
  split
  · next more rest =>
    have behind : offset + ((shown more).length + 1) = offset + 1 + (shown more).length := by omega
    rw [List.singleton_append, reveal, reveal, shown_cons plain, List.length_cons, behind]
    cases reveal opened (offset + 1 + (shown more).length) rest <;> rfl
  · exact alone

-- Plain text is seen as it stands in front of what is seen wherever it stands.
theorem visible_plain_append {front seen : Text} (plain : ∀ c ∈ front, IsPlain c)
    (h : ∀ offset, reveal [] offset (chunks (pieces rest)) = .ok ⟨seen, []⟩) :
    visible (front ++ rest) = .ok ⟨front ++ seen, []⟩ := by
  have revealed (offset : Nat) :
      reveal [] offset (chunks (pieces (front ++ rest))) = .ok ⟨front ++ seen, []⟩ := by
    induction front generalizing offset with
    | nil => exact h offset
    | cons c front ih =>
      obtain ⟨hc, plain⟩ := List.forall_mem_cons.mp plain
      have single : slashes (if c = '[' then 0 - 1 else 0) ++ [c] = [c] := by
        rw [if_neg hc.2.1]
        rfl
      rw [List.cons_append, pieces, piecesAfter_cons hc, chunks, single, ← pieces,
        reveal_addPlain hc, ih plain]
      rfl
  exact revealed 0

end CommandCompletion.Markup
