import CommandCompletion.Line.Bite
import Mathlib.Data.List.DropRight
import Mathlib.Data.List.TakeWhile

namespace CommandCompletion.Text

-- A text without blanks that has something in it.
def IsWord (word : Text) : Prop :=
  word ≠ [] ∧ ∀ c ∈ word, isBlank c = false

-- A run of blanks, which may be empty.
def IsGap (gap : Text) : Prop :=
  ∀ c ∈ gap, isBlank c = true

-- A text that does not begin with a blank.
def Flush (text : Text) : Prop :=
  ∀ c ∈ text.head?, isBlank c = false

-- A text that ends a word in front of it: it is empty or begins with a blank.
def Detached (text : Text) : Prop :=
  ∀ c ∈ text.head?, isBlank c = true

-- A text whose last word is ended: it is empty or ends in a blank.
def Settled (text : Text) : Prop :=
  ∀ c ∈ text.getLast?, isBlank c = true

-- A text that does not end in a blank.
def Tight (text : Text) : Prop :=
  ∀ c ∈ text.getLast?, isBlank c = false

instance (word : Text) : Decidable (IsWord word) :=
  inferInstanceAs (Decidable (_ ∧ _))

instance (gap : Text) : Decidable (IsGap gap) :=
  inferInstanceAs (Decidable (∀ c ∈ gap, _))

instance (text : Text) : Decidable (Flush text) :=
  inferInstanceAs (Decidable (∀ c ∈ text.head?, _))

instance (text : Text) : Decidable (Settled text) :=
  inferInstanceAs (Decidable (∀ c ∈ text.getLast?, _))

instance (text : Text) : Decidable (Tight text) :=
  inferInstanceAs (Decidable (∀ c ∈ text.getLast?, _))

theorem flush_nil : Flush [] := by
  simp [Flush]

-- What stands behind a text matters only where the text is empty.
theorem Flush.of_append {text rest other : Text} (h : Flush (text ++ rest)) (ho : Flush other) :
    Flush (text ++ other) := by
  cases text with
  | nil => exact ho
  | cons c text => exact h

theorem Settled.of_append {text rest : Text} (h : Settled (text ++ rest)) : Settled rest := by
  intro c hc
  apply h
  rw [List.getLast?_append, hc]
  rfl

theorem settled_append {text rest : Text} (hne : rest ≠ []) :
    Settled (text ++ rest) ↔ Settled rest := by
  rw [Settled, Settled, List.getLast?_append, List.getLast?_eq_some_getLast hne, Option.some_or]

theorem Settled.append {text rest : Text} (ht : Settled text) (hr : Settled rest) :
    Settled (text ++ rest) := by
  by_cases hne : rest = []
  · rwa [hne, List.append_nil]
  · exact (settled_append hne).mpr hr

theorem IsGap.settled {gap : Text} (h : IsGap gap) : Settled gap :=
  fun c hc => h c (List.mem_of_getLast? hc)

theorem IsGap.settled_append {gap text : Text} (h : IsGap gap) :
    Settled (gap ++ text) ↔ Settled text :=
  ⟨Settled.of_append, h.settled.append⟩

theorem detached_nil : Detached [] := by
  simp [Detached]

theorem Detached.eq_nil {text : Text} (h : Detached text) (flush : Flush text) : text = [] := by
  cases text with
  | nil => rfl
  | cons c text =>
    have hc := h c rfl
    simp [flush c rfl] at hc

theorem IsGap.detached_append {gap rest : Text} (hg : IsGap gap) (hr : gap = [] → Detached rest) :
    Detached (gap ++ rest) := by
  cases gap with
  | nil => exact hr rfl
  | cons c gap => simpa [Detached] using hg c List.mem_cons_self

theorem IsWord.not_settled {word : Text} (hw : IsWord word) : ¬Settled word := by
  intro h
  have hlast := h (word.getLast hw.1) (List.getLast?_eq_some_getLast hw.1)
  have hink := hw.2 _ (List.getLast_mem hw.1)
  simp [hlast] at hink

theorem IsWord.of_append {word rest : Text} (hw : IsWord (word ++ rest)) (hne : word ≠ []) :
    IsWord word :=
  ⟨hne, fun c hc => hw.2 c (List.mem_append_left _ hc)⟩

theorem IsWord.flush_append {word : Text} (hw : IsWord word) (rest : Text) :
    Flush (word ++ rest) := by
  obtain ⟨hne, hink⟩ := hw
  cases word with
  | nil => exact absurd rfl hne
  | cons c word => simpa [Flush] using hink c List.mem_cons_self

theorem flush_trimStart (text : Text) : Flush (trimStart text) := by
  have h := List.head?_dropWhile_not isBlank text
  intro c hc
  simp only [trimStart, Option.mem_def] at hc
  simpa [hc] using h

theorem trimStart_of_flush {text : Text} (h : Flush text) : trimStart text = text := by
  cases text with
  | nil => rfl
  | cons c text =>
    have hc : isBlank c = false := h c rfl
    simp [trimStart, hc]

theorem trimStart_gap_append {gap rest : Text} (hg : IsGap gap) (hr : Flush rest) :
    trimStart (gap ++ rest) = rest := by
  rw [trimStart, List.dropWhile_append_of_pos hg]
  exact trimStart_of_flush hr

-- What trimming takes away is a gap.
theorem exists_gap (text : Text) : ∃ gap, IsGap gap ∧ text = gap ++ trimStart text :=
  ⟨text.takeWhile isBlank, fun _ hc => List.mem_takeWhile_imp hc,
    List.takeWhile_append_dropWhile.symm⟩

theorem Tight.of_append {text rest : Text} (h : Tight (text ++ rest)) : Tight rest := by
  intro c hc
  apply h
  rw [List.getLast?_append, hc]
  rfl

theorem Tight.eq_nil {text : Text} (h : Tight text) (settled : Settled text) : text = [] := by
  rcases List.eq_nil_or_concat' text with hnil | ⟨front, c, rfl⟩
  · exact hnil
  · have hlast : c ∈ (front ++ [c]).getLast? := by simp
    have hc := settled c hlast
    simp [h c hlast] at hc

theorem Flush.eq_nil {text : Text} (h : Flush text) (gap : IsGap text) : text = [] := by
  cases text with
  | nil => rfl
  | cons c text =>
    have hc := gap c List.mem_cons_self
    simp [h c rfl] at hc

theorem tight_trimEnd (text : Text) : Tight (trimEnd text) := by
  have h := List.head?_dropWhile_not isBlank text.reverse
  intro c hc
  simp only [trimEnd, List.getLast?_reverse, Option.mem_def] at hc
  simpa [hc] using h

-- What trimming takes away at the end is a gap, too.
theorem exists_gap_behind (text : Text) : ∃ gap, IsGap gap ∧ text = trimEnd text ++ gap :=
  ⟨text.rtakeWhile isBlank, fun _ hc => List.mem_rtakeWhile_imp hc,
    List.rdropWhile_append_rtakeWhile.symm⟩

theorem flush_trim (text : Text) : Flush (trim text) := by
  obtain ⟨gap, -, he⟩ := exists_gap_behind (trimStart text)
  have flush : Flush (trim text ++ gap) := by
    rw [trim, ← he]
    exact flush_trimStart text
  have hflush := flush.of_append flush_nil
  rwa [List.append_nil] at hflush

theorem trimEnd_append_gap {text gap : Text} (tight : Tight text) (hg : IsGap gap) :
    trimEnd (text ++ gap) = text := by
  have hblank : ∀ c ∈ gap.reverse, isBlank c = true := fun c hc => hg c (List.mem_reverse.mp hc)
  have hflush : Flush text.reverse := by
    intro c hc
    rw [List.head?_reverse] at hc
    exact tight c hc
  rw [trimEnd, List.reverse_append, List.dropWhile_append_of_pos hblank]
  exact (congrArg List.reverse (trimStart_of_flush hflush)).trans text.reverse_reverse

theorem isInk_eq_true_iff {c : CodePoint} : isInk c = true ↔ isBlank c = false := by
  simp [isInk]

theorem isWord_takeWhile_isInk {line : Text} (h : line.takeWhile isInk ≠ []) :
    IsWord (line.takeWhile isInk) :=
  ⟨h, fun _ hc => isInk_eq_true_iff.mp (List.mem_takeWhile_imp hc)⟩

theorem takeWhile_isInk_word {word rest : Text} (hw : IsWord word) (hr : Detached rest) :
    (word ++ rest).takeWhile isInk = word := by
  rw [List.takeWhile_append_of_pos fun c hc => isInk_eq_true_iff.mpr (hw.2 c hc)]
  cases rest with
  | nil => simp
  | cons c rest =>
    have hc : isBlank c = true := hr c rfl
    simp [isInk, hc]

theorem dropWhile_isInk_word {word rest : Text} (hw : IsWord word) (hr : Detached rest) :
    (word ++ rest).dropWhile isInk = rest := by
  have whole : (word ++ rest).takeWhile isInk ++ (word ++ rest).dropWhile isInk = word ++ rest :=
    List.takeWhile_append_dropWhile
  rw [takeWhile_isInk_word hw hr] at whole
  exact List.append_cancel_left whole

-- The first word of a text is determined.
theorem word_unique {word other rest behind : Text} (hw : IsWord word) (ho : IsWord other)
    (hr : Detached rest) (hb : Detached behind) (h : word ++ rest = other ++ behind) :
    word = other := by
  rw [← takeWhile_isInk_word hw hr, h, takeWhile_isInk_word ho hb]

-- The next character decides whether a character ends its word.
theorem words_cons (c : CodePoint) (rest : Text) :
    words (c :: rest) =
      if isBlank c then words rest
      else
        match rest, words rest with
        | next :: _, word :: others =>
          if isBlank next then [c] :: word :: others else (c :: word) :: others
        | _, others => [c] :: others :=
  rfl

theorem words_nil : words [] = [] :=
  rfl

theorem words_gap_append {gap : Text} (hg : IsGap gap) (rest : Text) :
    words (gap ++ rest) = words rest := by
  induction gap with
  | nil => rfl
  | cons c gap ih =>
    have hc : isBlank c = true := hg c List.mem_cons_self
    rw [List.cons_append, words_cons, if_pos hc]
    exact ih fun d hd => hg d (List.mem_cons_of_mem _ hd)

-- A word counts as one where a blank or the end of the text stands behind it.
theorem words_word_append {word rest : Text} (hw : IsWord word)
    (hr : Detached rest) : words (word ++ rest) = word :: words rest := by
  obtain ⟨hne, hink⟩ := hw
  induction word with
  | nil => exact absurd rfl hne
  | cons c word ih =>
    have hc : ¬isBlank c = true := by simp [hink c List.mem_cons_self]
    rw [List.cons_append, words_cons, if_neg hc]
    cases word with
    | nil =>
      cases rest with
      | nil => rfl
      | cons d rest =>
        have hd : isBlank d = true := hr d rfl
        rw [List.nil_append]
        cases words (d :: rest) with
        | nil => rfl
        | cons next others => simp only [hd, ↓reduceIte]
    | cons d word =>
      have hd : isBlank d = false := hink d (by simp)
      have hrest := ih (by simp) fun e he => hink e (List.mem_cons_of_mem _ he)
      rw [hrest]
      simp only [List.cons_append, hd, Bool.false_eq_true, ↓reduceIte]

theorem spaced_singleton (word : Text) : spaced [word] = word := by
  simp [spaced, join]

theorem spaced_cons_cons (word next : Text) (others : List Text) :
    spaced (word :: next :: others) = word ++ (" " ++ spaced (next :: others)) := by
  simp [spaced, join, List.intercalate]

theorem isGap_space : IsGap " " := by
  decide

theorem space_ne_nil : (" " : Text) ≠ [] := by
  decide

-- Words that were written with spaces between them are read back.
theorem words_spaced {ws : List Text} (h : ∀ w ∈ ws, IsWord w) : words (spaced ws) = ws := by
  induction ws with
  | nil => rfl
  | cons w ws ih =>
    have hw : IsWord w := h w List.mem_cons_self
    cases ws with
    | nil =>
      have hlast : words (w ++ []) = w :: words [] := words_word_append hw detached_nil
      rw [spaced_singleton]
      rwa [List.append_nil, words_nil] at hlast
    | cons next others =>
      have hrest := ih fun v hv => h v (List.mem_cons_of_mem _ hv)
      have hr : Detached (" " ++ spaced (next :: others)) :=
        isGap_space.detached_append fun he => absurd he space_ne_nil
      rw [spaced_cons_cons, words_word_append hw hr, words_gap_append isGap_space, hrest]

end CommandCompletion.Text
