import CommandCompletion.Proofs.Text.Spacing

namespace CommandCompletion

open Text (IsWord IsGap Flush Settled isBlank trimStart spaced)

-- A word of a line and the blanks behind it.
structure Portion where
  word : Text
  gap : Text
deriving DecidableEq, Repr

-- A whole word that a blank ends.
def Portion.Full (portion : Portion) : Prop :=
  IsWord portion.word ∧ IsGap portion.gap ∧ portion.gap ≠ []

instance (portion : Portion) : Decidable portion.Full :=
  inferInstanceAs (Decidable (_ ∧ _))

-- What stands in a line for one child.
abbrev Phrase := List Portion

namespace Phrase

def text (phrase : Phrase) : Text :=
  phrase.flatMap fun portion => portion.word ++ portion.gap

def words (phrase : Phrase) : List Text :=
  phrase.map (·.word)

-- Each word of the phrase has a blank behind it.
def Closed (phrase : Phrase) : Prop :=
  ∀ portion ∈ phrase, portion.gap ≠ []

instance (phrase : Phrase) : Decidable phrase.Closed :=
  inferInstanceAs (Decidable (∀ portion ∈ phrase, _))

@[simp] theorem text_nil : text [] = [] :=
  rfl

@[simp] theorem text_cons (portion : Portion) (phrase : Phrase) :
    text (portion :: phrase) = portion.word ++ (portion.gap ++ text phrase) := by
  simp [text]

theorem flush_text_append {phrase : Phrase} (full : ∀ portion ∈ phrase, portion.Full)
    {rest : Text} (hr : Flush rest) : Flush (phrase.text ++ rest) := by
  cases phrase with
  | nil => exact hr
  | cons portion phrase =>
    rw [text_cons, List.append_assoc]
    exact (full portion List.mem_cons_self).1.flush_append _

theorem settled_text {phrase : Phrase} (blank : ∀ portion ∈ phrase, IsGap portion.gap)
    (closed : phrase.Closed) : Settled phrase.text := by
  induction phrase with
  | nil => simp [Settled]
  | cons portion phrase ih =>
    obtain ⟨hgap, blank⟩ := List.forall_mem_cons.mp blank
    obtain ⟨hne, closed⟩ := List.forall_mem_cons.mp closed
    have hbehind : portion.gap ++ text phrase ≠ [] := by simp [hne]
    rw [text_cons, Text.settled_append hbehind]
    by_cases hrest : text phrase = []
    · rw [hrest, List.append_nil]
      exact hgap.settled
    · rw [Text.settled_append hrest]
      exact ih blank closed

theorem eq_nil_of_text {phrase : Phrase} (closed : phrase.Closed) (h : phrase.text = []) :
    phrase = [] := by
  cases phrase with
  | nil => rfl
  | cons portion phrase =>
    rw [text_cons, List.append_eq_nil_iff, List.append_eq_nil_iff] at h
    exact absurd h.2.1 (closed portion List.mem_cons_self)

end Phrase

-- The words that count are those of the full portions that a line begins with, and the blanks
-- behind the last of them are taken too.
theorem takeWords_of_phrase {phrase : Phrase} (full : ∀ portion ∈ phrase, portion.Full)
    {rest : Text} (hr : Flush rest) :
    takeWords phrase.length (phrase.text ++ rest) = some (phrase.words, rest) := by
  induction phrase with
  | nil => rfl
  | cons portion phrase ih =>
    obtain ⟨⟨hw, hg, hne⟩, full⟩ := List.forall_mem_cons.mp full
    have hrest := Phrase.flush_text_append full hr
    have hdetached : Text.Detached (portion.gap ++ (Phrase.text phrase ++ rest)) :=
      hg.detached_append fun he => absurd he hne
    simp only [Phrase.text_cons, List.append_assoc, List.length_cons, takeWords,
      Text.takeWhile_isInk_word hw hdetached, Text.dropWhile_isInk_word hw hdetached,
      Text.trimStart_gap_append hg hrest, ih full]
    simp [hw.1, hne, Phrase.words]

-- Behind a word that does not end its line there are blanks.
theorem exists_gap_of_dropWhile_isInk {line : Text} (h : line.dropWhile isInk ≠ []) :
    ∃ gap, IsGap gap ∧ gap ≠ [] ∧
      line.dropWhile isInk = gap ++ trimStart (line.dropWhile isInk) := by
  obtain ⟨gap, hg, he⟩ := Text.exists_gap (line.dropWhile isInk)
  refine ⟨gap, hg, ?_, he⟩
  rintro rfl
  have stop := List.head?_dropWhile_not isInk line
  cases hd : line.dropWhile isInk with
  | nil => exact h hd
  | cons c rest =>
    rw [hd] at he stop
    have hc : isBlank c = false :=
      Text.flush_trimStart (c :: rest) c (by rw [List.nil_append] at he; rw [← he]; rfl)
    simp [isInk, hc] at stop

theorem phrase_of_takeWords {count : Nat} {line rest : Text} {words : List Text}
    (h : takeWords count line = some (words, rest)) :
    ∃ phrase : Phrase, phrase.length = count ∧ phrase.words = words ∧
      (∀ portion ∈ phrase, portion.Full) ∧ line = phrase.text ++ rest ∧
      (phrase ≠ [] → Flush rest) := by
  induction count generalizing line words with
  | zero =>
    cases h
    exact ⟨[], rfl, rfl, by simp, rfl, fun hne => absurd rfl hne⟩
  | succ count ih =>
    simp only [takeWords] at h
    split at h
    · cases h
    · next stop =>
      obtain ⟨hword, hgap⟩ := not_or.mp stop
      obtain ⟨⟨others, left⟩, ho, he⟩ := Option.map_eq_some_iff.mp h
      simp only [Prod.mk.injEq] at he
      obtain ⟨rfl, rfl⟩ := he
      obtain ⟨phrase, hlen, hwords, full, hline, flush⟩ := ih ho
      obtain ⟨gap, hg, hne, hsplit⟩ := exists_gap_of_dropWhile_isInk hgap
      refine ⟨⟨line.takeWhile isInk, gap⟩ :: phrase, by simp [hlen], by simp [Phrase.words, ← hwords],
        List.forall_mem_cons.mpr ⟨⟨Text.isWord_takeWhile_isInk hword, hg, hne⟩, full⟩, ?_, ?_⟩
      · calc
          line = line.takeWhile isInk ++ line.dropWhile isInk :=
            List.takeWhile_append_dropWhile.symm
          _ = line.takeWhile isInk ++ (gap ++ (phrase.text ++ left)) := by rw [← hline, ← hsplit]
          _ = Phrase.text (⟨line.takeWhile isInk, gap⟩ :: phrase) ++ left := by simp
      · intro _
        cases phrase with
        | nil =>
          rw [Phrase.text_nil, List.nil_append] at hline
          rw [← hline]
          exact Text.flush_trimStart _
        | cons portion phrase => exact flush (by simp)

-- A literal takes its name and the blanks behind it, and needs none only at the end of the line.
theorem takeLiteral_eq_some_iff {name line rest : Text} :
    takeLiteral name line = some rest ↔
      ∃ gap, IsGap gap ∧ line = name ++ (gap ++ rest) ∧ Flush rest ∧ (gap = [] → rest = []) := by
  constructor
  · intro h
    unfold takeLiteral at h
    split at h
    · next hp =>
      obtain ⟨behind, rfl⟩ := List.isPrefixOf_iff_prefix.mp hp
      rw [List.drop_left] at h
      cases behind with
      | nil =>
        cases h
        exact ⟨[], by simp [IsGap], by simp, Text.flush_nil, fun _ => rfl⟩
      | cons c behind =>
        simp only at h
        split at h
        · next hc =>
          cases h
          obtain ⟨gap, hg, he⟩ := Text.exists_gap behind
          refine ⟨c :: gap, List.forall_mem_cons.mpr ⟨hc, hg⟩, ?_, Text.flush_trimStart behind,
            by simp⟩
          rw [List.cons_append, ← he]
        · cases h
    · cases h
  · rintro ⟨gap, hg, rfl, flush, hend⟩
    have hp : name.isPrefixOf (name ++ (gap ++ rest)) := by simp
    rw [takeLiteral, if_pos hp, List.drop_left]
    cases gap with
    | nil => rw [hend rfl]; rfl
    | cons c gap =>
      obtain ⟨hc, hg⟩ := List.forall_mem_cons.mp hg
      simp only [List.cons_append, hc, ↓reduceIte, Option.some.injEq]
      exact Text.trimStart_gap_append hg flush

-- How a child may stand in a line and what it is then bound to: a literal is its name, an
-- argument as many words as it is wide.
inductive Node.Spelled (node : Node) (name : Text) : Phrase → Option Text → Prop
  | literal {gap : Text} (kind : node.kind = .literal) (blank : IsGap gap) :
      node.Spelled name [⟨name, gap⟩] none
  | argument {phrase : Phrase} (kind : node.kind = .argument)
      (count : phrase.length = node.argument.width) (full : ∀ portion ∈ phrase, portion.Full) :
      node.Spelled name phrase (some (spaced phrase.words))

theorem Node.Spelled.ne_nil {node : Node} {name : Text} {phrase : Phrase} {bound : Option Text}
    (h : node.Spelled name phrase bound) : phrase ≠ [] := by
  cases h with
  | literal => simp
  | argument kind count =>
    rintro rfl
    exact absurd count (width_pos node.argument).ne

theorem Node.Spelled.settled_text {node : Node} {name : Text} {phrase : Phrase}
    {bound : Option Text} (h : node.Spelled name phrase bound) (closed : phrase.Closed) :
    Settled phrase.text := by
  refine Phrase.settled_text ?_ closed
  cases h with
  | literal kind blank => simpa using blank
  | argument kind count full => exact fun portion hp => (full portion hp).2.1

-- Only a literal can do without a blank behind it.
theorem Node.Spelled.of_not_closed {node : Node} {name : Text} {phrase : Phrase}
    {bound : Option Text} (h : node.Spelled name phrase bound) (hopen : ¬phrase.Closed) :
    node.kind = .literal ∧ phrase = [⟨name, []⟩] ∧ bound = none := by
  cases h with
  | @literal gap kind blank =>
    have hgap : gap = [] := by simpa [Phrase.Closed] using hopen
    exact ⟨kind, by rw [hgap], rfl⟩
  | argument kind count full =>
    exact absurd (fun portion hp => (full portion hp).2.2) hopen

theorem Node.Spelled.bite? {node : Node} {name : Text} {phrase : Phrase} {bound : Option Text}
    (h : node.Spelled name phrase bound) {rest : Text} (flush : Flush rest)
    (hend : ¬phrase.Closed → rest = []) :
    node.bite? name (phrase.text ++ rest) = some ⟨bound, rest⟩ := by
  cases h with
  | @literal gap kind blank =>
    have taken : takeLiteral name (Phrase.text [⟨name, gap⟩] ++ rest) = some rest := by
      refine takeLiteral_eq_some_iff.mpr ⟨gap, blank, by simp, flush, ?_⟩
      rintro rfl
      exact hend (by simp [Phrase.Closed])
    simp only [Node.bite?, kind, taken, Option.map_some]
  | argument kind count full =>
    simp [Node.bite?, kind, ← count, takeWords_of_phrase full flush]

theorem Node.spelled_of_bite? {node : Node} {name line : Text} {bite : Bite}
    (h : node.bite? name line = some bite) :
    ∃ phrase : Phrase, node.Spelled name phrase bite.bound ∧ line = phrase.text ++ bite.rest ∧
      Flush bite.rest ∧ (¬phrase.Closed → bite.rest = []) := by
  unfold Node.bite? at h
  split at h
  · cases h
  · next kind =>
    obtain ⟨rest, hr, rfl⟩ := Option.map_eq_some_iff.mp h
    obtain ⟨gap, hg, he, flush, hend⟩ := takeLiteral_eq_some_iff.mp hr
    exact ⟨[⟨name, gap⟩], .literal kind hg, by simp [he], flush,
      fun hc => hend (by simpa [Phrase.Closed] using hc)⟩
  · next kind =>
    obtain ⟨⟨words, rest⟩, hr, rfl⟩ := Option.map_eq_some_iff.mp h
    obtain ⟨phrase, count, rfl, full, he, flush⟩ := phrase_of_takeWords hr
    have spelled : node.Spelled name phrase (some (spaced phrase.words)) :=
      .argument kind count full
    exact ⟨phrase, spelled, he, flush spelled.ne_nil,
      fun hc => absurd (fun portion hp => (full portion hp).2.2) hc⟩

end CommandCompletion
