import CommandCompletion.Proofs.Line.Course

namespace CommandCompletion

open Text (IsWord IsGap Flush Detached Settled)

variable {g : Grammar}

-- The first word of a phrase is not the name of a literal.
def Phrase.Fresh (phrase : Phrase) (children : List (Text × g.Spot)) : Prop :=
  ∀ pair ∈ children, pair.2.node.kind = .literal →
    ∀ portion ∈ phrase.head?, portion.word ≠ pair.1

instance (phrase : Phrase) (children : List (Text × g.Spot)) : Decidable (phrase.Fresh children) :=
  inferInstanceAs (Decidable (∀ pair ∈ children, _ → ∀ portion ∈ phrase.head?, _))

-- A name that a blank or the end of the line ends is taken with all the blanks behind it.
theorem takeLiteral_of_detached {name behind : Text} (h : Detached behind) :
    takeLiteral name (name ++ behind) = some (Text.trimStart behind) := by
  obtain ⟨gap, hg, he⟩ := Text.exists_gap behind
  have flush := Text.flush_trimStart behind
  have hend : gap = [] → Text.trimStart behind = [] := by
    rintro rfl
    rw [List.nil_append] at he
    rw [← he] at flush ⊢
    exact h.eq_nil flush
  exact takeLiteral_eq_some_iff.mpr ⟨gap, hg, by rw [← he], flush, hend⟩

-- A literal whose name is a word takes something from a line if and only if the name is the first
-- word of it.
theorem Node.bite?_isSome_iff_of_literal {node : Node} {name word behind : Text}
    (kind : node.kind = .literal) (hn : IsWord name) (hw : IsWord word) (hb : Detached behind) :
    (node.bite? name (word ++ behind)).isSome ↔ name = word := by
  simp only [Node.bite?, kind, Option.isSome_map]
  constructor
  · intro h
    obtain ⟨rest, hr⟩ := Option.isSome_iff_exists.mp h
    obtain ⟨gap, hg, he, -, hend⟩ := takeLiteral_eq_some_iff.mp hr
    have hdetached : Detached (gap ++ rest) :=
      hg.detached_append fun hnil => hend hnil ▸ Text.detached_nil
    exact (Text.word_unique hw hn hb hdetached he).symm
  · rintro rfl
    rw [takeLiteral_of_detached hb]
    rfl

-- Where it is ended, a phrase for a child begins with a word.
theorem Node.Spelled.first_word {node : Node} {name : Text} {phrase : Phrase}
    {bound : Option Text} (h : node.Spelled name phrase bound)
    (plain : node.kind = .literal → IsWord name) {rest : Text}
    (hend : ¬phrase.Closed → rest = []) :
    ∃ portion others, phrase = portion :: others ∧ IsWord portion.word ∧
      Detached (portion.gap ++ (Phrase.text others ++ rest)) := by
  have hne := h.ne_nil
  cases h with
  | @literal gap kind blank =>
    refine ⟨⟨name, gap⟩, [], rfl, plain kind, blank.detached_append fun hnil => ?_⟩
    have hrest : rest = [] := hend (by simpa [Phrase.Closed] using hnil)
    rw [hrest]
    exact Text.detached_nil
  | argument kind count full =>
    obtain ⟨portion, others, rfl⟩ := List.exists_cons_of_ne_nil hne
    obtain ⟨⟨hw, hg, hgap⟩, -⟩ := List.forall_mem_cons.mp full
    exact ⟨portion, others, rfl, hw, hg.detached_append fun hnil => absurd hnil hgap⟩

theorem Node.Spelled.flush_append {node : Node} {name : Text} {phrase : Phrase}
    {bound : Option Text} (h : node.Spelled name phrase bound)
    (plain : node.kind = .literal → IsWord name) {rest : Text}
    (hend : ¬phrase.Closed → rest = []) : Flush (phrase.text ++ rest) := by
  obtain ⟨portion, others, rfl, hw, -⟩ := h.first_word plain hend
  rw [Phrase.text_cons, List.append_assoc]
  exact hw.flush_append _

-- The word of a literal at the end of a line is not ended, so a phrase that ends in a blank lacks
-- none.
theorem Node.Spelled.closed_of_settled {node : Node} {name : Text} {phrase : Phrase}
    {bound : Option Text} (h : node.Spelled name phrase bound)
    (plain : node.kind = .literal → IsWord name) (settled : Settled phrase.text) :
    phrase.Closed := by
  cases h with
  | @literal gap kind blank =>
    have hne : gap ≠ [] := by
      rintro rfl
      exact (plain kind).not_settled (by simpa [Phrase.text] using settled)
    simpa [Phrase.Closed] using hne
  | argument kind count full => exact fun portion hp => (full portion hp).2.2

namespace Grammar

variable {spot child : g.Spot} {children : List (Text × g.Spot)} {name : Text}

-- Of the children in front of the one a phrase is for none takes anything. A literal in front has
-- another name than the first word, and in front of an argument or a literal there is no argument.
theorem bite?_eq_none_of_earlier (plain : g.PlainNames) (last : g.ArgumentLast)
    {earlier later : List (Text × g.Spot)}
    (hc : g.childrenOf spot = .ok (earlier ++ (name, child) :: later))
    {phrase : Phrase} {bound : Option Text} (spelled : child.node.Spelled name phrase bound)
    (fresh : child.node.kind = .argument → phrase.Fresh earlier) {rest : Text}
    (hend : ¬phrase.Closed → rest = []) :
    ∀ pair ∈ earlier, pair.2.node.bite? pair.1 (phrase.text ++ rest) = none := by
  rintro ⟨other, sibling⟩ hmem
  have names := nodup_names hc
  rw [List.map_append, List.map_cons, List.nodup_append] at names
  have hother : other ≠ name :=
    names.2.2 other (List.mem_map.mpr ⟨_, hmem, rfl⟩) name List.mem_cons_self
  cases kind : sibling.node.kind with
  | root => simp [Node.bite?, kind]
  | literal =>
    have hname : child.node.kind = .literal → IsWord name :=
      plain.isWord hc (List.mem_append_right _ List.mem_cons_self)
    obtain ⟨portion, others, rfl, hw, hd⟩ := spelled.first_word hname hend
    have hne : other ≠ portion.word := by
      cases spelled with
      | literal => exact hother
      | argument ckind => exact (fresh ckind _ hmem kind portion rfl).symm
    have howord : IsWord other := plain.isWord hc (List.mem_append_left _ hmem) kind
    rw [Phrase.text_cons, List.append_assoc, List.append_assoc, ← Option.not_isSome_iff_eq_none,
      Node.bite?_isSome_iff_of_literal kind howord hw hd]
    exact hne
  | argument =>
    have behind := (List.pairwise_append.mp (last.pairwise hc)).2.2 _ hmem _ List.mem_cons_self kind
    cases spelled with
    | literal ckind => exact absurd ckind behind.1
    | argument ckind => exact absurd ckind behind.2

-- The child a phrase is for is the one that takes it.
theorem Turn.of_spelled (plain : g.PlainNames) (last : g.ArgumentLast)
    (hc : g.childrenOf spot = .ok children) (hmem : (name, child) ∈ children) {phrase : Phrase}
    {bound : Option Text} (spelled : child.node.Spelled name phrase bound)
    (fresh : child.node.kind = .argument → phrase.Fresh children) {rest : Text}
    (flush : Flush rest) (hend : ¬phrase.Closed → rest = []) :
    g.Turn spot (phrase.text ++ rest) ⟨name, child, bound, phrase.text⟩ rest := by
  obtain ⟨earlier, later, rfl⟩ := List.append_of_mem hmem
  have hfresh : child.node.kind = .argument → phrase.Fresh earlier := by
    intro kind pair hp
    exact fresh kind pair (List.mem_append_left _ hp)
  have passed := bite?_eq_none_of_earlier plain last hc spelled hfresh hend
  exact ⟨⟨earlier, later, hc, passed⟩, spelled.bite? flush hend, rfl⟩

-- An argument is taken only where no literal could be.
theorem Turn.fresh (plain : g.PlainNames) (last : g.ArgumentLast) {line rest : Text}
    {step : Step g} (turn : g.Turn spot line step rest) (hc : g.childrenOf spot = .ok children)
    {phrase : Phrase} (spelled : step.spot.node.Spelled step.name phrase step.bound)
    (htaken : step.taken = phrase.text) (hend : ¬phrase.Closed → rest = [])
    (kind : step.spot.node.kind = .argument) : phrase.Fresh children := by
  obtain ⟨earlier, later, hcut, passed⟩ := turn.first
  have hchildren := Except.ok.inj (hc.symm.trans hcut)
  subst hchildren
  rintro ⟨other, sibling⟩ hmem okind portion hportion heq
  -- The literal stands in front of the argument, so it was tried before it.
  have hbefore : (other, sibling) ∈ earlier := by
    rcases List.mem_append.mp hmem with hbefore | hbehind
    · exact hbefore
    · have pairwise := (List.pairwise_append.mp (last.pairwise hc)).2.1
      rcases List.mem_cons.mp hbehind with hself | hbehind
      · cases hself
        simp [kind] at okind
      · exact absurd okind (((List.pairwise_cons.mp pairwise).1 _ hbehind) kind).1
  have hplain : step.spot.node.kind = .literal → IsWord step.name := by simp [kind]
  obtain ⟨first, others, rfl, hw, hd⟩ := spelled.first_word hplain hend
  cases hportion
  have howord : IsWord other := plain.isWord hc hmem okind
  have hbite := (Node.bite?_isSome_iff_of_literal okind howord hw hd).mpr heq.symm
  have hline : line = portion.word ++ (portion.gap ++ (Phrase.text others ++ rest)) := by
    rw [turn.whole, htaken, Phrase.text_cons, List.append_assoc, List.append_assoc]
  rw [← hline, passed _ hbefore] at hbite
  cases hbite

-- A turn whose text ends in a blank is taken again whatever stands behind that text.
theorem Turn.replay (plain : g.PlainNames) (last : g.ArgumentLast) {line rest other : Text}
    {step : Step g} (turn : g.Turn spot line step rest)
    (settled : rest = [] → Settled step.taken) (flush : Flush other) :
    g.Turn spot (step.taken ++ other) step other := by
  obtain ⟨children, hc, hmem⟩ := turn.mem_childrenOf
  obtain ⟨phrase, spelled, htaken, -, hend⟩ := turn.spelled
  have fresh := turn.fresh plain last hc spelled htaken hend
  have closed : phrase.Closed := by
    by_contra hopen
    have hsettled := settled (hend hopen)
    rw [htaken] at hsettled
    exact hopen (spelled.closed_of_settled (plain.isWord hc hmem) hsettled)
  have again :=
    Turn.of_spelled plain last hc hmem spelled fresh flush fun hopen => absurd closed hopen
  rwa [← htaken] at again

theorem Course.replay (plain : g.PlainNames) (last : g.ArgumentLast) {tip : g.Spot}
    {line left other : Text} {steps : List (Step g)} (course : g.Course spot line steps tip left)
    (settled : Settled (steps.flatMap (·.taken))) (flush : Flush other) :
    g.Course spot (steps.flatMap (·.taken) ++ other) steps tip other := by
  induction course with
  | nil => exact .nil _ _
  | @cons spot tip line rest left step steps turn others ih =>
    rw [List.flatMap_cons] at settled ⊢
    rw [List.append_assoc]
    have hflush : Flush (steps.flatMap (·.taken) ++ other) := by
      obtain ⟨phrase, -, -, flushRest, -⟩ := turn.spelled
      rw [others.whole] at flushRest
      exact flushRest.of_append flush
    have hsettled : rest = [] → Settled step.taken := by
      rintro rfl
      rw [others.of_nil.1] at settled
      simpa using settled
    exact .cons (turn.replay plain last hsettled hflush) (ih settled.of_append)

end Grammar

end CommandCompletion
