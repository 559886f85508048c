import CommandCompletion.Line.Suggestion
import Mathlib.Data.List.Basic

namespace CommandCompletion

-- A label goes on from what was typed. The default namespace at its front may be left out as long as
-- no namespace is typed.
def Continues (typed label : Text) : Prop :=
  typed <+: label ∨
    .char ':' ∉ typed ∧ ∃ bare, label = defaultNamespace ++ ":" ++ bare ∧ typed <+: bare

-- What goes on from a text goes on from each beginning of that text. Where the text needs the label
-- without its namespace, a beginning of it may still need none.
theorem Continues.of_longer {typed longer label : Text} (h : typed <+: longer)
    (hlonger : Continues longer label) : Continues typed label := by
  rcases hlonger with whole | ⟨colon, bare, rfl, hbare⟩
  · exact .inl (h.trans whole)
  · exact .inr ⟨fun hmem => colon (h.subset hmem), bare, rfl, h.trans hbare⟩

-- A label has another form without its namespace only if it has the namespace.
theorem stripNamespace_ne_iff {label bare : Text} :
    stripNamespace label = bare ∧ bare ≠ label ↔ label = defaultNamespace ++ ":" ++ bare := by
  unfold stripNamespace dropNamespace
  dsimp only
  split
  · next hfront =>
    obtain ⟨rest, rfl⟩ := List.isPrefixOf_iff_prefix.mp hfront
    rw [List.drop_left, List.append_cancel_left_eq, eq_comm]
    refine and_iff_left_of_imp ?_
    rintro rfl he
    have hlength := congrArg List.length he
    simp only [List.length_append] at hlength
    have hcolon : 0 < (":" : Text).length := by decide
    omega
  · next hfront =>
    refine iff_of_false ?_ ?_
    · rintro ⟨rfl, hne⟩
      exact hne rfl
    · rintro rfl
      exact hfront (List.isPrefixOf_iff_prefix.mpr (List.prefix_append _ _))

theorem Candidate.extends?_iff {c : Candidate} {typed : Text} :
    c.extends? typed = true ↔ Continues typed c.label := by
  unfold extends? Continues
  split
  · next hwhole => exact iff_of_true rfl (.inl (List.isPrefixOf_iff_prefix.mp hwhole))
  · next hwhole =>
    rw [List.isPrefixOf_iff_prefix] at hwhole
    rw [or_iff_right hwhole]
    split
    · next colon => exact iff_of_false nofun fun h => h.1 (by simpa using colon)
    · next colon =>
      rw [and_iff_right (by simpa using colon), Bool.and_eq_true, decide_eq_true_eq,
        List.isPrefixOf_iff_prefix]
      constructor
      · rintro ⟨hne, htyped⟩
        exact ⟨_, stripNamespace_ne_iff.mp ⟨rfl, hne⟩, htyped⟩
      · rintro ⟨bare, hlabel, htyped⟩
        obtain ⟨hstrip, hne⟩ := stripNamespace_ne_iff.mpr hlabel
        exact hstrip ▸ ⟨hne, htyped⟩

theorem Candidate.extends?_of_prefix {c : Candidate} {typed longer : Text}
    (h : typed <+: longer) (hc : c.extends? longer = true) : c.extends? typed = true :=
  extends?_iff.mpr ((extends?_iff.mp hc).of_longer h)

instance (typed label : Text) : Decidable (Continues typed label) :=
  decidable_of_iff ((⟨label, .keyword, none, []⟩ : Candidate).extends? typed = true)
    Candidate.extends?_iff

namespace Grammar

variable {g : Grammar}

-- All that is suggested goes on from the typed text.
theorem continues_of_suggest {r : Registries} {tip : g.Spot} {typed : Text}
    {candidates : List Candidate} {c : Candidate} (h : g.suggest r tip typed = .ok candidates)
    (hc : c ∈ candidates) : Continues typed c.label := by
  unfold suggest at h
  cases hchildren : g.childrenOf tip with
  | error fault =>
    rw [hchildren] at h
    cases h
  | ok children =>
    rw [hchildren] at h
    cases h
    obtain ⟨offer, hoffer, rfl⟩ := List.mem_map.mp hc
    exact Candidate.extends?_iff.mp (List.mem_filter.mp hoffer).2

-- The longer the typed text is, the fewer candidates are left, in the same order.
theorem exists_suggest_sublist {r : Registries} {tip : g.Spot} {typed longer : Text}
    (h : typed <+: longer) {candidates : List Candidate}
    (suggested : g.suggest r tip typed = .ok candidates) :
    ∃ fewer, g.suggest r tip longer = .ok fewer ∧ fewer.Sublist candidates := by
  unfold suggest at suggested ⊢
  cases hc : g.childrenOf tip with
  | error fault =>
    rw [hc] at suggested
    cases suggested
  | ok children =>
    rw [hc] at suggested
    cases suggested
    refine ⟨_, rfl, List.Sublist.map _ (List.monotone_filter_right _ ?_)⟩
    intro c hlonger
    exact Candidate.extends?_of_prefix h hlonger

end Grammar

end CommandCompletion
